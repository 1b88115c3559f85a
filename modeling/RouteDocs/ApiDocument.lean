import RouteDocs.Json
import RouteDocs.Operation
import RouteDocs.Text.Half

namespace RouteDocs

/-- What a document says about the application. -/
structure DocumentInfo where
  description : String
  version : String
  title : String
  deriving DecidableEq, Repr, Inhabited

/-- The document of an application's routes. -/
structure ApiDocument where
  swagger : String
  info : DocumentInfo
  host : String
  basePath : String
  tags : List DocumentTag
  paths : OrderedMap String (OrderedMap String Operation)
  deriving DecidableEq, Inhabited

namespace ApiDocument

/-- The host of an application: its URL without the scheme. -/
def hostOf (url : String) : String := Text.remove "https://" (Text.remove "http://" url)

/-- The document before any route. The settings have to name the application's URL. -/
def start? (settings : Settings) : Except Failure ApiDocument :=
  match settings.appUrl.filter (! ·.isEmpty) with
  | none => .error .urlMissing
  | some url => .ok {
      swagger := "2.0"
      info := ⟨settings.description, settings.version, settings.title⟩
      host := hostOf url
      basePath := "/" ++ Text.dropAround '/' settings.basePath
      tags := []
      paths := .empty }

/-- The document with an operation under a path and a verb. -/
def insert (d : ApiDocument) (path verb : String) (operation : Operation) : ApiDocument :=
  { d with paths := d.paths.alter path fun verbs => (verbs.getD .empty).insert verb operation }

/-- The document with a route whose action has this documentation. The tag is recorded first, so it
stays even if the annotations are at fault. -/
def record (d : ApiDocument) (settings : Settings) (r : Route) (doc : Option String) :
    ApiDocument × Option Failure :=
  let tagged := { d with tags := d.tags ++ [r.tag settings] }
  match r.operation (Block.ofText? doc) settings with
  | .error failure => (tagged, some failure)
  | .ok none => (tagged, none)
  | .ok (some operation) => (tagged.insert (r.path settings) r.verb operation, none)

end ApiDocument

def Json.texts (ss : List String) : Json := .array (ss.map .text)

/-- A map whose values are written by `f`. -/
def Json.ofMap {α : Type} (f : α → Json) (m : OrderedMap String α) : Json :=
  .object (m.entries.map fun (key, a) => (key, f a))

/-- A member that is left out when there is no text. -/
def Json.optionalMember (key : String) (s : Option String) : List (String × Json) :=
  (s.map fun s => (key, Json.text s)).toList

def Param.json (p : Param) : Json :=
  .object <|
    [("name", .text p.name), ("in", .text p.location.word), ("description", .text p.description),
      ("required", .bool p.required), ("type", .text p.type)] ++
    Json.optionalMember "format" p.format

def DocumentTag.json (t : DocumentTag) : Json :=
  .object [("name", .text t.name), ("description", .text t.description)]

def Operation.json (o : Operation) : Json :=
  .object <|
    [("tags", .texts o.tags)] ++ Json.optionalMember "summary" o.summary ++
    [("description", .text o.description), ("operationId", .text o.operationId),
      ("consumes", .texts o.consumes), ("produces", .texts o.produces),
      ("parameters", .array (o.parameters.map Param.json)),
      ("responses", .ofMap (.ofMap .texts) o.responses)]

def DocumentInfo.json (i : DocumentInfo) : Json :=
  .object [("description", .text i.description), ("version", .text i.version),
    ("title", .text i.title)]

def ApiDocument.json (d : ApiDocument) : Json :=
  .object [("swagger", .text d.swagger), ("info", d.info.json), ("host", .text d.host),
    ("basePath", .text d.basePath), ("tags", .array (d.tags.map DocumentTag.json)),
    ("paths", .ofMap (.ofMap Operation.json) d.paths)]

/-- The compact text of a document's value, whether or not it can be encoded. -/
def ApiDocument.text (d : ApiDocument) : String := d.json.write

/-- The JSON text of a document. One that holds half of a surrogate pair has none, nor has one with
a private-use character from U+109400 to U+109BFF, which cannot be told from a half. -/
def ApiDocument.serialize (d : ApiDocument) : Except Trouble String :=
  if Text.hasHalves d.text then .error .documentNotUnicode else .ok d.text

namespace ApiDocument
variable {d : ApiDocument}

theorem serialize_of_unicode (unicode : Text.hasHalves d.text = false) :
    d.serialize = .ok d.text := by
  rw [serialize, unicode, if_neg Bool.false_ne_true]

theorem serialize_of_halves (halves : Text.hasHalves d.text = true) :
    d.serialize = .error .documentNotUnicode := by
  rw [serialize, halves, if_pos rfl]

end ApiDocument
end RouteDocs
