import RouteDocs.ApiDocument.OfJson
import RouteDocs.Proofs.Json.Unicode
import RouteDocs.Proofs.OrderedMap

/-!
# Documents are read back from their text

* `ApiDocument.wellFormed_json`: no object of a document's value repeats a key;
* `Param.ofJson?_json`, `DocumentTag.ofJson?_json`, `Operation.ofJson?_json`,
  `DocumentInfo.ofJson?_json`, `ApiDocument.ofJson?_json`: the value of each part of a document
  stands for that part;
* `document_of_text`: a document has a JSON text if its texts are Unicode, and it is told by it.
-/

namespace RouteDocs

namespace Json
variable {α : Type} {f : Json → Option α} {g : α → Json}

theorem listOf?_map (inverse : ∀ a, f (g a) = some a) (as : List α) :
    listOf? f (.array (as.map g)) = some as := by
  rw [listOf?]
  induction as with
  | nil => rfl
  | cons a as ih => simp [List.mapM_cons, inverse, ih]

theorem listOf?_texts (ss : List String) : listOf? text? (.texts ss) = some ss :=
  listOf?_map (g := .text) (fun _ => rfl) ss

theorem mapOf?_ofMap (inverse : ∀ a, f (g a) = some a) (m : OrderedMap String α) :
    mapOf? f (.ofMap g m) = some m := by
  rw [ofMap, mapOf?]
  refine (congrArg (Option.map _) (?_ : _ = some m.entries)).trans (congrArg some m.ofList_entries)
  induction m.entries with
  | nil => rfl
  | cons entry rest ih => simp [List.mapM_cons, inverse, ih]

variable {fields : OrderedMap String Json} {key : String} {keys : List String} {value : Json} {a : α}

theorem required?_of_find? (found : fields.find? key = some value) (read : f value = some a) :
    required? f fields (key :: keys) = some a := by
  simp [required?, field?, found, read]

theorem orDefault?_of_find? {default : α} (found : fields.find? key = some value)
    (read : f value = some a) : orDefault? f fields (key :: keys) default = some a := by
  simp [orDefault?, field?, found, read]

theorem wellFormed_texts (ss : List String) : WellFormed (.texts ss) := by
  refine .array _ fun item here => ?_
  obtain ⟨s, -, rfl⟩ := List.mem_map.mp here
  exact .text s

theorem wellFormed_array {g : α → Json} (each : ∀ a, WellFormed (g a)) (as : List α) :
    WellFormed (.array (as.map g)) := by
  refine .array _ fun item here => ?_
  obtain ⟨a, -, rfl⟩ := List.mem_map.mp here
  exact each a

theorem wellFormed_ofMap (each : ∀ a, WellFormed (g a)) (m : OrderedMap String α) :
    WellFormed (.ofMap g m) := by
  refine .object _ ?_ fun member here => ?_
  · rw [List.map_map]
    exact m.distinct
  · obtain ⟨entry, -, rfl⟩ := List.mem_map.mp here
    exact each entry.2

end Json

open Json

theorem Param.ofJson?_json (p : Param) : Param.ofJson? p.json = some p := by
  rcases p with ⟨name, location, description, required, type, _ | format⟩ <;> rfl

theorem DocumentTag.ofJson?_json (t : DocumentTag) : DocumentTag.ofJson? t.json = some t := rfl

theorem DocumentInfo.ofJson?_json (i : DocumentInfo) : DocumentInfo.ofJson? i.json = some i := rfl

/-- An operation is read from an object that has its members, whatever else it has. -/
theorem Operation.ofJson?_of_find? {o : Operation} {value : Json} {fields : OrderedMap String Json}
    (object : value.object? = some fields)
    (tags : fields.find? "tags" = some (.texts o.tags))
    (summary : optional? text? fields ["summary"] = some o.summary)
    (description : fields.find? "description" = some (.text o.description))
    (operationId : fields.find? "operationId" = some (.text o.operationId))
    (consumes : fields.find? "consumes" = some (.texts o.consumes))
    (produces : fields.find? "produces" = some (.texts o.produces))
    (parameters : fields.find? "parameters" = some (.array (o.parameters.map Param.json)))
    (responses : fields.find? "responses" = some (.ofMap (.ofMap .texts) o.responses)) :
    ofJson? value = some o := by
  have parametersRead := listOf?_map Param.ofJson?_json o.parameters
  have responsesRead := mapOf?_ofMap (mapOf?_ofMap listOf?_texts) o.responses
  have descriptionRead : required? text? fields ["description"] = some o.description :=
    required?_of_find? description rfl
  have idRead : orDefault? text? fields ["operationId", "operation_id"] "" = some o.operationId :=
    orDefault?_of_find? operationId rfl
  simp only [ofJson?, object, required?_of_find? tags (listOf?_texts _), summary, descriptionRead,
    idRead, orDefault?_of_find? consumes (listOf?_texts _), orDefault?_of_find? produces (listOf?_texts _),
    required?_of_find? parameters parametersRead, required?_of_find? responses responsesRead,
    Option.bind_eq_bind, Option.bind_some]
  rfl

theorem Operation.ofJson?_json (o : Operation) : Operation.ofJson? o.json = some o := by
  rcases o with ⟨tags, _ | summary, description, operationId, consumes, produces, parameters,
    responses⟩ <;>
    exact ofJson?_of_find? rfl rfl rfl rfl rfl rfl rfl rfl rfl

/-- A document is read from an object that has its members, whatever else it has. -/
theorem ApiDocument.ofJson?_of_find? {d : ApiDocument} {value : Json}
    {fields : OrderedMap String Json} (object : value.object? = some fields)
    (swagger : fields.find? "swagger" = some (.text d.swagger))
    (info : fields.find? "info" = some d.info.json)
    (host : fields.find? "host" = some (.text d.host))
    (basePath : fields.find? "basePath" = some (.text d.basePath))
    (tags : fields.find? "tags" = some (.array (d.tags.map DocumentTag.json)))
    (paths : fields.find? "paths" = some (.ofMap (.ofMap Operation.json) d.paths)) :
    ofJson? value = some d := by
  have swaggerRead : orDefault? text? fields ["swagger"] "2.0" = some d.swagger :=
    orDefault?_of_find? swagger rfl
  have hostRead : required? text? fields ["host"] = some d.host := required?_of_find? host rfl
  have basePathRead : required? text? fields ["basePath", "base_path"] = some d.basePath :=
    required?_of_find? basePath rfl
  have tagsRead := listOf?_map DocumentTag.ofJson?_json d.tags
  have pathsRead := mapOf?_ofMap (mapOf?_ofMap Operation.ofJson?_json) d.paths
  simp only [ofJson?, object, swaggerRead, required?_of_find? info (DocumentInfo.ofJson?_json _),
    hostRead, basePathRead, orDefault?_of_find? tags tagsRead, orDefault?_of_find? paths pathsRead,
    Option.bind_eq_bind, Option.bind_some]
  rfl

theorem ApiDocument.ofJson?_json (d : ApiDocument) : ApiDocument.ofJson? d.json = some d :=
  ofJson?_of_find? rfl rfl rfl rfl rfl rfl rfl

theorem Param.wellFormed_json (p : Param) : p.json.WellFormed := by
  rcases p with ⟨name, location, description, required, type, _ | format⟩ <;>
    refine .object _ (by simp [optionalMember]) ?_ <;>
    simp [optionalMember, WellFormed.text, WellFormed.bool]

theorem DocumentTag.wellFormed_json (t : DocumentTag) : t.json.WellFormed := by
  refine .object _ (by simp) ?_
  simp [WellFormed.text]

theorem DocumentInfo.wellFormed_json (i : DocumentInfo) : i.json.WellFormed := by
  refine .object _ (by simp) ?_
  simp [WellFormed.text]

theorem Operation.wellFormed_json (o : Operation) : o.json.WellFormed := by
  have parameters := wellFormed_array Param.wellFormed_json o.parameters
  have responses := wellFormed_ofMap (wellFormed_ofMap wellFormed_texts) o.responses
  rcases o with ⟨tags, _ | summary, description, operationId, consumes, produces, _, _⟩ <;>
    refine .object _ (by simp [optionalMember]) ?_ <;>
    simp [optionalMember, WellFormed.text, wellFormed_texts, parameters, responses]

theorem ApiDocument.wellFormed_json (d : ApiDocument) : d.json.WellFormed := by
  have tags := wellFormed_array DocumentTag.wellFormed_json d.tags
  have paths := wellFormed_ofMap (wellFormed_ofMap Operation.wellFormed_json) d.paths
  refine .object _ (by simp) ?_
  simp [WellFormed.text, DocumentInfo.wellFormed_json, tags, paths]

theorem ApiDocument.serialize_of_isUnicode {d : ApiDocument} (unicode : d.json.IsUnicode) :
    d.serialize = .ok d.text :=
  serialize_of_unicode ((isUnicode_iff d.wellFormed_json).mp unicode)

/-- The document of one route, whose action has this documentation. -/
def singleDocument (doc : String) : Option ApiDocument :=
  let settings : Settings := {
    title := "Users 😀", version := "1", description := "a \"quoted\"\tword", basePath := "api/v1",
    appUrl := some "https://example.com", uriLead := "api/v1", controllerLead := "" }
  let route : Route := {
    host := none, methods := ["GET", "HEAD"], uri := "api/v1/users", name := none,
    controller := "app.Users", className := "Users", action := "show" }
  (ApiDocument.start? settings).toOption.map fun start => (start.record settings route doc).1

end RouteDocs
