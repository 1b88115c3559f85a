import RouteDocs.ApiDocument

/-!
# Documents from JSON values

* `Json.object?`, `Json.text?`, `Json.listOf?`, `Json.mapOf?`: a value of one kind;
* `Json.required?`, `Json.orDefault?`, `Json.optional?`: a field among the members of an object;
* `ApiDocument.ofJson?`: the document that a value stands for.

A field is found under the key with which documents are written or else, where that differs, under
the name of the field. Members of other keys are passed over.
-/

namespace RouteDocs

namespace Json

/-- The members of an object; of members with one key the last counts. -/
def object? : Json → Option (OrderedMap String Json)
  | .object members => some (.ofList members)
  | _ => none

def text? : Json → Option String
  | .text s => some s
  | _ => none

/-- A truth value, which is not spelled in any other way. -/
def bool? : Json → Option Bool
  | .bool b => some b
  | _ => none

section
variable {α : Type} (f : Json → Option α)

/-- What the items of an array stand for. -/
def listOf? : Json → Option (List α)
  | .array items => items.mapM f
  | _ => none

/-- What the members of an object stand for, under their keys. -/
def mapOf? : Json → Option (OrderedMap String α)
  | .object members => (members.mapM fun m => (f m.2).map fun a => (m.1, a)).map .ofList
  | _ => none

variable (fields : OrderedMap String Json) (keys : List String)

/-- The value of the first key that has one. -/
def field? : Option Json := keys.findSome? fields.find?

/-- A field that has to be there. -/
def required? : Option α := (field? fields keys).bind f

/-- A field that may be left out. -/
def orDefault? (default : α) : Option α :=
  match field? fields keys with
  | some value => f value
  | none => some default

/-- A field that may be left out or null. -/
def optional? : Option (Option α) :=
  match field? fields keys with
  | none | some .null => some none
  | some value => (f value).map some

end
end Json

def Param.ofJson? (value : Json) : Option Param := do
  let fields ← value.object?
  return {
    name := ← Json.required? Json.text? fields ["name"]
    location := ⟨← Json.required? Json.text? fields ["in", "location"]⟩
    description := ← Json.orDefault? Json.text? fields ["description"] ""
    required := ← Json.orDefault? Json.bool? fields ["required"] false
    type := ← Json.required? Json.text? fields ["type"]
    format := ← Json.optional? Json.text? fields ["format"] }

def DocumentTag.ofJson? (value : Json) : Option DocumentTag := do
  let fields ← value.object?
  return {
    name := ← Json.required? Json.text? fields ["name"]
    description := ← Json.required? Json.text? fields ["description"] }

def Operation.ofJson? (value : Json) : Option Operation := do
  let fields ← value.object?
  return {
    tags := ← Json.required? (Json.listOf? Json.text?) fields ["tags"]
    summary := ← Json.optional? Json.text? fields ["summary"]
    description := ← Json.required? Json.text? fields ["description"]
    operationId := ← Json.orDefault? Json.text? fields ["operationId", "operation_id"] ""
    consumes := ← Json.orDefault? (Json.listOf? Json.text?) fields ["consumes"] consumed
    produces := ← Json.orDefault? (Json.listOf? Json.text?) fields ["produces"] produced
    parameters := ← Json.required? (Json.listOf? Param.ofJson?) fields ["parameters"]
    responses := ← Json.required? (Json.mapOf? (Json.mapOf? (Json.listOf? Json.text?))) fields
      ["responses"] }

def DocumentInfo.ofJson? (value : Json) : Option DocumentInfo := do
  let fields ← value.object?
  return {
    description := ← Json.orDefault? Json.text? fields ["description"] ""
    version := ← Json.orDefault? Json.text? fields ["version"] ""
    title := ← Json.orDefault? Json.text? fields ["title"] "" }

def ApiDocument.ofJson? (value : Json) : Option ApiDocument := do
  let fields ← value.object?
  return {
    swagger := ← Json.orDefault? Json.text? fields ["swagger"] "2.0"
    info := ← Json.required? DocumentInfo.ofJson? fields ["info"]
    host := ← Json.required? Json.text? fields ["host"]
    basePath := ← Json.required? Json.text? fields ["basePath", "base_path"]
    tags := ← Json.orDefault? (Json.listOf? DocumentTag.ofJson?) fields ["tags"] []
    paths := ← Json.orDefault? (Json.mapOf? (Json.mapOf? Operation.ofJson?)) fields ["paths"]
      .empty }

end RouteDocs
