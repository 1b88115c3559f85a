import RouteDocs.Block
import RouteDocs.Route

/-!
# Parameters of operations

* `Param`: what a document says about one parameter;
* `Param.ofDeclaration`: the parameter that an annotation declares;
* `Placeholder.ofUri`: the placeholders of a URI;
* `Param.all`: the parameters of a route, inferred and declared.

A declaration reads `<type> [required] [in_path|in_query] $<name> | <description>`.
-/

namespace RouteDocs

/-- Where a parameter is passed, by the word that a document has for it. -/
structure Location where
  word : String
  deriving DecidableEq, Repr, Inhabited

namespace Location

def path : Location := ⟨"path"⟩

def query : Location := ⟨"query"⟩

def form : Location := ⟨"formData"⟩

end Location

structure Param where
  name : String
  location : Location
  description : String
  required : Bool
  type : String
  format : Option String
  deriving DecidableEq, Repr, Inhabited

/-- What a type word of a declaration stands for, and what it adds to the description. -/
structure ParamType where
  word : String
  type : String
  format : Option String
  addition : String
  deriving DecidableEq, Repr

namespace ParamType

/-- The type words, in the order in which a declaration is searched for them. -/
def all : List ParamType := [
  ⟨"string", "string", none, ""⟩,
  ⟨"integer", "integer", none, ""⟩,
  ⟨"bool", "integer", none, " | Boolean"⟩,
  ⟨"boolean", "integer", none, " | Boolean"⟩,
  ⟨"password", "string", some "password", ""⟩,
  ⟨"double", "number", some "double", ""⟩,
  ⟨"array", "array", none, ""⟩,
  ⟨"file", "file", none, ""⟩]

/-- The first type whose word is among the words. -/
def find? (words : List String) : Option ParamType := all.find? fun t => words.contains t.word

end ParamType

/-- Why a declaration declares no parameter. -/
inductive DeclarationFault where
  | missingType (name : Option String)
  | missingName
  deriving DecidableEq, Repr

namespace Param

/-- The name that the first word with a dollar sign gives, which may be empty. -/
def nameIn? (words : List String) : Option String :=
  (words.find? fun w => w.toList.head? == some '$').map fun w =>
    Text.strip (.ofList (w.toList.drop 1))

/-- Where the words say that the parameter is passed; the path wins over the query. -/
def locationIn (words : List String) : Location :=
  if words.contains "in_path" then .path
  else if words.contains "in_query" then .query
  else .form

/-- The parameter that a declaration declares. Only a file may be without a name; it is then called
`file`. -/
def ofDeclaration (declaration : String) : Except DeclarationFault Param :=
  let (directive, description) := Text.cut '|' declaration
  let words := Text.split directive
  match ParamType.find? words with
  | none => .error (.missingType (nameIn? words))
  | some t =>
    let words := words.erase t.word
    let param (name : String) : Param :=
      { name, location := locationIn words, description := Text.strip description ++ t.addition,
        required := words.contains "required", type := t.type, format := t.format }
    match nameIn? words with
    | some name =>
      if ! name.isEmpty then .ok (param name)
      else if t.type = "file" then .ok (param "file")
      else .error .missingName
    | none => if t.type = "file" then .ok (param "file") else .error .missingName

/-- The parameter that a declaration at a route's action declares. -/
def ofRoute (r : Route) (declaration : String) : Except Failure Param :=
  match ofDeclaration declaration with
  | .ok p => .ok p
  | .error (.missingType name) => .error (.missingType r.controller r.action name)
  | .error .missingName => .error (.missingName r.controller r.action declaration)

end Param

namespace Placeholder

/-- What stands between a brace that has just opened and the first closing brace on the same line,
and what follows that brace. -/
def body? : List Char → Option (List Char × List Char)
  | [] => none
  | c :: cs =>
    if c = '}' then some ([], cs)
    else if c = '\n' then none
    else (body? cs).map fun (body, rest) => (c :: body, rest)

/-- The placeholders of a URI after `skip` characters that belong to one already found. -/
def scan : Nat → List Char → List (List Char)
  | _, [] => []
  | skip + 1, _ :: cs => scan skip cs
  | 0, c :: cs =>
    if c = '{' then
      match body? cs with
      | some (body, _) => body :: scan (body.length + 1) cs
      | none => scan 0 cs
    else scan 0 cs

/-- What stands between the braces of a URI's placeholders, in order. -/
def ofUri (uri : String) : List String := (scan 0 uri.toList).map .ofList

/-- The name of a placeholder: all but its question marks. -/
def name (placeholder : String) : String := .ofList (placeholder.toList.filter (· ≠ '?'))

/-- Whether a placeholder may be left out of the URI. -/
def isOptional (placeholder : String) : Bool := placeholder.toList.contains '?'

def param (placeholder : String) : Param :=
  { name := name placeholder, location := .path, description := "Param in path",
    required := ! isOptional placeholder, type := "integer", format := none }

/-- The parameters of a URI by name. A repeated placeholder counts at its first place with its last
value. -/
def params (uri : String) : OrderedMap String Param :=
  (ofUri uri).foldl (fun ps placeholder => ps.insert (name placeholder) (param placeholder)) .empty

end Placeholder

namespace Param

/-- The parameters with one more. A parameter of its name is replaced, and moves to the end. -/
def declare (params : OrderedMap String Param) (p : Param) : OrderedMap String Param :=
  (params.erase p.name).insert p.name p

/-- The parameters of a route: those of its URI, and then the declared ones. The first declaration
at fault decides. -/
def all (declarations : List String) (r : Route) : Except Failure (List Param) := do
  let params ← declarations.foldlM
    (fun params declaration => return declare params (← ofRoute r declaration))
    (Placeholder.params r.uri)
  return params.values

end Param
end RouteDocs
