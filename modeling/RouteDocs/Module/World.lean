import RouteDocs.Failure
import RouteDocs.Module.Library
import RouteDocs.Module.Object
import RouteDocs.Module.Token
import RouteDocs.Printed

namespace RouteDocs.Module

/-- What has been built so far. Entities are known by their number.

* `searchPath` is the list of the places where modules are searched for; only a text in it names one;
* `modules` are those that are loaded from files, or what modules have put in their place, and
  `loaded` those of the library that lie in packages;
* `replaced` are those values of the library that modules have put in place of others, under the
  path of each;
* `isStrict` says that a text with half of a surrogate pair cannot be printed;
* `handled` is the exception that is being handled. -/
structure World where
  searchPath : List Object
  entities : Array Entity
  modules : OrderedMap String Object
  loaded : List String
  replaced : OrderedMap String Object
  printed : Printed
  isStrict : Bool
  handled : Option Object
  deriving Inhabited

namespace World

/-- The entity that stands for the modules that are loaded. -/
def modulesId : Nat := 0

/-- The entity that stands for the places where modules are searched for. -/
def searchPathId : Nat := 1

/-- The entity that holds the environment of the program. -/
def environmentId : Nat := 2

/-- The entity that stands for the version of the language. -/
def versionId : Nat := 3

/-- The names in the environment of a program that are always there. What they stand for is not
known. -/
def usualEnvironment : List (Object × Object) :=
  ["PATH", "HOME", "LANG", "PWD"].map fun name => (.text name, .unknown)

/-- The version of the language, with a name for each of its parts. -/
def version : Entity where
  kind := .instance_ (.library "sys.version_info")
    (.tuple [.int 3, .int 11, .unknown, .text "final", .int 0])
  members := .ofList [("major", .int 3), ("minor", .int 11), ("micro", .unknown),
    ("releaselevel", .text "final"), ("serial", .int 0)]

def empty (isStrict : Bool) : World where
  searchPath := []
  entities := #[⟨.modules, .empty⟩, ⟨.searchPath, .empty⟩, ⟨.mapping usualEnvironment, .empty⟩,
    version]
  modules := .empty
  loaded := Library.loadedSubmodules
  replaced := .empty
  printed := .nothing
  isStrict
  handled := none

def entity? (w : World) (id : Nat) : Option Entity := w.entities[id]?

def entriesOf (m : OrderedMap String Object) : List (Object × Object) :=
  m.entries.map fun (name, o) => (.text name, o)

def membersOf (w : World) (id : Nat) : List (Object × Object) :=
  ((w.entity? id).map fun e => entriesOf e.members).getD []

/-- What an entity is. One that stands for something else is a mapping or a list like others. -/
def kind? (w : World) (id : Nat) : Option Kind :=
  (w.entity? id).map fun e =>
    match e.kind with
    | .namesOf other => .mapping (w.membersOf other)
    | .modules =>
      .mapping (Library.core.map (fun name => (.text name, .library name)) ++ entriesOf w.modules)
    | .searchPath => .list w.searchPath
    | kind => kind

/-- The member of an entity itself. -/
def member? (w : World) (id : Nat) (name : String) : Option Object :=
  (w.entity? id).bind fun e => e.members.find? name

def add (w : World) (e : Entity) : Nat × World :=
  (w.entities.size, { w with entities := w.entities.push e })

def change (w : World) (id : Nat) (f : Entity → Entity) : World :=
  { w with entities := w.entities.modify id f }

def setMember (w : World) (id : Nat) (name : String) (o : Object) : World :=
  w.change id fun e => { e with members := e.members.insert name o }

def eraseMember (w : World) (id : Nat) (name : String) : World :=
  w.change id fun e => { e with members := e.members.erase name }

/-- The objects under names that entries make up. -/
def namedOf (entries : List (Object × Object)) : OrderedMap String Object :=
  .ofList (entries.filterMap fun (k, o) =>
    match k with
    | .text name => some (name, o)
    | _ => none)

def placesOf (items : List Object) : List FilePath :=
  items.filterMap fun o =>
    match o with
    | .text s => some (.ofText s)
    | _ => none

def places (w : World) : List FilePath := placesOf w.searchPath

/-- The world in which an entity is of another kind, or what it stands for is different. -/
def setKind (w : World) (id : Nat) (kind : Kind) : World :=
  match (w.entity? id).map Entity.kind, kind with
  | some (.namesOf other), .mapping entries =>
    w.change other fun e => { e with members := namedOf entries }
  | some .modules, .mapping entries =>
    let named := (namedOf entries).entries.filter fun (name, o) => o != .library name
    { w with modules := .ofList named }
  | some .searchPath, .list items => { w with searchPath := items }
  | _, _ => w.change id fun e => { e with kind }

/-- The world in whose environment a name has a value, or none. -/
def withEnvironment (w : World) (name : String) (value : Option String) : World :=
  w.change environmentId fun e =>
    match e.kind with
    | .mapping entries =>
      let others := entries.filter fun (key, _) => key != .text name
      { e with kind := .mapping (others ++ value.toList.map fun s => (.text name, .text s)) }
    | _ => e

end World

/-- A step that changes the world, and may raise an exception. What it changed before it raised
stays. -/
abbrev Run := ExceptT Object (StateM World)

def create (kind : Kind) (members : List (String × Object)) : Run Nat :=
  modifyGet fun w => w.add ⟨kind, .ofList members⟩

def newList (items : List Object) : Run Object := return .entity (← create (.list items) [])

def newMapping (entries : List (Object × Object)) : Run Object :=
  return .entity (← create (.mapping entries) [])

/-- The items of a set in the order in which it gives them: numbers by their size, and others as they
were put in. -/
def inSetOrder (items : List Object) : List Object :=
  let numbers := items.filterMap fun o =>
    match o with
    | .int n => if 0 ≤ n then some n else none
    | _ => none
  if numbers.length = items.length then numbers.mergeSort.map .int else items

def newSet (isFrozen : Bool) (items : List Object) : Run Object :=
  return .entity (← create (.set isFrozen (inSetOrder items)) [])

/-- Something that gives items one by one. -/
def newIterator (items : List Object) : Run Object := return .entity (← create (.iterator items) [])

def newException (path : String) (arguments : List Object) (members : List (String × Object)) :
    Run Object :=
  return .entity (← create (.instance_ (.library path) (.tuple arguments)) members)

/-- Raises an exception of a class of the library, with a message. -/
def fail {α : Type} (path message : String) : Run α := do
  throw (← newException path [.text message] [])

def raise {α : Type} (path : String) : Run α := do throw (← newException path [] [])

/-- Raises what there is to raise when there is no module of a name. -/
def failToFind {α : Type} (name : String) : Run α := do
  throw (← newException "ModuleNotFoundError" [.text ("No module named '" ++ name ++ "'")]
    [("name", .text name)])

namespace World

def class? (w : World) (id : Nat) : Option Class :=
  match w.kind? id with
  | some (.class_ c) => some c
  | _ => none

def function? (w : World) (id : Nat) : Option Function :=
  match w.kind? id with
  | some (.function f) => some f
  | _ => none

/-- The classes in which a class looks for its members. -/
def order (w : World) : ClassRef → List ClassRef
  | .own id => ((w.class? id).map Class.order).getD []
  | .library path => (Library.order path).map .library

/-- The class that an object is. -/
def classRef? (w : World) : Object → Option ClassRef
  | .entity id => (w.class? id).map fun _ => .own id
  | .library path => if Library.meaning path = .class_ then some (.library path) else none
  | _ => none

def kindClass : Kind → ClassRef
  | .module .. => .library "module"
  | .class_ c => c.meta_
  | .function _ => .library "function"
  | .instance_ of _ => of
  | .scope => .library "object"
  | .list _ => .library "list"
  | .mapping _ => .library "dict"
  | .set false _ => .library "set"
  | .set true _ => .library "frozenset"
  | .iterator _ => .library "list_iterator"
  | .pending (.library path) _ => .library path
  | .pending .. => .library "generator"
  | .steps .. => .library "generator"
  | .namesOf _ => .library "dict"
  | .modules => .library "dict"
  | .searchPath => .library "list"

def classOf (w : World) : Object → ClassRef
  | .null => .library "NoneType"
  | .ellipsis => .library "ellipsis"
  | .notImplemented => .library "NotImplementedType"
  | .bool _ => .library "bool"
  | .int _ => .library "int"
  | .float _ => .library "float"
  | .complex .. => .library "complex"
  | .text _ => .library "str"
  | .bytes _ => .library "bytes"
  | .tuple _ => .library "tuple"
  | .range .. => .library "range"
  | .slice .. => .library "slice"
  | .entity id => ((w.kind? id).map kindClass).getD (.library "object")
  | .library path =>
    match Library.meaning path with
    | .class_ => .library "type"
    | .callable => .library "builtin_function_or_method"
    | .module => .library "module"
    | .other => .library ""
  | .method .. => .library "builtin_function_or_method"
  | .bound .. => .library "method"
  | .staticMethod _ => .library "staticmethod"
  | .classMethod _ => .library "classmethod"
  | .property .. => .library "property"
  | .above .. => .library "super"
  | .alias .. => .library "types.GenericAlias"
  | .union _ => .library "types.UnionType"
  | .unknown => .library ""

/-- Whether a class is another or lies below it. -/
def isBelow (w : World) (c above : ClassRef) : Bool := (w.order c).contains above

def isInstance (w : World) (o : Object) (c : ClassRef) : Bool := w.isBelow (w.classOf o) c

def isException (w : World) (c : ClassRef) : Bool := w.isBelow c (.library "BaseException")

/-- The first member of that name in the classes of an order that modules have built. -/
def memberInOrder? (w : World) (name : String) (order : List ClassRef) : Option Object :=
  order.findSome? fun c =>
    match c with
    | .own id => w.member? id name
    | .library _ => none

/-- What an instance of a class that is based on one of the library's holds, and any other object by
itself. -/
def content (w : World) (o : Object) : Object :=
  match o with
  | .entity id =>
    match w.kind? id with
    | some (.instance_ _ .null) => o
    | some (.instance_ c inner) => if w.isException c then o else inner
    | _ => o
  | _ => o

def exceptionArguments (w : World) (o : Object) : List Object :=
  match o with
  | .entity id =>
    match w.kind? id with
    | some (.instance_ _ (.tuple items)) => items
    | _ => []
  | _ => []

end World

def World.className (w : World) : ClassRef → String
  | .own id => ((w.class? id).map Class.name).getD ""
  | .library path => (Text.cutLast '.' path).2

end RouteDocs.Module
