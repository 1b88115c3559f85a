import RouteDocs.Module.Exception
import RouteDocs.Module.Operator
import RouteDocs.Text.Identifier

namespace RouteDocs.Module.Definition

/-- The classes of the library that no class can be based on. -/
def finalClasses : List String := [
  "bool", "NoneType", "ellipsis", "NotImplementedType", "function", "builtin_function_or_method",
  "method", "range", "slice", "memoryview", "generator", "coroutine", "async_generator",
  "types.UnionType", "mappingproxy", "wrapper_descriptor", "method-wrapper", "method_descriptor",
  "getset_descriptor", "member_descriptor", "dict_keys", "dict_values", "dict_items",
  "list_iterator"]

/-- The class that something after a `class` statement's name stands for. -/
def baseOf (w : World) : Object → Option ClassRef
  | .unknown => some (.library "")
  | .alias origin _ => baseOf w origin
  | .library path =>
    match Library.meaning path with
    | .class_ => some (.library path)
    | .module => none
    | _ => if path.toList.contains '.' then some (.library path) else none
  | o => w.classRef? o

/-- The classes of the library whose instances hold something of their own. -/
def solidClasses : List String := [
  "int", "float", "complex", "str", "bytes", "bytearray", "tuple", "list", "dict", "set",
  "frozenset", "property", "staticmethod", "classmethod", "super", "type", "module",
  "BaseException", "BaseExceptionGroup", "OSError", "ImportError", "SyntaxError", "SystemExit",
  "StopIteration", "AttributeError", "NameError", "UnicodeDecodeError", "UnicodeEncodeError",
  "UnicodeTranslateError", "enumerate", "zip", "map", "filter", "reversed"]

/-- The first class in an order whose instances hold something of their own. -/
def solidOf (w : World) (c : ClassRef) : Option String :=
  (w.order c).findSome? fun k =>
    match k with
    | .library path => if solidClasses.contains path then some path else none
    | .own _ => none

/-- Whether the instances of classes can be those of one class: of any two that hold something of
their own, one lies below the other. -/
def areCompatible (w : World) (bases : List ClassRef) : Bool :=
  let solid := bases.filterMap (solidOf w)
  solid.all fun a => solid.all fun b =>
    (Library.order a).contains b || (Library.order b).contains a

/-- The order of a class with these bases, or with the one that all classes have. -/
def classOrder? (w : World) (id : Nat) (bases : List ClassRef) : Option (List ClassRef) :=
  linearize (.own id) (bases.map w.order)

def classOfClass (w : World) : ClassRef → ClassRef
  | .own id => ((w.class? id).map Class.meta_).getD (.library "type")
  | .library _ => .library "type"

/-- The class of what stands among the bases of a class, which need not be a class itself. -/
def classOfBase (w : World) (o : Object) : ClassRef :=
  match baseOf w o with
  | some c => classOfClass w c
  | none => w.classOf o

/-- The class of a class: the lowest of what is asked for and the classes of the bases, if there is
one. -/
def metaclass (w : World) (asked : Option ClassRef) (ofBases : List ClassRef) : Option ClassRef :=
  let all := asked.toList ++ ofBases
  all.foldlM (fun best c =>
    if w.isBelow best c then some best
    else if w.isBelow c best then some c
    else if World.isOpen best || World.isOpen c then some best
    else none) (all.head?.getD (.library "type"))

/-- The names of the slots that a class asks for, if it asks for any. -/
def slots? (w : World) (id : Nat) : Option (List Object) :=
  match w.member? id "__slots__" with
  | some (.text s) => some [.text s]
  | some (.tuple items) => some items
  | some (.entity l) =>
    match w.kind? l with
    | some (.list items) => some items
    | some (.mapping entries) => some (entries.map Prod.fst)
    | _ => none
  | _ => none

def isName (s : String) : Bool :=
  match s.toList with
  | c :: rest => Text.isIdentifierStart c && rest.all Text.isIdentifierChar
  | [] => false

def makeSlots (id : Nat) : Run Unit := do
  let w ← get
  match slots? w id with
  | none =>
    match w.member? id "__slots__" with
    | some (.int _) => fail "TypeError" "'int' object is not iterable"
    | some .null => fail "TypeError" "'NoneType' object is not iterable"
    | _ => return
  | some names =>
    names.forM fun o => do
      match o with
      | .text s =>
        if ! isName s then fail "TypeError" "__slots__ must be identifiers"
        else if s = "__dict__" || s = "__weakref__" then return
        else if (w.member? id s).isSome then
          fail "ValueError" ("'" ++ s ++ "' in __slots__ conflicts with class variable")
        else modify fun w => w.setMember id s .unknown
      | .unknown => return
      | _ => fail "TypeError" "__slots__ items must be strings"

/-- The member of a class that stands, until the class is made, for the class itself, which the
functions among its members refer to. -/
def cellName : String := "__classcell__"

/-- The members that a class has by nature, from those that its body has set. -/
def complete (w : World) (members : OrderedMap String Object) : OrderedMap String Object :=
  let wrap (name : String) (make : Object → Object) (m : OrderedMap String Object) :=
    match m.find? name with
    | some o => if w.isFunction o then m.insert name (make o) else m
    | none => m
  let m := wrap "__new__" .staticMethod members
  let m := wrap "__init_subclass__" .classMethod m
  let m := wrap "__class_getitem__" .classMethod m
  let m := if (m.find? "__eq__").isSome && (m.find? "__hash__").isNone then
      m.insert "__hash__" .null else m
  if (m.find? "__doc__").isSome then m else m.insert "__doc__" .null

/-- Tells the members of a class that want to know it their names. -/
def nameMembers (h : Hooks) (c : Object) (members : List (String × Object)) : Run Unit :=
  members.forM fun (name, o) => do
    let w ← get
    match w.special? o "__set_name__" with
    | none => return
    | some _ =>
      tryCatch (do let _ ← o.callSpecial? h "__set_name__" [c, .text name]) fun e => do
        if (← get).isInstance e (.library "Exception") then
          fail "RuntimeError" ("Error calling __set_name__ on " ++ name)
        else throw e

/-- Tells the classes above a class about it. -/
def announce (h : Hooks) (id : Nat) (order : List ClassRef) (named : List (String × Object)) :
    Run Unit := do
  let w ← get
  match w.findInOrder "__init_subclass__" (order.drop 1) with
  | some (.own o) =>
    let f ← Object.ofClass h (.entity id) o
    let _ ← h.call f ⟨[], named⟩
  | some (.library ..) =>
    if named.isEmpty || order.any World.isOpen then return
    else fail "TypeError" "__init_subclass__() takes no keyword arguments"
  | _ => return

/-- Makes a class of an entity whose members its body has set. -/
def finish (h : Hooks) (id : Nat) (name : String) (meta_ : Option ClassRef)
    (bases : List Object) (named : List (String × Object)) : Run Unit := do
  let w ← get
  match bases.mapM (baseOf w) with
  | none => fail "TypeError" "a base is no class"
  | some given =>
    let refs := if given.isEmpty then [ClassRef.library "object"] else given
    if refs.any fun c => finalClasses.any fun path => c = .library path then
      fail "TypeError" "not an acceptable base type"
    else if ! decide refs.Nodup && ! refs.contains (.library "") then
      fail "TypeError" "duplicate base class"
    else if ! areCompatible w refs then
      fail "TypeError" "multiple bases have instance lay-out conflict"
    else
      match classOrder? w id refs.eraseDups, metaclass w meta_ (refs.map (classOfClass w)) with
      | none, _ =>
        fail "TypeError" "Cannot create a consistent method resolution order (MRO) for bases"
      | _, none =>
        fail "TypeError" ("metaclass conflict: the metaclass of a derived class must be a " ++
          "(non-strict) subclass of the metaclasses of all its bases")
      | some order, some meta_ =>
        let qualified ← match w.member? id "__qualname__" with
          | some (.text s) => pure s
          | some .unknown => pure name
          | some _ => fail "TypeError" "type __qualname__ must be a str"
          | none => pure name
        makeSlots id
        let set := (((← get).entity? id).map Entity.members).getD .empty
        modify fun w => w.change id fun e => {
          kind := .class_ ⟨name, qualified, refs.eraseDups, order, meta_⟩
          members := complete w (e.members.erase "__qualname__") }
        nameMembers h (.entity id) set.entries
        announce h id order named

end RouteDocs.Module.Definition
