import RouteDocs.Module.Definition
import RouteDocs.Module.Method.Construct

namespace RouteDocs.Module.Instance

/-- The classes of the library whose instances are filled after they are made. -/
def filledLater : List String := ["list", "dict", "set"]

/-- The entity that is to become the class that is made of some members, if these say so. -/
def cell? (w : World) (members : List (String × Object)) : Run (Option Nat) := do
  match members.lookup Definition.cellName with
  | none => return none
  | some (.entity id) => return if (w.kind? id) matches some .scope then some id else none
  | some _ => fail "TypeError" "type.__new__: __classcell__ must be a nonlocal cell"

def makeClass (h : Hooks) (meta_ : ClassRef) (name : String) (bases : List Object)
    (members : List (String × Object)) (named : List (String × Object)) : Run Object := do
  let others := members.filter (·.1 ≠ Definition.cellName)
  let id ← match ← cell? (← get) members with
    | some id =>
      modify fun w => w.change id fun e => { e with members := .ofList others }
      pure id
    | none => create .scope others
  Definition.finish h id name (some meta_) bases named
  return .entity id

/-- A new class, as a call of a class of classes gives it. -/
def classOfArguments (h : Hooks) (meta_ : ClassRef) (a : Arguments) : Run Object := do
  let w ← get
  match a.placed with
  | [name, bases, members] =>
    let name ← expectString name
    match bases, Operator.entries? w (w.content members) with
    | .tuple bases, some entries =>
      let members := entries.filterMap fun (k, v) =>
        match k with
        | .text s => some (s, v)
        | _ => none
      makeClass h meta_ name bases members (a.named.filter (·.1 ≠ "metaclass"))
    | _, _ => raise "TypeError"
  | _ => fail "TypeError" "type() takes 1 or 3 arguments"

/-- Whether a class has a member of that name that the library has set for every class. -/
def isUsual (w : World) (c : ClassRef) (name : String) : Bool :=
  match w.find? c name with
  | some (.library path _) => path = "object." ++ name
  | _ => false

/-- A new instance of a class that a module has built, before it is set up. -/
def newOwn (h : Hooks) (c : ClassRef) (a : Arguments) : Run Object := do
  let w ← get
  let isEmpty := a.placed.isEmpty && a.named.isEmpty
  if w.isException c then Exception.make h c a
  else
    match Definition.solidOf w c with
    | some "type" => classOfArguments h c a
    | some path =>
      let inner ← if filledLater.contains path then
          (Construct.content? h path ⟨[], []⟩).getD (return .null)
        else (Construct.content? h path a).getD (return .null)
      return .entity (← create (.instance_ c inner) [])
    | none =>
      if ! isEmpty && ! (w.order c).any World.isOpen then
        if ! isUsual w c "__new__" then
          fail "TypeError" "object.__new__() takes exactly one argument (the type to instantiate)"
        else if isUsual w c "__init__" then
          fail "TypeError" (w.className c ++ "() takes no arguments")
        else return .entity (← create (.instance_ c .null) [])
      else return .entity (← create (.instance_ c .null) [])

/-- A new instance of a class, before it is set up. -/
def new (h : Hooks) (c : ClassRef) (a : Arguments) : Run Object := do
  match c with
  | .own _ => newOwn h c a
  | .library path =>
    match Construct.content? h path a with
    | some run => run
    | none =>
      if path = "object" || (← get).isException c then newOwn h c a
      else if finalNames.contains path then
        fail "TypeError" ("cannot create '" ++ path ++ "' instances")
      else return .unknown
where
  /-- The classes that nothing can be made of by a call. -/
  finalNames : List String := [
    "function", "builtin_function_or_method", "generator", "coroutine", "async_generator",
    "wrapper_descriptor", "method-wrapper", "method_descriptor", "getset_descriptor",
    "member_descriptor", "dict_keys", "dict_values", "dict_items", "list_iterator"]

/-- Fills a collection with what arguments give. -/
def fill (h : Hooks) (id : Nat) (a : Arguments) : Run Unit := do
  match (← get).kind? id with
  | some (.list _) =>
    let items ← Construct.itemsOf h a
    modify fun w => w.setKind id (.list items)
  | some (.set isFrozen _) =>
    let items ← distinct h [] (← Construct.itemsOf h a)
    modify fun w => w.setKind id (.set isFrozen (inSetOrder items))
  | some (.mapping entries) =>
    let entries ← putKeys h entries (← entriesOfArguments h a)
    modify fun w => w.setKind id (.mapping entries)
  | _ => return

def setUp (h : Hooks) (self : Object) (a : Arguments) : Run Unit := do
  let w ← get
  let c := w.classOf self
  if w.isException c then Exception.setUp h self a
  else
    match Definition.solidOf w c, w.content self with
    | some path, .entity id => if filledLater.contains path then fill h id a
    | some _, _ => return
    | none, _ =>
      let isEmpty := a.placed.isEmpty && a.named.isEmpty
      if isEmpty || (w.order c).any World.isOpen then return
      else if ! isUsual w c "__init__" then
        fail "TypeError"
          "object.__init__() takes exactly one argument (the instance to initialize)"
      else if isUsual w c "__new__" then
        fail "TypeError" (w.className c ++ ".__init__() takes exactly one argument")
      else return

def make (h : Hooks) (c : ClassRef) (a : Arguments) : Run Object := do
  let w ← get
  let o ← match w.find? c "__new__" with
    | some (.own f) =>
      let f ← Object.ofClass h c.object f
      h.call f { a with placed := c.object :: a.placed }
    | _ => new h c a
  let w ← get
  if ! w.isInstance o c then return o
  else
    match w.find? (w.classOf o) "__init__" with
    | some (.own f) =>
      let f ← Object.ofInstance h o (w.classOf o).object f
      match ← h.call f a with
      | .null => return o
      | .unknown => return o
      | result =>
        fail "TypeError" ("__init__() should return None, not '" ++
          Object.className (← get) result ++ "'")
    | some (.library ..) =>
      match o with
      | .entity id =>
        match w.kind? id with
        | some (.instance_ ..) =>
          setUp h o a
          return o
        | _ => return o
      | _ => return o
    | _ => return o

end RouteDocs.Module.Instance
