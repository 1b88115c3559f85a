import RouteDocs.Module.Builtin
import RouteDocs.Module.Scope

namespace RouteDocs.Module

/-- The module, class or function in which a step takes place.

* names are bound in the entity `here`; `own` are the names that belong to it, if it is a function;
* `globals` and `outers` are the names that are declared to be the module's, and those of a function
  outside, of which `around` are all, the nearest first;
* `owner` is the name of the class around the step, `home` the class of the function that runs, and
  `self` its first argument;
* `lead` stands before the names of what is defined here;
* `items` is the list of the items that the function gives one by one;
* where types are `postponed`, they are never evaluated. -/
structure Frame where
  module : Nat
  here : Nat
  own : Option (List String)
  globals : List String
  outers : List String
  around : List Surrounding
  owner : Option String
  home : Option Nat
  self : Option Object
  lead : String
  items : Option Nat
  postponed : Bool
  hooks : Hooks

namespace Frame

def top (module : Nat) (postponed : Bool) (hooks : Hooks) : Frame :=
  ⟨module, module, none, [], [], [], none, none, none, "", none, postponed, hooks⟩

/-- A name as it is written in the frame, as it is bound. -/
def nameOf (f : Frame) (name : String) : String := privateName f.owner name

/-- The scopes that what is defined here can see around it. -/
def surroundings (f : Frame) : List Surrounding :=
  match f.own with
  | some own => ⟨f.here, own, f.globals⟩ :: f.around
  | none => f.around

/-- The member of a module that holds the modules of the library from which it has taken all
names. -/
def anyName : String := "*"

/-- What modules of the library have under a name, if one of them has it. -/
def inLibraries? (w : World) (name : String) : List Object → Option Object
  | [] => none
  | .library path :: rest =>
    if "_".isPrefixOf name then none
    else
      match Library.child? w.loaded path name with
      | some found => some (if Library.contents.any (·.path = path) then Object.ofPath found
          else .unknown)
      | none => inLibraries? w name rest
  | _ :: _ => some .unknown

/-- What a name is bound to in every module, if it is. -/
def builtin? (name : String) : Option Object :=
  if name = "__debug__" then some (.bool true)
  else (Library.builtin? name).map Object.ofPath

/-- What a name is bound to in the module, or in every module. -/
def findGlobal (f : Frame) (name : String) : Run Object := do
  let w ← get
  match w.member? f.module name with
  | some o => return o
  | none =>
    match builtin? name with
    | some o => return o
    | none =>
      match w.member? f.module anyName with
      | some (.tuple libraries) =>
        match inLibraries? w name libraries with
        | some o => return o
        | none => failUndefined
      | _ => failUndefined
where
  /-- Raises what there is to raise when a name is not bound. -/
  failUndefined : Run Object := do
    throw (← newException "NameError" [.text ("name '" ++ name ++ "' is not defined")]
      [("name", .text name)])

/-- Raises what there is to raise when a name of a function is not bound yet. -/
def failUnbound {α : Type} (path name : String) : Run α := do
  throw (← newException path
    [.text ("cannot access local variable '" ++ name ++
      "' where it is not associated with a value")] [("name", .text name)])

/-- What a name is bound to in the functions around, or in the module. -/
def findAround (f : Frame) (name : String) : List Surrounding → Run Object
  | [] =>
    match name, f.home with
    | "__class__", some c => return .entity c
    | _, _ => f.findGlobal name
  | s :: rest => do
    if s.globals.contains name then f.findGlobal name
    else if s.own.contains name then
      match (← get).member? s.scope name with
      | some o => return o
      | none => failUnbound "NameError" name
    else f.findAround name rest

def find (f : Frame) (name : String) : Run Object := do
  if f.globals.contains name then f.findGlobal name
  else
    match f.own with
    | some own =>
      if own.contains name then
        match (← get).member? f.here name with
        | some o => return o
        | none => failUnbound "UnboundLocalError" name
      else f.findAround name f.around
    | none =>
      match (← get).member? f.here name with
      | some o => return o
      | none => f.findAround name f.around

/-- The entity in which the functions around bind a name, or the module. -/
def placeAround (f : Frame) (name : String) : List Surrounding → Nat
  | [] => f.module
  | s :: rest =>
    if s.globals.contains name then f.module
    else if s.own.contains name then s.scope
    else f.placeAround name rest

def placeOf (f : Frame) (name : String) : Nat :=
  if f.globals.contains name then f.module
  else
    match f.own with
    | some own => if own.contains name then f.here else f.placeAround name f.around
    | none => if f.outers.contains name then f.placeAround name f.around else f.here

def bind (f : Frame) (name : String) (o : Object) : Run Unit :=
  modify fun w => w.setMember (f.placeOf (f.nameOf name)) (f.nameOf name) o

def unbind (f : Frame) (name : String) : Run Unit := do
  let name := f.nameOf name
  let place := f.placeOf name
  if ((← get).member? place name).isSome then modify fun w => w.eraseMember place name
  else if f.own.isSome && place = f.here then failUnbound "UnboundLocalError" name
  else fail "NameError" ("name '" ++ name ++ "' is not defined")

end Frame
end RouteDocs.Module
