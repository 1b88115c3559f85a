import RouteDocs.Module.Statement.Run

namespace RouteDocs.Module

def failCall {α : Type} (name message : String) : Run α := fail "TypeError" (name ++ "() " ++ message)

namespace Function

/-- The names of parameters as they are bound. -/
def bound (f : Function) (names : List String) : List String := names.map (privateName f.owner)

/-- The arguments with names that belong to parameters, and all others. -/
def ownNamed (f : Function) (a : Arguments) : List (String × Object) × List (String × Object) :=
  let known := f.bound (f.signature.names.drop f.signature.positionOnly) ++
    f.bound f.signature.nameOnly
  a.named.partition fun (name, _) => known.contains name

/-- What a parameter is bound to: an argument, or its default. -/
def valueOf (f : Function) (given : List (String × Object)) (name : String) :
    Run (String × Object) := do
  let own := privateName f.owner name
  match given.lookup own <|> f.defaults.lookup name with
  | some o => return (own, o)
  | none => failCall f.name ("missing 1 required argument: '" ++ name ++ "'")

def bindings (f : Function) (a : Arguments) : Run (List (String × Object)) := do
  let s := f.signature
  let byPlace := (f.bound s.names).zip a.placed
  let (named, others) := f.ownNamed a
  if s.rest.isNone && s.names.length < a.placed.length then
    failCall f.name ("takes " ++ toString s.names.length ++ " positional arguments but " ++
      toString a.placed.length ++ " were given")
  else
    match named.find? fun (name, _) => byPlace.any (·.1 = name), s.restNamed.isNone, others with
    | some (name, _), _, _ => failCall f.name ("got multiple values for argument '" ++ name ++ "'")
    | none, true, (name, _) :: _ =>
      failCall f.name ("got an unexpected keyword argument '" ++ name ++ "'")
    | none, _, _ =>
      let given := byPlace ++ named
      let own ← (s.names ++ s.nameOnly).mapM (f.valueOf given)
      let rest := (f.bound s.rest.toList).map fun name =>
        (name, Object.tuple (a.placed.drop s.names.length))
      let restNamed ← (f.bound s.restNamed.toList).mapM fun name => do
        return (name, ← newMapping (others.map fun (key, o) => (.text key, o)))
      return own ++ rest ++ restNamed

def first? (f : Function) (bindings : List (String × Object)) : Option Object :=
  match f.signature.names, f.signature.rest with
  | name :: _, _ => bindings.lookup (privateName f.owner name)
  | [], some name =>
    match bindings.lookup (privateName f.owner name) with
    | some (.tuple (o :: _)) => some o
    | _ => none
  | [], none => none

def frame (f : Function) (h : Hooks) (scope : Nat) (self : Option Object) (items : Option Nat) :
    Frame where
  module := f.module
  here := scope
  own := some f.own
  globals := f.globals
  outers := []
  around := f.around
  owner := f.owner
  home := f.home
  self := self
  lead := if f.qualified.isEmpty then "" else f.qualified ++ ".<locals>."
  items := items
  postponed := f.postponed
  hooks := h

/-- Runs the body of a function. `items` is what takes the items that it gives one by one. -/
def run (f : Function) (h : Hooks) (items : Option Nat) (a : Arguments) : Run Object := do
  let bindings ← f.bindings a
  let scope ← create .scope bindings
  match ← (f.frame h scope (f.first? bindings) items).runAll f.body with
  | .result o => return o
  | _ => return .null

end Function

/-- The result of calling a function. One that gives items one by one runs when it is asked for
them, and one that waits is not followed. -/
def callFunction (h : Hooks) (id : Nat) (f : Function) (a : Arguments) : Run Object := do
  if f.isAsync then
    let _ ← f.bindings a
    return .unknown
  else if f.isGenerator then
    let _ ← f.bindings a
    return .entity (← create (.pending (.entity id) a) [])
  else f.run h none a

/-- The items of several objects, a row for each place in which all of them have one. -/
def rows (columns : List (List Object)) : List (List Object) :=
  let count := ((columns.map List.length).min?).getD 0
  (List.range count).map fun i => columns.map fun column => (column[i]?).getD .null

/-- Gives the items of what the library makes of others. -/
def giveOf (h : Hooks) (id : Nat) (path : String) (a : Arguments) : Run Unit := do
  match path, a.placed with
  | "map", f :: sources =>
    let columns ← sources.mapM fun o => o.items h
    (rows columns).forM fun row => do giveStep id (← h.call f (.of row))
  | "filter", [f, source] =>
    (← source.items h).forM fun o => do
      let verdict ← match f with
        | .null => pure o
        | .library "bool" => pure o
        | f => h.call f (.of [o])
      if ← verdict.truth h then giveStep id o else return
  | "enumerate", [.int start, source] =>
    (← source.items h).zipIdx.forM fun (o, i) => giveStep id (.tuple [.int (start + i), o])
  | "zip", sources =>
    let columns ← sources.mapM fun o => o.items h
    (rows columns).forM fun row => giveStep id (.tuple row)
    let isStrict ← ((a.named.lookup "strict").getD (.bool false)).truth h
    let counts := columns.map List.length
    if isStrict && counts.any fun n => some n != counts.head? then
      fail "ValueError" "zip() arguments have different lengths"
    else return
  | _, _ => return

/-- Gives the items of something that has not been asked for them. -/
def collect (h : Hooks) (id : Nat) : Run Unit := do
  let w ← get
  match w.kind? id with
  | some (.pending (.library path) a) => asSteps id (giveOf h id path a)
  | some (.pending (.entity function) a) =>
    match w.function? function with
    | some f => asSteps id (do let _ ← f.run h (some id) a)
    | none => return
  | _ => return

def failCallable {α : Type} (o : Object) : Run α := do
  fail "TypeError" ("'" ++ Object.className (← get) o ++ "' object is not callable")

def callClass (h : Hooks) (id : Nat) (a : Arguments) : Run Object := do
  let o := Object.entity id
  match (← get).special? o "__call__" with
  | some f =>
    let method ← Object.ofInstance h o ((← get).classOf o).object f
    h.call method a
  | none => Instance.make h (.own id) a

def callInstance (h : Hooks) (o : Object) (c : ClassRef) (a : Arguments) : Run Object := do
  let w ← get
  match w.find? c "__call__" with
  | some (.own f) =>
    let method ← Object.ofInstance h o c.object f
    h.call method a
  | some _ => return .unknown
  | none => failCallable o

def callObject (h : Hooks) : Object → Arguments → Run Object
  | .entity id, a => do
    match (← get).kind? id with
    | some (.function f) => callFunction h id f a
    | some (.class_ _) => callClass h id a
    | some (.instance_ c _) => callInstance h (.entity id) c a
    | _ => failCallable (.entity id)
  | .library path, a => Builtin.call h path a
  | .method path self, a => Frame.callMethod h path self a
  | .bound function self, a => callObject h function { a with placed := self :: a.placed }
  | .staticMethod function, a => callObject h function a
  | .alias origin _, a => callObject h origin a
  | .unknown, _ => return .unknown
  | o, _ => failCallable o

end RouteDocs.Module
