import RouteDocs.Module.Frame
import RouteDocs.Module.Statement.OfTokens
import RouteDocs.Module.Statement.Placed

namespace RouteDocs.Module
namespace Frame

/-- The class of texts that are ready to run. -/
def codeClass : ClassRef := .library "code"

/-- The text that an object stands for when it is to run. -/
def sourceOf (o : Object) : Run (Option String) := do
  let w ← get
  match o with
  | .entity id =>
    match w.kind? id with
    | some (.instance_ c (.text s)) => return if c = codeClass then some s else none
    | _ => fail "TypeError" "arg 1 must be a string, bytes or code object"
  | .text s => return some s
  | .bytes content => return String.fromUTF8? ⟨content.toArray⟩
  | .unknown => return none
  | _ => fail "TypeError" "arg 1 must be a string, bytes or code object"

/-- The statements of a text that is to run, or the one expression that it is to be. -/
def statementsOf (isExpr : Bool) (s : String) : Run (List Statement) := do
  let cs := if isExpr then s.toList.dropWhile fun c => c = ' ' || c = '\t' else s.toList
  if cs.any fun c => c.toNat = 0 then
    fail "ValueError" "source code string cannot contain null bytes"
  else
    match parse (Text.unifyNewlines cs) with
    | .error cause => fail cause.raised.className "invalid syntax"
    | .ok body =>
      if ! Statement.isModule body then fail "SyntaxError" "invalid syntax"
      else if isExpr then
        match body with
        | [.expression e] => return [.return_ (some e)]
        | _ => fail "SyntaxError" "invalid syntax"
      else return body

/-- The entity whose members a mapping stands for, and the mapping that has to be kept up to date with
them where it only holds a copy. -/
def namespaceOf (o : Object) : Run (Nat × Option Nat) := do
  let w ← get
  match o with
  | .entity id =>
    match (w.entity? id).map Entity.kind with
    | some (.namesOf other) => return (other, none)
    | some (.mapping entries) =>
      return (← create (.module "builtins" none) (World.namedOf entries).entries, some id)
    | _ => fail "TypeError" "globals must be a dict"
  | _ => fail "TypeError" "globals must be a dict"

/-- Keeps a mapping up to date with the members of an entity. -/
def keepUp (id : Nat) (copy : Option Nat) : Run Unit :=
  match copy with
  | some mapping => modify fun w => w.setKind mapping (.mapping (w.membersOf id))
  | none => return

def namesBound (body : List Statement) : List String :=
  Scope.locals (Statement.surveyAll { Place.top false with canReturn := true } body).mentions

/-- Runs statements with names of their own where the frame is a function, and otherwise in the
frame. -/
def runHere (f : Frame) (body : List Statement) : Run Object := do
  let bound := namesBound body
  let around : List Surrounding := match f.own with
    | some _ => f.surroundings
    | none => if f.here = f.module then f.around else ⟨f.here, bound, []⟩ :: f.around
  runIn f.module (if f.own.isSome then bound else []) around body
where
  /-- Runs statements in a module. -/
  runIn (module : Nat) (own : List String) (around : List Surrounding) (body : List Statement) :
      Run Object := do
    let function : Function := {
      name := "<module>", qualified := "", module, signature := .empty, defaults := [], body
      owner := none, home := none, around, own, globals := [], isAsync := false
      isGenerator := false, postponed := false }
    f.hooks.call (.entity (← create (.function function) [])) (.of [])

/-- Runs statements with the names of mappings. -/
def runWith (f : Frame) (globals : Object) (locals : Option Object) (body : List Statement) :
    Run Object := do
  let (module, copy) ← namespaceOf globals
  let (here, hereCopy) ← match locals with
    | some o => namespaceOf o
    | none => pure (module, none)
  let names := namesBound body ++ (← namesIn here)
  let around : List Surrounding := if here = module then [] else [⟨here, names, []⟩]
  let outcome ← tryCatch (do return Except.ok (← runHere.runIn f module [] around body))
    fun e => return Except.error e
  keepUp here hereCopy
  keepUp module copy
  match outcome with
  | .ok o => return o
  | .error e => throw e
where
  /-- The names of an entity. -/
  namesIn (id : Nat) : Run (List String) :=
    return (((← get).entity? id).map fun e => e.members.keys).getD []

/-- Runs a text, or evaluates it as one expression. -/
def evaluate (f : Frame) (isExpr : Bool) (a : Arguments) : Run Object := do
  match ← a.take 1 3 with
  | [] => return .null
  | source :: places =>
    match ← sourceOf source with
    | none => return .unknown
    | some s =>
      let body ← statementsOf isExpr s
      match places with
      | [] => f.runHere body
      | .null :: _ => f.runHere body
      | globals :: locals => f.runWith globals locals.head? body

def compiled (a : Arguments) : Run Object := do
  match a.placed with
  | source :: _ :: mode :: _ =>
    match ← sourceOf source, mode with
    | some s, .text kind =>
      if ! ["exec", "eval", "single"].contains kind then
        fail "ValueError" "compile() mode must be 'exec', 'eval' or 'single'"
      else
        let _ ← statementsOf (kind = "eval") s
        return .entity (← create (.instance_ codeClass (.text s)) [])
    | _, _ => return .unknown
  | _ => fail "TypeError" "compile() missing required argument"

/-- The object that a function sees as one of the classes behind its own. -/
def above (f : Frame) : Run Object := do
  match f.self, f.home with
  | none, _ => fail "RuntimeError" "super(): no arguments"
  | some _, none => fail "RuntimeError" "super(): __class__ cell not found"
  | some self, some home => return .above (.own home) self

def namesOf (id : Nat) : Run Object := do
  let names := (((← get).entity? id).map fun e => e.members.keys).getD []
  newList ((names.filter (· ≠ anyName)).mergeSort.map .text)

/-- The result of calling what the library has for the frame itself; none, if it has no such
thing. -/
def callHere? (f : Frame) (path : String) (a : Arguments) : Option (Run Object) :=
  match path, a.placed with
  | "super", [] => some f.above
  | "globals", [] => some (Object.newNamesOf f.module)
  | "locals", [] => some (Object.newNamesOf f.here)
  | "vars", [] => some (Object.newNamesOf f.here)
  | "dir", [] => some (namesOf f.here)
  | "eval", _ => some (f.evaluate true a)
  | "exec", _ => some do
    let _ ← f.evaluate false a
    return .null
  | "compile", _ => some (compiled a)
  | _, _ => none

def callMethod (h : Hooks) (path : String) (self : Object) (a : Arguments) : Run Object :=
  if path = "functools.update_wrapper" then
    Builtin.call h path { a with placed := a.placed ++ [self] }
  else Method.call h path self a

def call (f : Frame) (o : Object) (a : Arguments) : Run Object :=
  match o with
  | .library path => (f.callHere? path a).getD (Builtin.call f.hooks path a)
  | .method path self => callMethod f.hooks path self a
  | o => f.hooks.call o a

end Frame
end RouteDocs.Module
