import RouteDocs.Lookup.Source
import RouteDocs.Module.Load
import RouteDocs.Text.Dedent

/-!
# Documentation from loaded modules

* `LoadedModules.actionDoc?`: the documentation of a class's action in a module that is loaded;
* `LoadedModules.lookup`: the look-up, which loads the modules it needs.

What counts is what the names are bound to once the module has run; an action can come from a class
above the controller's.
-/

namespace RouteDocs
open RouteDocs.Module

namespace LoadedModules

/-- Whether a module is the one that is missing, or lies in the package that is. -/
def isWithin (missing module : String) : Bool :=
  ! missing.isEmpty && (module == missing || (missing ++ ".").isPrefixOf module)

/-- A documentation without the margin of its lines. One that is no text cannot have any. -/
def dedented (o : Object) : Run (Option String) := do
  let w ← get
  match w.content o with
  | .text s => return some (Text.dedent s)
  | .unknown => return none
  | .bytes _ => raise "TypeError"
  | _ => raise "AttributeError"

/-- The documentation of an object, if it has one that says something. -/
def docOf? (h : Hooks) (o : Object) : Run (Option String) := do
  let doc ← o.member h "__doc__"
  if ← doc.truth h then dedented doc else return none

/-- The documentation of a class's action in a module that is loaded: what the module has under the
name of the class has to be a class, and what that has under the name of the action has to be
something that can be called. -/
def actionDoc? (h : Hooks) (module : Object) (className action : String) :
    Run (Option String) := do
  match ← module.memberOrNone h className with
  | none => return none
  | some c =>
    if ((← get).classRef? c).isNone then return none
    else
      match ← c.memberOrNone h action with
      | none => return none
      | some o => if (← get).isCallable o then docOf? h o else return none

/-- What it means that the module of a controller cannot be loaded. That there is no such module is no
trouble. -/
def unloaded (module : String) (cause : Raised) : Except Trouble (Option String) :=
  match cause.plea with
  | .moduleMissing (some missing) =>
    if isWithin missing module then .ok none else .error (.module cause)
  | _ => .error (.module cause)

/-- Loads the module of a controller and finds the documentation of an action in it. -/
def find (h : Hooks) (module className action : String) :
    Run (Except Trouble (Option String)) := do
  match ← attempt (h.load module) with
  | .error e => return unloaded module (← Exception.raised h e)
  | .ok o =>
    match ← attempt (actionDoc? h o className action) with
    | .error e => return .error (.module (← Exception.raised h e))
    | .ok doc => return .ok doc

/-- The documentation of an action, for which the module of its controller is loaded. -/
def lookup (disk : Disk) : Lookup World := fun w controller action =>
  let (module, className) := Controller.split controller
  if module.isEmpty || action.isEmpty then ⟨.ok none, .nothing, w⟩
  else if module.toList.head? = some '.' then ⟨.error .relativeModule, .nothing, w⟩
  else
    let (found, w) := (find (hooks disk) module className action).run w
    let doc : Except Trouble (Option String) := match found with
      | .ok doc => doc
      | .error _ => .error (.module (.error "Exception"))
    ⟨doc, w.printed, { w with printed := .nothing }⟩

end LoadedModules
end RouteDocs
