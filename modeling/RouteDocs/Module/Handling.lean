import RouteDocs.Module.Frame
import RouteDocs.Module.Loop

namespace RouteDocs.Module

/-- What a step gives or raises. -/
def attempt {α : Type} (run : Run α) : Run (Except Object α) :=
  tryCatch (do return .ok (← run)) fun e => return .error e

/-- What has been given or raised before. -/
def settle {α : Type} : Except Object α → Run α
  | .ok a => return a
  | .error e => throw e

/-- A step in which an exception is being handled; afterwards it is the one before again. -/
def handling {α : Type} (e : Object) (run : Run α) : Run α := do
  let before := (← get).handled
  modify fun w => { w with handled := some e }
  let outcome ← attempt run
  modify fun w => { w with handled := before }
  settle outcome

/-- A step, and after it another that is done in any case. What the other raises goes before what the
step raises, and so does its ending in another way than the usual one. -/
def finally_ (run last : Run Signal) : Run Signal := do
  match ← attempt run with
  | .ok s =>
    match ← last with
    | .done => return s
    | other => return other
  | .error e =>
    match ← handling e last with
    | .done => throw e
    | other => return other

def setNote (e : Object) (name : String) (o : Object) : Run Unit := do
  match e with
  | .entity id => modify fun w => w.setMember id name o
  | _ => return

/-- Raises an exception, with the one that is being handled as what was there before it. -/
def throwInContext (e : Object) : Run Signal := do
  match (← get).handled with
  | some context => if e.same context then pure () else setNote e "__context__" context
  | none => setNote e "__context__" .null
  throw e

/-- Raises an object, which has to be an exception or a class of exceptions. `cause` is what is said
to have caused it. -/
def throwObject (h : Hooks) (o : Object) (cause : Option Object) : Run Signal := do
  let e ← Exception.ofRaised h o
  match cause with
  | none => pure ()
  | some cause =>
    if ! Exception.isCause (← get) cause then
      fail "TypeError" "exception causes must derive from BaseException"
    else
      let cause ← if cause matches .null then pure cause else Exception.ofRaised h cause
      setNote e "__cause__" cause
      setNote e "__suppress_context__" (.bool true)
  throwInContext e

/-- The classes that an object after `except` names, if they are classes of exceptions. -/
def caughtClasses? (w : World) (o : Object) : Option (List Object) :=
  let all := match o with
    | .tuple items => items
    | o => [o]
  if all.all isFine then some all else none
where
  /-- Whether an object is a class of exceptions, or is not known. -/
  isFine (o : Object) : Bool :=
    match w.classRef? o with
    | some c => w.isException c || (w.order c).any World.isOpen
    | none =>
      match o with
      | .unknown => true
      | .library path => Library.meaning path = .other && path.toList.contains '.'
      | _ => false

/-- Whether an exception is of one of these classes. -/
def isCaught (w : World) (e : Object) (classes : List Object) : Bool :=
  classes.any fun o => (w.classRef? o).any (w.isInstance e)

/-- Whether an exception is of what stands after `except`. -/
def isCaughtBy (e kinds : Object) : Run Bool := do
  let w ← get
  match caughtClasses? w kinds with
  | some classes => return isCaught w e classes
  | none =>
    fail "TypeError" "catching classes that do not inherit from BaseException is not allowed"

def groupOf? (w : World) (e : Object) : Option (Object × List Object) :=
  match e with
  | .entity id =>
    match w.member? id "message", w.member? id "exceptions" with
    | some message, some (.tuple members) =>
      if w.isInstance e (.library "BaseExceptionGroup") then some (message, members) else none
    | _, _ => none
  | _ => none

def newGroup (message : Object) (members : List Object) : Run Object := do
  let w ← get
  let isErrors := members.all fun e => w.isInstance e (.library "Exception")
  let path := if isErrors then "ExceptionGroup" else "BaseExceptionGroup"
  newException path [message, .tuple members]
    [("message", message), ("exceptions", .tuple members)]

/-- A group like another with some of its members, unless there are none. -/
def regrouped (message : Object) (members : List Object) : Run (Option Object) := do
  if members.isEmpty then return none else return some (← newGroup message members)

/-- The part of a group that is of classes, and the rest. `n` bounds how deep groups lie in one
another. -/
def split (classes : List Object) : Nat → Object → Run (Option Object × Option Object)
  | 0, e => return (none, some e)
  | n + 1, e => do
    let w ← get
    if isCaught w e classes then return (some e, none)
    else
      match groupOf? w e with
      | none => return (none, some e)
      | some (message, members) =>
        let parts ← members.mapM (split classes n)
        return (← regrouped message (parts.filterMap Prod.fst),
          ← regrouped message (parts.filterMap Prod.snd))

/-- Raises what is left of an exception after handlers for groups: what they have raised, and what
none of them has handled. `isBare` says that the exception was no group itself. -/
def throwRest (isBare : Bool) (raised : List Object) (left : Option Object) : Run Signal := do
  match raised, left with
  | [], none => return .done
  | [], some e => throw e
  | [e], none => if isBare then throw e else throw (← newGroup (.text "") [e])
  | all, left => throw (← newGroup (.text "") (all ++ left.toList))

end RouteDocs.Module
