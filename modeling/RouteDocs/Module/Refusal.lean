import RouteDocs.Failure
import RouteDocs.Module.Method.Arguments
import RouteDocs.Module.Shown

/-!
# Exceptions that end a command

* `Refusal.decidingClass?`: the class of the library that decides about such an exception;
* `Refusal.fields`: what the arguments of such an exception say;
* `Refusal.plea?`: what such an exception asks for.

An exception of these classes is no fault of the program: it ends a command with a message for the
user, or with a status.
-/

namespace RouteDocs.Module.Refusal

def module : String := "click.exceptions."

/-- The class of exceptions with a message for the user. -/
def messageClass : String := module ++ "ClickException"

/-- The class of exceptions about how a command is used. -/
def usageClass : String := module ++ "UsageError"

/-- The class of exceptions that end a command with a status. -/
def statusClass : String := module ++ "Exit"

/-- The class of exceptions that end a command on behalf of the user. -/
def abortClass : String := module ++ "Abort"

/-- The module of the classes of the failures that the program itself reports. -/
def reportModule : String := "apidoc.errors."

/-- The first class in the order of a class that is one of those with arguments of their own; the
word after the module. -/
def decidingClass? (w : World) (c : ClassRef) : Option String :=
  (w.order c).findSome? fun k =>
    match k with
    | .library path =>
      if module.isPrefixOf path && path ≠ abortClass then some (Text.cutLast '.' path).2 else none
    | .own _ => none

def parameters : String → List String
  | "ClickException" => ["message"]
  | "Exit" => ["code"]
  | "FileError" => ["filename", "hint"]
  | "BadOptionUsage" => ["option_name", "message", "ctx"]
  | "NoSuchOption" => ["option_name", "message", "possibilities", "ctx"]
  | "BadParameter" => ["message", "ctx", "param", "param_hint"]
  | "MissingParameter" => ["message", "ctx", "param", "param_hint", "param_type"]
  | _ => ["message", "ctx"]

/-- What is said where no message is given, if something is. -/
def defaultMessage? (h : Hooks) (name : String) (given : String → Option Object) :
    Run (Option Object) := do
  match name, given "option_name" with
  | "FileError", _ =>
    match given "hint" with
    | some .null => return some (.text "unknown error")
    | some hint => return some hint
    | none => return some (.text "unknown error")
  | "MissingParameter", _ => return some (.text "")
  | "NoSuchOption", some option =>
    return some (.text ("No such option " ++ (← option.shown h) ++ "."))
  | _, _ => return none

/-- What the arguments of an exception say. -/
def fields (h : Hooks) (name : String) (a : Arguments) : Run (List (String × Object)) := do
  let given ← a.forNames (parameters name)
  let all := (parameters name).map fun key => (key, (given key).getD .null)
  if name = "Exit" then return [("exit_code", (given "code").getD (.int 0))]
  else
    let message ← match given "message" with
      | some .null => defaultMessage? h name given
      | some o => pure (some o)
      | none => defaultMessage? h name given
    match message with
    | some o => return ("message", o) :: all.filter (·.1 ≠ "message")
    | none =>
      fail "TypeError" (name ++ ".__init__() missing 1 required positional argument: 'message'")

def fieldText? (h : Hooks) (e : Object) (name : String) : Run (Option String) := do
  match ← e.memberOrNone h name with
  | none => return none
  | some .null => return none
  | some .unknown => return none
  | some (.tuple hints) =>
    return some (" / ".intercalate (← hints.mapM fun hint => hint.shown h))
  | some o => return some (← o.plain h)

/-- The message of an exception as the user sees it. -/
def messageText (h : Hooks) (name : String) (e : Object) : Run String := do
  match ← e.callSpecial? h "format_message" [] with
  | some o => o.plain h
  | none =>
    let message := (← fieldText? h e "message").getD "None"
    let hint ← fieldText? h e "param_hint"
    match name with
    | "BadParameter" =>
      return match hint with
        | some hint => "Invalid value for " ++ hint ++ ": " ++ message
        | none => "Invalid value: " ++ message
    | "MissingParameter" =>
      let what := (← fieldText? h e "param_type").getD "None"
      return "Missing " ++ what ++ (hint.map (" " ++ ·)).getD "" ++ "." ++
        (if message.isEmpty then "" else " " ++ message)
    | "FileError" =>
      let file := (← fieldText? h e "filename").getD "None"
      return "Could not open file " ++ Text.quoted file ++ ": " ++ message
    | _ => return message

def status (h : Hooks) (e : Object) (default : Int) : Run Int := do
  match ← e.memberOrNone h "exit_code" with
  | some o => return o.int?.getD default
  | none => return default

/-- What an exception asks for, if it is one of those that end a command. -/
def plea? (h : Hooks) (e : Object) : Run (Option Plea) := do
  let w ← get
  let c := w.classOf e
  let isA (path : String) : Bool := w.isBelow c (.library path)
  if isA abortClass then return some .abort
  else if isA statusClass then return some (.exit (← status h e 0) none)
  else if isA messageClass then
    let isUsage := isA usageClass
    let message ← messageText h ((decidingClass? w c).getD "") e
    return some (.refused (← status h e (if isUsage then 2 else 1)) isUsage message)
  else if (w.order c).any isReported then
    return some (.reported (← e.plain h))
  else return none
where
  /-- Whether a class is one of failures that the program itself reports. -/
  isReported : ClassRef → Bool
    | .library path => reportModule.isPrefixOf path
    | .own _ => false

end RouteDocs.Module.Refusal
