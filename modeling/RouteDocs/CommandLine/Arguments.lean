import RouteDocs.CommandLine.Command
import RouteDocs.Text.Cut
import RouteDocs.Text.Quoted
import RouteDocs.Text.Resemblance

namespace RouteDocs.CommandLine

/-- What a path should name and does not. -/
inductive PathFault where
  | missing
  | isFile
  | isDirectory
  deriving DecidableEq, Repr

inductive UsageFault where
  | noSuchOption (name : String) (similar : List String)
  | noSuchCommand (name : String) (similar : List String)
  | noCommand
  | valueNeeded (name : String)
  | valueRefused (name : String)
  | argumentMissing
  | argumentsLeft (texts : List String)
  | notAKind (value : String)
  | badPath (names : List String) (kind path : String) (fault : PathFault)
  | docsNeeded
  deriving DecidableEq, Repr

def inQuotes (s : String) : String := "'" ++ s ++ "'"

/-- A question whether one of some texts was meant. -/
def suggestion : List String → String
  | [] => ""
  | [s] => " Did you mean " ++ inQuotes s ++ "?"
  | ss => " (Did you mean one of: " ++ ", ".intercalate (ss.mergeSort.map inQuotes) ++ "?)"

def PathFault.text : PathFault → String
  | .missing => "does not exist"
  | .isFile => "is a file"
  | .isDirectory => "is a directory"

/-- The start of a message about the value of something with these names. -/
def invalidValue (names : List String) : String :=
  "Invalid value for " ++ " / ".intercalate (names.map inQuotes) ++ ": "

def UsageFault.message : UsageFault → String
  | .noSuchOption name similar => "No such option " ++ Text.quoted name ++ "." ++ suggestion similar
  | .noSuchCommand name similar =>
    "No such command " ++ Text.quoted name ++ "." ++ suggestion similar
  | .noCommand => "Missing command."
  | .valueNeeded name => "Option " ++ Text.quoted name ++ " requires an argument."
  | .valueRefused name => "Option " ++ Text.quoted name ++ " does not take a value."
  | .argumentMissing => "Missing argument " ++ inQuotes argumentWord ++ "."
  | .argumentsLeft texts =>
    "Got unexpected extra argument" ++ (if texts.length = 1 then "" else "s") ++ " (" ++
      " ".intercalate texts ++ ")"
  | .notAKind value =>
    invalidValue CommandOption.lookup.names ++ Text.quoted value ++ " is not one of " ++
      ", ".intercalate (LookupKind.all.map fun k => inQuotes k.word) ++ "."
  | .badPath names kind path fault =>
    invalidValue names ++ kind ++ " " ++ Text.quoted path ++ " " ++ fault.text ++ "."
  | .docsNeeded => "--lookup static requires --docs"

/-- Whether an argument is spelled like an option: a `-` and something after it. -/
def isOption (arg : String) : Bool :=
  match arg.toList with
  | '-' :: _ :: _ => true
  | _ => false

/-- An option that an argument names, with the value that is written in the same argument, if there
is one. An option that takes none has none. -/
def namedOption (options : List CommandOption) (arg : String) :
    Except UsageFault (CommandOption × Option String) :=
  let (long, value) := match Text.cut? "=" arg with
    | some (name, value) => (name, some value)
    | none => (arg, none)
  match options.find? (·.name = long) with
  | some o =>
    if o.valueWord?.isNone && value.isSome then .error (.valueRefused long) else .ok (o, value)
  | none =>
    if "--".isPrefixOf arg then
      .error (.noSuchOption long (Text.similar long (options.map CommandOption.name)))
    else
      let short : String := .ofList (arg.toList.take 2)
      let after : String := .ofList (arg.toList.drop 2)
      match options.find? (·.shortName? = some short) with
      | some o => .ok (o, if after.isEmpty then none else some after)
      | none => .error (.noSuchOption short [])

/-- The options that are given, with their values, and the other arguments. -/
structure Given where
  options : List (CommandOption × String)
  others : List String
  deriving DecidableEq, Repr

namespace Given

/-- Reads the arguments of a command. After `--` nothing is an option. -/
def ofArguments (options : List CommandOption) : List String → Except UsageFault Given
  | [] => .ok ⟨[], []⟩
  | arg :: rest =>
    if arg = "--" then .ok ⟨[], rest⟩
    else if isOption arg then do
      let (o, value?) ← namedOption options arg
      match value?, rest with
      | some value, rest =>
        let given ← ofArguments options rest
        return { given with options := (o, value) :: given.options }
      | none, rest =>
        if o.valueWord?.isNone then
          let given ← ofArguments options rest
          return { given with options := (o, "") :: given.options }
        else
          match rest with
          | [] => .error (.valueNeeded arg)
          | value :: rest =>
            let given ← ofArguments options rest
            return { given with options := (o, value) :: given.options }
    else do
      let given ← ofArguments options rest
      return { given with others := arg :: given.others }

def has (g : Given) (o : CommandOption) : Bool := g.options.any (·.1 = o)

/-- The value of an option; the last one counts. -/
def value? (g : Given) (o : CommandOption) : Option String := g.options.reverse.lookup o

end Given

/-- Reads the arguments before the name of a command: whether help is asked for, and the rest. -/
def readLead : List String → Except UsageFault (Bool × List String)
  | [] => .ok (false, [])
  | arg :: rest =>
    if arg = "--" then .ok (false, rest)
    else if isOption arg then do
      let _ ← namedOption [.help] arg
      let (_, left) ← readLead rest
      return (true, left)
    else .ok (false, arg :: rest)

end RouteDocs.CommandLine
