import RouteDocs.FileTree
import RouteDocs.Yaml.Scalar

namespace RouteDocs

/-- What is wrong with a field. -/
inductive IssueKind where
  | notText
  | notUnicode
  | notList
  | missing
  deriving DecidableEq, Repr

def IssueKind.word : IssueKind → String
  | .notText => "string_type"
  | .notUnicode => "string_unicode"
  | .notList => "list_type"
  | .missing => "missing"

/-- A field, or an item of a field, and what is wrong with it. -/
structure Issue where
  location : String
  kind : IssueKind
  deriving DecidableEq, Repr

def issueList (issues : List Issue) : String :=
  "<validation: " ++ ", ".intercalate (issues.map fun i => i.location ++ "=" ++ i.kind.word) ++ ">"

/-- What an exception of a controller module asks for, apart from being an error. -/
inductive Plea where
  | none
  /-- A module was not found; its name is known unless the module raised this without one. -/
  | moduleMissing (name : Option String)
  /-- The program is to end with a status, after a message where there is one. -/
  | exit (status : Int) (message : Option String)
  /-- The program is to end because nobody reads what it prints. -/
  | brokenPipe
  /-- The user wants the program to end. -/
  | interrupt
  /-- The program is to end as if the user wanted it. -/
  | abort
  /-- The program is to end with a status, after a message for the user. `isUsage` says that it is
  about how the command is used. -/
  | refused (status : Int) (isUsage : Bool) (message : String)
  /-- A failure like those that the program itself reports, with its message. -/
  | reported (message : String)
  deriving DecidableEq, Repr

/-- What a controller module raises while it is read or loaded: the name of its class, and what it
asks for. -/
structure Raised where
  className : String
  plea : Plea
  deriving DecidableEq, Repr

/-- An error of a class that asks for nothing. -/
def Raised.error (className : String) : Raised := ⟨className, .none⟩

/-- A cause outside the rules of documenting. -/
inductive Trouble where
  | file (cause : FileTrouble)
  /-- A file that is not UTF-8. -/
  | notUnicode
  /-- A value that is spelled like one of its kind and is none. -/
  | value (cause : Yaml.Failure)
  /-- A number with too many digits to be written. -/
  | numberTooLong
  /-- A settings key that is not a text. -/
  | keyNotText
  /-- A settings section that is not a mapping. -/
  | sectionNotMapping
  /-- A path without a last step, which therefore has no extension to replace. -/
  | noFileName
  /-- A module name that starts with a point. -/
  | relativeModule
  | module (cause : Raised)
  /-- A document with half of a surrogate pair in it. -/
  | documentNotUnicode
  /-- A line to be printed with half of a surrogate pair in it. -/
  | lineNotUnicode
  deriving DecidableEq, Repr

/-- A reason to give up. -/
inductive Failure where
  | urlMissing
  | settingsMissing (path : String)
  | settingsMalformed (path : String)
  | settingsNotMapping (path : String)
  | settingsInvalid (issues : List Issue)
  | manifestMalformed (path : String)
  | manifestNotList (path : String)
  | routeWithoutUri (index : Nat)
  | actionNotText (index : Nat)
  | methodsNotList (index : Nat)
  | routeInvalid (index : Nat) (issues : List Issue)
  | docsMalformed (path : String)
  | docsNotMapping (path : String)
  | missingType (controller action : String) (param : Option String)
  | missingName (controller action declaration : String)
  | invalid (issues : List Issue)
  | trouble (cause : Trouble)
  deriving DecidableEq, Repr

/-- What stands for the description of a malformed document. -/
def malformedText : String := "<yaml>"

/-- The text of a failure; a cause outside the rules of documenting has none. -/
def Failure.message : Failure → String
  | .urlMissing => "Please, set APP_URL in your env file"
  | .settingsMissing path => "Config file not found: " ++ path
  | .settingsMalformed path => "Invalid config file " ++ path ++ ": " ++ malformedText
  | .settingsNotMapping path => "Config file " ++ path ++ " must contain a mapping"
  | .settingsInvalid issues => "Invalid configuration: " ++ issueList issues
  | .manifestMalformed path => "Cannot parse route manifest " ++ path ++ ": " ++ malformedText
  | .manifestNotList path => "Route manifest " ++ path ++ " must contain a list of routes"
  | .routeWithoutUri index => "Route #" ++ toString index ++ " needs at least a 'uri'"
  | .actionNotText index =>
    "Route #" ++ toString index ++ ": 'action' must be a string like 'pkg.Controller@method'"
  | .methodsNotList index =>
    "Route #" ++ toString index ++ ": 'methods' must be a list or a '|'-separated string"
  | .routeInvalid index issues => "Route #" ++ toString index ++ ": " ++ issueList issues
  | .docsMalformed path => "Cannot parse docs table " ++ path ++ ": " ++ malformedText
  | .docsNotMapping path => "Docs table " ++ path ++ " must be a mapping"
  | .missingType controller action param =>
    "Missing type for " ++ controller ++ "@" ++ action ++ " with param " ++ param.getD ""
  | .missingName controller action declaration =>
    "Missing $name for " ++ controller ++ "@" ++ action ++ " in '" ++ declaration ++ "'"
  | .invalid issues => issueList issues
  | .trouble _ => ""

end RouteDocs
