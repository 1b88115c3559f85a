import RouteDocs.Field
import RouteDocs.Text.Numeral
import RouteDocs.Yaml.File

namespace RouteDocs

/-- What a run is told about the application. -/
structure Settings where
  title : String
  version : String
  description : String
  basePath : String
  appUrl : Option String
  uriLead : String
  controllerLead : String
  deriving DecidableEq, Repr, Inhabited

inductive Setting where
  | title
  | version
  | description
  | basePath
  | appUrl
  | uriLead
  | controllerLead
  deriving DecidableEq, Repr

namespace Setting

/-- All settings, in the order in which issues are told. -/
def all : List Setting :=
  [.title, .version, .description, .basePath, .appUrl, .uriLead, .controllerLead]

/-- The name of a setting, with underscores between its words. -/
def name : Setting → String
  | .title => "api_title"
  | .version => "api_version"
  | .description => "api_description"
  | .basePath => "api_base_path"
  | .appUrl => "app_url"
  | .uriLead => "uri_prefix"
  | .controllerLead => "controller_prefix"

/-- The other spelling of a setting's name, with capitals inside. -/
def otherName : Setting → String
  | .title => "apiTitle"
  | .version => "apiVersion"
  | .description => "apiDescription"
  | .basePath => "apiBasePath"
  | .appUrl => "appUrl"
  | .uriLead => "uriPrefix"
  | .controllerLead => "controllerPrefix"

/-- The name of the setting that a key spells the other way, or the key itself. -/
def canonicalName (key : String) : String :=
  match all.find? (·.otherName = key) with
  | some setting => setting.name
  | none => key

end Setting

namespace Settings

/-- The start of every URI unless the settings name another. -/
def defaultLead : String := "api/v1"

/-- The text of a setting, or a default where it is left out. Numbers are as good as texts. -/
def textField (fields : Fields) (setting : Setting) (default : String) : Checked String :=
  match fields.lookup setting.name with
  | some v => Field.text true setting.name v
  | none => .ok default

def ofFields (fields : Fields) : Checked Settings :=
  let checked :=
    (textField fields .title "").and <|
    (textField fields .version "").and <|
    (textField fields .description "").and <|
    (textField fields .basePath defaultLead).and <|
    (Field.optionalText true Setting.appUrl.name (fields.lookup Setting.appUrl.name)).and <|
    (textField fields .uriLead defaultLead).and <|
    textField fields .controllerLead ""
  checked.map fun (title, version, description, basePath, appUrl, uriLead, controllerLead) =>
    { title, version, description, basePath, appUrl, uriLead, controllerLead }

/-- A key of the settings file in the spelling with underscores. -/
def canonicalKey : Value → Value
  | .text s => .text (Setting.canonicalName s)
  | v => v

/-- The entries of the settings file with every key in one spelling; of two spellings of one setting
the later value counts. -/
def canonicalEntries (entries : List (Value × Value)) : List (Value × Value) :=
  entries.foldl (fun done (key, v) => Value.put (canonicalKey key) v done) []

/-- The part of the settings file that holds the settings: the entries of its own section, or all
of them where there is no such section. -/
def ownEntries (entries : List (Value × Value)) : Except Failure (List (Value × Value)) :=
  match Value.get? "apidoc" entries with
  | none => .ok entries
  | some own =>
    match own.opened with
    | .mapping entries => .ok entries
    | _ => .error (.trouble .sectionNotMapping)

/-- The entries with the application's URL settled: an argument that is not empty comes first, then
the file, then the environment. -/
def settleUrl (argument environment : Option String) (entries : List (Value × Value)) :
    List (Value × Value) :=
  let key := Setting.appUrl.name
  let given (s : Option String) : Option String := s.filter (! ·.isEmpty)
  match given argument with
  | some url => Value.put (.text key) (.text url) entries
  | none =>
    if ((Value.get? key entries).getD .null).isEmpty then
      Value.put (.text key)
        (match given environment with
          | some url => .text url
          | none => .null) entries
    else entries

/-- Entries whose keys are all texts, as fields. -/
def fieldsOf? : List (Value × Value) → Option Fields
  | [] => some []
  | (.text key, v) :: rest => (fieldsOf? rest).map ((key, v) :: ·)
  | _ :: _ => none

/-- Whether the value of a setting is a number with too many digits to be a text. -/
def hasEndlessNumber (fields : Fields) : Bool :=
  Setting.all.any fun setting =>
    match fields.lookup setting.name with
    | some (.int n) => Numeral.isTooLong n
    | _ => false

/-- The settings that these entries and the two other sources of the URL amount to. -/
def ofEntries (argument environment : Option String) (entries : List (Value × Value)) :
    Except Failure Settings :=
  match fieldsOf? (settleUrl argument environment (canonicalEntries entries)) with
  | none => .error (.trouble .keyNotText)
  | some fields =>
    if hasEndlessNumber fields then .error (.trouble .numberTooLong)
    else
      match ofFields fields with
      | .ok settings => .ok settings
      | .error issues => .error (.settingsInvalid issues)

def ofValue (path : String) (argument environment : Option String) (v : Value) :
    Except Failure Settings := do
  let v := if v.isEmpty then .mapping [] else v
  match v.opened with
  | .mapping entries => ofEntries argument environment (← ownEntries entries)
  | _ => .error (.settingsNotMapping path)

/-- The settings in a file, if there is to be one, with the URL from the argument or the
environment where they decide. -/
def load (disk : Disk) (file : Option FilePath) (argument environment : Option String) :
    Except Failure Settings := do
  match file with
  | none => ofEntries argument environment []
  | some path =>
    let found ← (disk.find? path).mapError fun cause => .trouble (.file cause)
    if found.isSome then
      let v ← disk.readDocument path (.settingsMalformed path.text)
      ofValue path.text argument environment v
    else .error (.settingsMissing path.text)

end Settings
end RouteDocs
