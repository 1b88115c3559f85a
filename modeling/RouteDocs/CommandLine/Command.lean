namespace RouteDocs.CommandLine

def program : String := "main"

/-- The ways to find documentation: in loaded modules, in source files, in a table. -/
inductive LookupKind where
  | imported
  | source
  | static
  deriving DecidableEq, Repr

namespace LookupKind

def all : List LookupKind := [.imported, .source, .static]

def word : LookupKind → String
  | .imported => "import"
  | .source => "source"
  | .static => "static"

def ofWord? (s : String) : Option LookupKind := all.find? (·.word = s)

end LookupKind

inductive CommandOption where
  | config
  | storage
  | appUrl
  | lookup
  | sourceRoot
  | docs
  | help
  deriving DecidableEq, Repr

namespace CommandOption

def name : CommandOption → String
  | .config => "--config"
  | .storage => "--storage"
  | .appUrl => "--app-url"
  | .lookup => "--lookup"
  | .sourceRoot => "--source-root"
  | .docs => "--docs"
  | .help => "--help"

def shortName? : CommandOption → Option String
  | .config => some "-c"
  | _ => none

/-- The names of an option, the short one first. -/
def names (o : CommandOption) : List String := o.shortName?.toList ++ [o.name]

/-- What stands for the value of an option, if it takes one. -/
def valueWord? : CommandOption → Option String
  | .config => some "PATH"
  | .storage => some "DIRECTORY"
  | .appUrl => some "TEXT"
  | .lookup => some ("[" ++ "|".intercalate (LookupKind.all.map LookupKind.word) ++ "]")
  | .sourceRoot => some "DIRECTORY"
  | .docs => some "FILE"
  | .help => none

def description : CommandOption → String
  | .config => "apidoc YAML config file."
  | .storage => "Storage root; output goes to <storage>/appDoc/resource.json."
  | .appUrl => "Application base URL (defaults to $APP_URL)."
  | .lookup => "How controller docstrings are read."
  | .sourceRoot => "Root directory of the controller packages."
  | .docs => "YAML/JSON table of docstrings for --lookup static."
  | .help => "Show this message and exit."

end CommandOption

inductive Command where
  | generate
  | inspect
  deriving DecidableEq, Repr

namespace Command

def all : List Command := [.generate, .inspect]

def name : Command → String
  | .generate => "generate"
  | .inspect => "inspect"

def ofName? (s : String) : Option Command := all.find? (·.name = s)

def description : Command → String
  | .generate => "Generate resource.json from a route manifest."
  | .inspect => "Print the annotations parsed for each route, without writing anything."

/-- What a command does, in one line of the list of commands. -/
def brief : Command → String
  | .generate => "Generate resource.json from a route manifest."
  | .inspect => "Print the annotations parsed for each route, without writing..."

def options : Command → List CommandOption
  | .generate => [.config, .storage, .appUrl, .lookup, .sourceRoot, .docs, .help]
  | .inspect => [.config, .lookup, .sourceRoot, .docs, .help]

end Command

def argumentWord : String := "ROUTES_PATH"

/-- The words of a text, laid out in lines of at most `width` characters; a longer word has a line
of its own. `line` is the line that has been started. -/
def layOut (width : Nat) (line : String) : List String → List String
  | [] => [line]
  | word :: words =>
    if line.isEmpty then layOut width word words
    else if line.length + 1 + word.length ≤ width then layOut width (line ++ " " ++ word) words
    else line :: layOut width word words

def pageWidth : Nat := 78

/-- The widest term of a table beside which its meaning stands in the same line. -/
def termWidth : Nat := 30

def blanks (n : Nat) : String := .ofList (List.replicate n ' ')

/-- A table of terms and meanings: the meanings stand in one column, below a term that is too
wide. -/
def table (rows : List (String × String)) : String :=
  let column := min ((rows.map fun (term, _) => term.length).foldl max 0) termWidth + 2
  let row : String × String → String := fun (term, meaning) =>
    let lead :=
      if term.length + 2 ≤ column then "  " ++ term ++ blanks (column - term.length)
      else "  " ++ term ++ "\n" ++ blanks (column + 2)
    let lines := layOut (pageWidth - column - 2) "" (meaning.splitOn " ")
    lead ++ ("\n" ++ blanks (column + 2)).intercalate lines ++ "\n"
  "".intercalate (rows.map row)

/-- The row of an option: its names and value, and its meaning. -/
def optionRow (o : CommandOption) : String × String :=
  (", ".intercalate o.names ++ ((o.valueWord?.map (" " ++ ·)).getD ""), o.description)

/-- The line that says how a command is used, or the program without one. -/
def usage : Option Command → String
  | none => "Usage: " ++ program ++ " [OPTIONS] COMMAND [ARGS]..."
  | some c => "Usage: " ++ program ++ " " ++ c.name ++ " [OPTIONS] " ++ argumentWord

/-- What is told about a command, or about the program. -/
def helpText : Option Command → String
  | none => usage none ++
    "\n\n  apidoc: generate Swagger 2.0 documentation from controller docstrings.\n\nOptions:\n" ++
    table [optionRow .help] ++ "\nCommands:\n" ++
    table (Command.all.map fun c => (c.name, c.brief))
  | some c => usage c ++ "\n\n  " ++ c.description ++ "\n\nOptions:\n" ++
    table (c.options.map optionRow)

end RouteDocs.CommandLine
