import RouteDocs.CommandLine.Arguments
import RouteDocs.Failure

namespace RouteDocs

/-- Whether what a path names is a file, if it names something. Whatever is followed by a `/` has to
be a directory. Only a path with the character U+0000 is trouble. -/
def Disk.kindAt? (d : Disk) (path : String) : Except FileTrouble (Option Bool) :=
  match FilePath.textTrouble? path with
  | some .nullCharacter => .error .nullCharacter
  | some _ => .ok none
  | none =>
    let step (here : Place) (piece : String) : Except FileTrouble Place :=
      match d.root.get? here with
      | some (.directory _) =>
        if piece = "" ∨ piece = "." then .ok here else d.follow here piece
      | some (.file _) => .error .notDirectory
      | none => .error .notFound
    let start := if path.toList.head? = some '/' then [] else d.working
    .ok <|
      if path.isEmpty then none
      else
        match (Text.splitAt '/' path).foldlM step start with
        | .ok place => (d.root.get? place).map FileTree.isFile
        | .error _ => none

namespace CommandLine

def defaultStorage : String := "storage"

/-- Why a run ends before its work is done. -/
inductive Refusal where
  | usage (fault : UsageFault)
  | failure (cause : Failure)
  deriving DecidableEq, Repr

/-- Whether what a path names is a file, if it names something. -/
def kindOf (disk : Disk) (path : String) : Except Refusal (Option Bool) :=
  (disk.kindAt? path).mapError fun cause => .failure (.trouble (.file cause))

def checkFile (disk : Disk) (names : List String) (path : String) : Except Refusal Unit := do
  match ← kindOf disk path with
  | some true => return
  | some false => .error (.usage (.badPath names "File" path .isDirectory))
  | none => .error (.usage (.badPath names "File" path .missing))

/-- Checks that a path names a directory, or nothing where it need not exist. -/
def checkDirectory (disk : Disk) (mustExist : Bool) (names : List String) (path : String) :
    Except Refusal Unit := do
  match ← kindOf disk path with
  | some false => return
  | some true => .error (.usage (.badPath names "Directory" path .isFile))
  | none =>
    if mustExist then .error (.usage (.badPath names "Directory" path .missing)) else return

namespace Given

/-- Checks the value of an option, or its default where it has one. -/
def checkOption (disk : Disk) (g : Given) (o : CommandOption) : Except Refusal Unit :=
  match o, g.value? o with
  | .config, some value => (kindOf disk value).map fun _ => ()
  | .storage, value? => checkDirectory disk false o.names (value?.getD defaultStorage)
  | .lookup, some value =>
    if (LookupKind.ofWord? value).isSome then .ok () else .error (.usage (.notAKind value))
  | .sourceRoot, some value => checkDirectory disk true o.names value
  | .docs, some value => checkFile disk o.names value
  | _, _ => .ok ()

def checkArgument (disk : Disk) (g : Given) : Except Refusal Unit :=
  match g.others with
  | [] => .error (.usage .argumentMissing)
  | path :: _ => checkFile disk [argumentWord] path

/-- Checks all values: the options in the order in which they are first given, the argument, the
options that are not given, and that no argument is left. -/
def check (disk : Disk) (g : Given) (options : List CommandOption) : Except Refusal Unit := do
  g.options.forM fun (o, _) => checkOption disk g o
  checkArgument disk g
  (options.filter (! g.has ·)).forM (checkOption disk g)
  match g.others.drop 1 with
  | [] => .ok ()
  | left => .error (.usage (.argumentsLeft left))

end Given

/-- What a command is to work on. -/
structure Request where
  routes : FilePath
  config : Option FilePath
  storage : FilePath
  appUrl : Option String
  kind : LookupKind
  sourceRoot : Option FilePath
  docs : Option FilePath
  deriving DecidableEq, Repr

/-- A text that counts as absent when it is empty. -/
def nonEmpty (s? : Option String) : Option String := s?.filter (! ·.isEmpty)

/-- The request that arguments amount to. The environment gives the URL that no option gives. -/
def Request.ofGiven (g : Given) (environment : Option String) : Request where
  routes := .ofText (g.others.head?.getD "")
  config := (g.value? .config).map .ofText
  storage := .ofText ((g.value? .storage).getD defaultStorage)
  appUrl := (g.value? .appUrl).or (nonEmpty environment)
  kind := ((g.value? .lookup).bind LookupKind.ofWord?).getD .imported
  sourceRoot := (g.value? .sourceRoot).map .ofText
  docs := (g.value? .docs).map .ofText

end CommandLine
end RouteDocs
