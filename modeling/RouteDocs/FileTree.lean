import RouteDocs.FilePath

namespace RouteDocs

/-- A file or a directory. The entries of a directory have distinct names. -/
inductive FileTree where
  | file (content : ByteArray)
  | directory (entries : List (String × FileTree))
  deriving Inhabited

/-- A place in a tree: the names on the way to it. -/
abbrev Place := List String

namespace FileTree

def isFile : FileTree → Bool
  | .file _ => true
  | .directory _ => false

def isDirectory (t : FileTree) : Bool := ! t.isFile

def entry? (name : String) : FileTree → Option FileTree
  | .file _ => none
  | .directory entries => entries.lookup name

/-- What a place holds. -/
def get? : FileTree → Place → Option FileTree
  | t, [] => some t
  | t, name :: rest => (t.entry? name).bind fun below => below.get? rest

/-- Entries with `t` under `name`: in place if the name is taken, otherwise at the end. -/
def setEntry (name : String) (t : FileTree) :
    List (String × FileTree) → List (String × FileTree)
  | [] => [(name, t)]
  | (n, old) :: rest => if n = name then (n, t) :: rest else (n, old) :: setEntry name t rest

/-- The tree with `new` at a place, if the place lies in a directory. -/
def put? : FileTree → FileTree → Place → Option FileTree
  | _, new, [] => some new
  | .file _, _, _ :: _ => none
  | .directory entries, new, [name] => some (.directory (setEntry name new entries))
  | .directory entries, new, name :: next :: rest => do
    let below ← entries.lookup name
    return .directory (setEntry name (← below.put? new (next :: rest)) entries)

/-- The tree without what a place holds. -/
def erase : FileTree → Place → FileTree
  | t, [] => t
  | .file content, _ :: _ => .file content
  | .directory entries, [name] => .directory (entries.filter (·.1 ≠ name))
  | .directory entries, name :: next :: rest =>
    match entries.lookup name with
    | some below => .directory (setEntry name (below.erase (next :: rest)) entries)
    | none => .directory entries

/-- Adds a file, or a directory without a content, and the directories on the way to it. -/
def plant (content : Option ByteArray) : FileTree → Place → FileTree
  | t, [] =>
    match content, t with
    | some bytes, _ => .file bytes
    | none, .directory entries => .directory entries
    | none, .file _ => .directory []
  | .file _, name :: rest => .directory [(name, plant content (.directory []) rest)]
  | .directory entries, name :: rest =>
    let below := (entries.lookup name).getD (.directory [])
    .directory (setEntry name (plant content below rest) entries)

/-- The tree that holds `t` at a place and nothing else. -/
def nested (t : FileTree) : Place → FileTree
  | [] => t
  | name :: rest => .directory [(name, nested t rest)]

mutual

/-- Everything below a place: the path of each directory with a `/` after it, and of each file with
its bytes. -/
def listing (lead : String) : FileTree → List (String × Option ByteArray)
  | .file _ => []
  | .directory entries => listingOf lead entries

/-- The listing of the entries of a directory. -/
def listingOf (lead : String) : List (String × FileTree) → List (String × Option ByteArray)
  | [] => []
  | (name, .file content) :: rest => (lead ++ name, some content) :: listingOf lead rest
  | (name, .directory below) :: rest =>
    (lead ++ name ++ "/", none) ::
      (listingOf (lead ++ name ++ "/") below ++ listingOf lead rest)

end

/-- What is new or different in the second of two trees, and the paths of the first that are gone,
both in the order of the paths. -/
def changes (before after : FileTree) : List (String × Option ByteArray) × List String :=
  let old := listing "" before
  let new := listing "" after
  let written := new.filter fun (path, content) =>
    match old.lookup path with
    | some former => former.map (·.data) != content.map (·.data)
    | none => true
  let removed := (old.map Prod.fst).filter fun path => ! (new.map Prod.fst).contains path
  (written.mergeSort fun a b => a.1 ≤ b.1, removed.mergeSort)

end FileTree

/-- Why a file or directory cannot be read, made or removed. -/
inductive FileTrouble where
  | notFound
  | notDirectory
  | isDirectory
  | alreadyExists
  /-- A path has a name, or is as a whole, longer than any can be. -/
  | nameTooLong
  /-- A path has the character U+0000, which no name can have. -/
  | nullCharacter
  deriving DecidableEq, Repr

/-- The most bytes that a name can have. -/
def FilePath.maxName : Nat := 255

/-- The bytes that a path has fewer of. -/
def FilePath.maxText : Nat := 4096

/-- What keeps a text from being a path at all. -/
def FilePath.textTrouble? (s : String) : Option FileTrouble :=
  if s.toList.any (·.toNat = 0) then some .nullCharacter
  else if maxText ≤ s.utf8ByteSize then some .nameTooLong
  else none

/-- A tree of files with a working directory, where relative paths start. -/
structure Disk where
  root : FileTree
  working : Place
  deriving Inhabited

namespace Disk

/-- The place that a step leads to from a directory; `..` leads to the directory around it. -/
def follow (d : Disk) (here : Place) (step : String) : Except FileTrouble Place :=
  match d.root.get? here with
  | none => .error .notFound
  | some (.file _) => .error .notDirectory
  | some (.directory _) =>
    if FilePath.maxName < step.utf8ByteSize then .error .nameTooLong
    else .ok (if step = ".." then here.dropLast else here ++ [step])

/-- The place that a path names. All but its last step have to exist. -/
def locate (d : Disk) (p : FilePath) : Except FileTrouble Place :=
  match FilePath.textTrouble? p.text with
  | some trouble => .error trouble
  | none => p.steps.foldlM d.follow (if p.isAbsolute then [] else d.working)

def find (d : Disk) (p : FilePath) : Except FileTrouble FileTree := do
  match d.root.get? (← d.locate p) with
  | some t => .ok t
  | none => .error .notFound

/-- What a path names, if it names a file or directory. A path that is too long is trouble, and all
else that keeps a path from naming something is none. -/
def find? (d : Disk) (p : FilePath) : Except FileTrouble (Option FileTree) :=
  match d.find p with
  | .ok t => .ok (some t)
  | .error .nameTooLong => .error .nameTooLong
  | .error _ => .ok none

def firstFile (d : Disk) : List FilePath → Except FileTrouble (Option FilePath)
  | [] => .ok none
  | p :: ps => do
    match ← d.find? p with
    | some (.file _) => return some p
    | _ => d.firstFile ps

def isDirectory (d : Disk) (p : FilePath) : Bool :=
  match d.find p with
  | .ok t => t.isDirectory
  | .error _ => false

def isFile (d : Disk) (p : FilePath) : Bool :=
  match d.find p with
  | .ok t => t.isFile
  | .error _ => false

def readBytes (d : Disk) (p : FilePath) : Except FileTrouble ByteArray := do
  match ← d.find p with
  | .file content => .ok content
  | .directory _ => .error .isDirectory

/-- The disk with `t` at a place whose directory exists. -/
def place (d : Disk) (t : FileTree) (here : Place) : Except FileTrouble Disk :=
  match d.root.put? t here with
  | some root => .ok { d with root }
  | none => .error .notFound

/-- Makes an empty directory. The one around it has to exist, and nothing may have its name. -/
def makeDirectory (d : Disk) (p : FilePath) : Except FileTrouble Disk := do
  let here ← d.locate p
  if (d.root.get? here).isSome then .error .alreadyExists else d.place (.directory []) here

/-- Makes the directory with these steps, the last first, and those around it, where they are
missing. Whatever the outcome, the directories made on the way stay. -/
def makeAll (isAbsolute : Bool) : List String → Disk → Disk × Option FileTrouble
  | [], d => (d, none)
  | step :: outer, d =>
    let p : FilePath := ⟨isAbsolute, (step :: outer).reverse⟩
    let accept (d : Disk) (trouble : FileTrouble) : Disk × Option FileTrouble :=
      (d, if d.isDirectory p then none else some trouble)
    match d.makeDirectory p with
    | .ok made => (made, none)
    | .error .notFound =>
      match makeAll isAbsolute outer d with
      | (d, some trouble) => (d, some trouble)
      | (d, none) =>
        match d.makeDirectory p with
        | .ok made => (made, none)
        | .error trouble => accept d trouble
    | .error trouble => accept d trouble

/-- Makes a new directory and the missing ones around it. -/
def makeDirectories (d : Disk) (p : FilePath) : Disk × Option FileTrouble :=
  match d.makeDirectory p with
  | .ok made => (made, none)
  | .error .notFound =>
    match makeAll p.isAbsolute p.steps.dropLast.reverse d with
    | (d, some trouble) => (d, some trouble)
    | (d, none) =>
      match d.makeDirectory p with
      | .ok made => (made, none)
      | .error trouble => (d, some trouble)
  | .error trouble => (d, some trouble)

/-- Removes a directory and all it holds. -/
def removeDirectory (d : Disk) (p : FilePath) : Except FileTrouble Disk := do
  let here ← d.locate p
  match d.root.get? here with
  | some (.directory _) => .ok { d with root := d.root.erase here }
  | some (.file _) => .error .notDirectory
  | none => .error .notFound

/-- Writes a file, in place of one with its name. -/
def writeFile (d : Disk) (p : FilePath) (content : ByteArray) : Except FileTrouble Disk := do
  let here ← d.locate p
  match d.root.get? here with
  | some (.directory _) => .error .isDirectory
  | _ => d.place (.file content) here

def workingTree (d : Disk) : FileTree := (d.root.get? d.working).getD (.directory [])

end Disk
end RouteDocs
