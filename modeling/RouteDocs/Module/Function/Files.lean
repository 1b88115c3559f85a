import RouteDocs.Module.Method.Text

/-!
# Files

* `Files.open_`: an open file;
* `Files.method?`: what an open file can be asked for;
* `Files.function?`: what can be asked about paths.

An open file holds the lines that have not been read. What a module writes to a file is not kept.
-/

namespace RouteDocs.Module.Files

/-- The class of open files that are read as text. -/
def textClass : String := "_io.TextIOWrapper"

/-- The class of open files that are read as bytes. -/
def bytesClass : String := "_io.BufferedReader"

/-- The exception that says why a file cannot be read. -/
def className : FileTrouble → String
  | .notFound => "FileNotFoundError"
  | .notDirectory => "NotADirectoryError"
  | .isDirectory => "IsADirectoryError"
  | .alreadyExists => "FileExistsError"
  | .nameTooLong => "OSError"
  | .nullCharacter => "ValueError"

/-- The number of the system for what is wrong with a file, and its words. -/
def systemText? : FileTrouble → Option (Int × String)
  | .notFound => some (2, "No such file or directory")
  | .notDirectory => some (20, "Not a directory")
  | .isDirectory => some (21, "Is a directory")
  | .alreadyExists => some (17, "File exists")
  | .nameTooLong => some (36, "File name too long")
  | .nullCharacter => none

def failWith {α : Type} (trouble : FileTrouble) (file : Object) : Run α := do
  match systemText? trouble with
  | none => fail (className trouble) "embedded null byte"
  | some (number, message) =>
    throw (← newException (className trouble) [.int number, .text message]
      [("errno", .int number), ("strerror", .text message), ("filename", file)])

/-- The pieces of a list up to and including each end. -/
def cutAfter {α : Type} (isEnd : α → Bool) : List α → List (List α)
  | [] => []
  | a :: rest =>
    if isEnd a then [a] :: cutAfter isEnd rest
    else
      match cutAfter isEnd rest with
      | [] => [[a]]
      | piece :: pieces => (a :: piece) :: pieces

/-- The lines of a text or of bytes, each with its end. -/
def linesOf : Object → List Object
  | .text s => (cutAfter (· == '\n') s.toList).map fun cs => .text (.ofList cs)
  | .bytes content => (cutAfter (· == 10) content).map .bytes
  | _ => []

/-- An open file with something to read. -/
def reading (path mode encoding : String) (content : Object) : Run Object := do
  let isText := content matches .text _
  let lines ← newIterator (linesOf content)
  let members := [("name", Object.text path), ("mode", .text mode), ("closed", .bool false)] ++
    (if isText then [("encoding", .text encoding), ("errors", .text "strict")] else [])
  return .entity (← create (.instance_ (.library (if isText then textClass else bytesClass)) lines)
    members)

def pathText? (w : World) (o : Object) : Option String :=
  match w.content o with
  | .text s => some s
  | .bytes content => String.fromUTF8? ⟨content.toArray⟩
  | _ => none

/-- Whether the letters of a mode are those that there are, with one of the four that say what is done
with the file. -/
def isMode (mode : String) : Bool :=
  let cs := mode.toList
  cs.all (fun c => "rwaxbt+".toList.contains c) && decide cs.Nodup &&
    (cs.filter fun c => "rwax".toList.contains c).length = 1 &&
    ! (cs.contains 'b' && cs.contains 't')

/-- Raises that a file cannot be made or written. -/
def checkWriting (d : Disk) (isNew : Bool) (file : Object) (p : FilePath) : Run Unit := do
  match d.find p with
  | .ok (.directory _) => failWith .isDirectory file
  | .ok (.file _) => if isNew then failWith .alreadyExists file
  | .error .notFound =>
    if ! d.isDirectory { p with steps := p.steps.dropLast } then failWith .notFound file
  | .error trouble => failWith trouble file

def open_ (h : Hooks) (a : Arguments) : Run Object := do
  let given ← a.forNames ["file", "mode", "buffering", "encoding", "errors", "newline", "closefd",
    "opener"]
  let w ← get
  let mode ← match given "mode" with
    | some o => expectString o
    | none => pure "r"
  if ! isMode mode then fail "ValueError" ("invalid mode: '" ++ mode ++ "'")
  else
    match given "file" with
    | none => raise "TypeError"
    | some file =>
      match pathText? w file, file with
      | none, .unknown => return .unknown
      | none, .int _ => return .unknown
      | none, _ =>
        fail "TypeError" ("expected str, bytes or os.PathLike object, not " ++
          Object.className w file)
      | some s, _ =>
        let p := FilePath.ofText s
        if s.isEmpty then failWith .notFound file
        else if s = "/dev/null" then
          if mode.toList.contains 'b' then reading s mode "" (.bytes [])
          else reading s mode "UTF-8" (.text "")
        else if mode.toList.contains '+' then return .unknown
        else if ! mode.toList.contains 'r' then
          checkWriting h.disk (mode.toList.contains 'x') file p
          return .unknown
        else
          match h.disk.readBytes p with
          | .error trouble => failWith trouble file
          | .ok content =>
            if mode.toList.contains 'b' then reading s mode "" (.bytes content.toList)
            else
              let encoding ← match given "encoding" with
                | some .null => pure "UTF-8"
                | some o => expectString o
                | none => pure "UTF-8"
              let errors ← match given "errors" with
                | some .null => pure "strict"
                | some o => expectString o
                | none => pure "strict"
              match ← TextMethod.decoded content.toList encoding errors with
              | .text text => reading s mode encoding (.text (Text.normalizeNewlines text))
              | other => return other

/-- Lines put together to one text, or to bytes. -/
def joined (isText : Bool) (lines : List Object) : Object :=
  if isText then
    .text (String.join (lines.filterMap fun o =>
      match o with
      | .text s => some s
      | _ => none))
  else
    .bytes (lines.flatMap fun o =>
      match o with
      | .bytes content => content
      | _ => [])

/-- The first part of a text or of bytes, and the rest. -/
def cutAt (n : Nat) : Object → Object × Object
  | .text s => (.text (.ofList (s.toList.take n)), .text (.ofList (s.toList.drop n)))
  | .bytes content => (.bytes (content.take n), .bytes (content.drop n))
  | o => (o, o)

/-- The number of characters or bytes that are asked for, if there is a bound. -/
def bound? (h : Hooks) (a : Arguments) : Run (Option Nat) := do
  match ← a.optional with
  | none => return none
  | some .null => return none
  | some o =>
    let n ← o.indexOf h
    return if n < 0 then none else some n.toNat

/-- What an open file with lines left gives; none, if this is not followed. -/
def method? (h : Hooks) (name : String) (self : Nat) (isText : Bool) (lines : Nat)
    (a : Arguments) : Option (Run Object) :=
  let rest : Run (List Object) := do
    if (← get).member? self "closed" == some (.bool true) then
      fail "ValueError" "I/O operation on closed file."
    else
      match (← get).kind? lines with
      | some (.iterator items) => return items
      | _ => return []
  let keep (items : List Object) : Run Unit := modify fun w => w.setKind lines (.iterator items)
  let give (n : Option Nat) (o : Object) (others : List Object) : Run Object := do
    let (part, left) := match n with
      | some n => cutAt n o
      | none => (o, joined isText [])
    keep (linesOf left ++ others)
    return part
  match name with
  | "read" => some do
    let n ← bound? h a
    give n (joined isText (← rest)) []
  | "readline" => some do
    let n ← bound? h a
    match ← rest with
    | line :: others => give n line others
    | [] => return joined isText []
  | "readlines" => some do
    let all ← rest
    keep []
    newList all
  | "__next__" => some do
    match ← rest with
    | line :: others =>
      keep others
      return line
    | [] => raise "StopIteration"
  | "__iter__" => some do
    let _ ← rest
    return .entity self
  | "__enter__" => some do
    let _ ← rest
    return .entity self
  | "__exit__" => some do
    modify fun w => w.setMember self "closed" (.bool true)
    return .null
  | "close" => some do
    modify fun w => w.setMember self "closed" (.bool true)
    return .null
  | "readable" => some (return .bool true)
  | "writable" => some (return .bool false)
  | "write" => some (fail "io.UnsupportedOperation" "not writable")
  | "writelines" => some (fail "io.UnsupportedOperation" "not writable")
  | _ => none

def joinPaths : List String → String
  | [] => ""
  | [s] => s
  | s :: t :: rest =>
    let joined := if "/".isPrefixOf t || s.isEmpty then t
      else if "/".toList.isSuffixOf s.toList then s ++ t else s ++ "/" ++ t
    joinPaths (joined :: rest)
termination_by parts => parts.length

/-- A path in two: up to its last step, without the slashes before that unless there is nothing else,
and its last step. -/
def splitPath (s : String) : String × String :=
  let last := (s.toList.reverse.takeWhile (· ≠ '/')).reverse
  let outer := s.toList.take (s.toList.length - last.length)
  let short := (outer.reverse.dropWhile (· == '/')).reverse
  (.ofList (if short.isEmpty then outer else short), .ofList last)

/-- A path in two: the last has the last point of the last step and what follows it, unless only
points stand before that. -/
def splitExtension (s : String) : String × String :=
  let last := (s.toList.reverse.takeWhile (· ≠ '/')).reverse
  let stem := (last.reverse.dropWhile (· ≠ '.')).drop 1
  if stem.all (· == '.') then (s, "")
  else
    let size := last.length - stem.length
    (.ofList (s.toList.take (s.toList.length - size)),
      .ofList (s.toList.drop (s.toList.length - size)))

/-- Steps in which none goes back over another. `done` are those before, the last first. -/
def withoutReturns (isAbsolute : Bool) (done : List String) : List String → List String
  | [] => done.reverse
  | ".." :: steps =>
    match done with
    | [] => withoutReturns isAbsolute (if isAbsolute then [] else [".."]) steps
    | last :: outer =>
      if last = ".." then withoutReturns isAbsolute (".." :: done) steps
      else withoutReturns isAbsolute outer steps
  | step :: steps => withoutReturns isAbsolute (step :: done) steps

/-- A path in its shortest form. Two slashes at its start stay, and more are one. -/
def normal (s : String) : String :=
  let p := FilePath.ofText s
  let short := FilePath.text { p with steps := withoutReturns p.isAbsolute [] p.steps }
  if (s.toList.takeWhile (· == '/')).length = 2 then "/" ++ short else short

/-- The result of a function about paths; none, if it is not followed. -/
def function? (h : Hooks) (path : String) (a : Arguments) : Option (Run Object) :=
  let ask (f : FilePath → Bool) : Option (Run Object) := some do
    match pathText? (← get) (← a.one) with
    | some s => return .bool (! s.isEmpty && f (.ofText s))
    | none => return .unknown
  let change (f : String → Object) : Option (Run Object) := some do
    let o ← a.one
    if o matches .unknown then return .unknown else return f (← expectString o)
  let here : String := FilePath.text ⟨true, h.disk.working⟩
  match path with
  | "os.path.join" => some do
    let parts ← a.placed.mapM expectString
    if parts.isEmpty then raise "TypeError" else return .text (joinPaths parts)
  | "os.path.exists" => ask fun p => h.disk.isFile p || h.disk.isDirectory p
  | "os.path.lexists" => ask fun p => h.disk.isFile p || h.disk.isDirectory p
  | "os.path.isfile" => ask h.disk.isFile
  | "os.path.isdir" => ask h.disk.isDirectory
  | "os.path.isabs" => change fun s => .bool ("/".isPrefixOf s)
  | "os.path.basename" => change fun s => .text (splitPath s).2
  | "os.path.dirname" => change fun s => .text (splitPath s).1
  | "os.path.split" => change fun s => .tuple [.text (splitPath s).1, .text (splitPath s).2]
  | "os.path.splitext" =>
    change fun s => .tuple [.text (splitExtension s).1, .text (splitExtension s).2]
  | "os.path.normpath" => change fun s => .text (normal s)
  | "os.path.normcase" => change .text
  | "os.path.abspath" => change fun s => .text (normal (joinPaths [here, s]))
  | "os.path.realpath" => change fun s => .text (normal (joinPaths [here, s]))
  | "os.getcwd" => some do
    a.none
    return .text here
  | "os.fspath" => some do
    let o ← a.one
    match ← o.callSpecial? h "__fspath__" [] with
    | some result => return result
    | none =>
      match o with
      | .text _ => return o
      | .bytes _ => return o
      | .unknown => return o
      | _ =>
        fail "TypeError" ("expected str, bytes or os.PathLike object, not " ++
          Object.className (← get) o)
  | "os.listdir" => some do
    let place ← match ← a.optional with
      | some o => expectString o
      | none => pure "."
    match h.disk.find (.ofText place) with
    | .ok (.directory entries) => newList (entries.map fun (name, _) => .text name)
    | .ok (.file _) => failWith .notDirectory (.text place)
    | .error trouble => failWith trouble (.text place)
  | _ => none

end RouteDocs.Module.Files
