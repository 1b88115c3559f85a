import RouteDocs.Module.Call
import RouteDocs.Module.Finder
import RouteDocs.Module.Source

namespace RouteDocs.Module

def ownMembers (name : String) (file : Option FilePath) (places : Option (List FilePath))
    (path : Object) : List (String × Object) :=
  [("__name__", .text name), ("__doc__", .null),
    ("__package__", .text (packageOf name places.isSome)), ("__loader__", .unknown),
    ("__spec__", .unknown)] ++
  (if places.isSome then [("__path__", path)] else []) ++
  (match file with
    | some path => [("__file__", .text path.text), ("__cached__", .unknown)]
    | none => []) ++
  [("__builtins__", .unknown)]

def addModule (name : String) (file : Option FilePath) (places : Option (List FilePath)) :
    Run Nat := do
  let path ← newList ((places.getD []).map fun p => .text p.text)
  let id ← create (.module name places) (ownMembers name file places path)
  modify fun w => { w with modules := w.modules.insert name (.entity id) }
  return id

/-- Runs statements in a module that has just been added. -/
def runModule (h : Hooks) (id : Nat) (body : List Statement) : Run Unit := do
  match docstring? body with
  | some s => modify fun w => w.setMember id "__doc__" (.text s)
  | none => pure ()
  let _ ← (Frame.top id (Statement.postponesTypes body) h).runAll body

def runFile (disk : Disk) (h : Hooks) (id : Nat) (kind : FileKind) (path : FilePath) :
    Run Unit := do
  match disk.readBytes path with
  | .error _ => raise "OSError"
  | .ok content =>
    match kind with
    | .source =>
      match compile content.toList with
      | .error cause => fail cause.raised.className "invalid syntax"
      | .ok body => runModule h id body
    | _ => fail "ImportError" (path.text ++ ": invalid header")

/-- What stands under the name of a module that has been loaded: what it has put there itself, or the
module. -/
def loaded (name : String) : Run Object := do
  match (← get).modules.find? name with
  | some o => return o
  | none => throw (← newException "KeyError" [.text name] [])

/-- Loads what has been found of a module. A module that fails is no longer loaded. -/
def loadFound (disk : Disk) (h : Hooks) (name : String) : Found → Run Object
  | .directories paths => do
    let _ ← addModule name none (some paths)
    loaded name
  | .file kind path package => do
    let id ← addModule name (some path) (package.map fun directory => [directory])
    tryCatch (runFile disk h id kind path) fun e => do
      modify fun w => { w with modules := w.modules.erase name }
      throw e
    loaded name

/-- A module of the library, which is loaded then. -/
def loadLibrary (path : String) : Run Object := do
  if Library.isModule path then
    modify fun w =>
      if w.loaded.contains path then w else { w with loaded := path :: w.loaded }
    return Object.ofPath path
  else failToFind path

def loadTop (disk : Disk) (h : Hooks) (name : String) : Run Object := do
  if Library.core.contains name then return .library name
  else
    match disk.findModule? name (← get).places with
    | some found => loadFound disk h name found
    | none => loadLibrary name

/-- The directories in which the modules of a package are searched for: what the package has under
`__path__`. -/
def placesOf (h : Hooks) (package : Object) : Run (Option (List FilePath)) := do
  match ← package.memberOrNone h "__path__" with
  | none => return none
  | some path =>
    match (← get).content path with
    | .unknown => return some []
    | .text s => return some (s.toList.map fun c => .ofText (.ofList [c]))
    | _ => return some (World.placesOf (← path.items h))

/-- Loads a module from the places of the package around it, and makes it a member of that. -/
def loadFrom (disk : Disk) (h : Hooks) (parent : Object) (name last : String) : Run Object := do
  match ← placesOf h parent with
  | none => failToFind name
  | some places =>
    match disk.findModule? last places with
    | none => failToFind name
    | some found =>
      let o ← loadFound disk h name found
      tryCatch (parent.setMember h last o) fun e => do
        if (← get).isInstance e (.library "AttributeError") then return else throw e
      return o

/-- Loads a module of a package. -/
def loadChild (disk : Disk) (h : Hooks) (parent : Object) (name last : String) : Run Object :=
  match parent with
  | .library path => if Library.isModule path then loadLibrary name else failToFind name
  | parent => loadFrom disk h parent name last

/-- The module of a name that is loaded, if it is. What has been put there in place of a module can
forbid it. -/
def loaded? (name : String) : Run (Option Object) := do
  match (← get).modules.find? name with
  | some .null => failToFind name
  | found => return found

/-- The module with these segments of its name, the last first. What is loaded is not loaded again;
otherwise the package around a module is loaded before it, and may load it by itself. -/
def loadSegments (disk : Disk) (h : Hooks) : List String → Run Object
  | [] => raise "ValueError"
  | last :: outer => do
    let name := ".".intercalate (last :: outer).reverse
    match ← loaded? name with
    | some o => return o
    | none =>
      if outer.isEmpty then loadTop disk h name
      else
        let parent ← loadSegments disk h outer
        match (← get).modules.find? name with
        | some o => return o
        | none => loadChild disk h parent name last

def loadNamed (disk : Disk) (h : Hooks) (name : String) : Run Object :=
  loadSegments disk h (Text.splitAt '.' name).reverse

/-- What running code needs from outside of it, where no more than `n` calls can be waiting for
others. -/
def hooksWithin (disk : Disk) : Nat → Hooks
  | 0 => {
    call := fun _ _ => raise "RecursionError"
    load := fun _ => raise "RecursionError"
    collect := fun _ => raise "RecursionError"
    disk }
  | n + 1 => {
    call := callObject (hooksWithin disk n)
    load := loadNamed disk (hooksWithin disk n)
    collect := collect (hooksWithin disk n)
    disk }

def maxCalls : Nat := 960

def hooks (disk : Disk) : Hooks := hooksWithin disk maxCalls

end RouteDocs.Module
