import RouteDocs.Lookup
import RouteDocs.Module.Statement.OfTokens
import RouteDocs.OrderedMap
import RouteDocs.TextFile

/-!
# Documentation from source files

* `Controller.split`: the module and the class that a controller's name names;
* `SourceTree.documentation?`: the documentation of a class's action in the statements of a module;
* `SourceTree.file?`: the file of a module below a directory;
* `SourceTree.lookup`: the look-up, which reads each file once.

Nothing is run: the first class of that name counts, and in it the first function.
-/

namespace RouteDocs
open RouteDocs.Module

/-- The module and the class that a controller's name names: what stands before and after its last
point. -/
def Controller.split (controller : String) : String × String := Text.cutLast '.' controller

namespace SourceTree

/-- The body of the first class of that name. -/
def class? (name : String) (body : List Statement) : Option (List Statement) :=
  body.findSome? fun s =>
    match s with
    | .class_ own _ _ _ inner => if own = name then some inner else none
    | _ => none

/-- The body of the first function of that name. -/
def function? (name : String) (body : List Statement) : Option (List Statement) :=
  body.findSome? fun s =>
    match s with
    | .function head _ inner => if head.name = name then some inner else none
    | _ => none

/-- The documentation of a class's action in the statements of a module. -/
def documentation? (body : List Statement) (className action : String) : Option String := do
  docstring? (← function? action (← class? className body))

/-- The path of a module without what makes it a file: a step for each segment of its name. A
segment that starts with `/` starts again at the root. -/
def basePath (root : FilePath) (module : String) : FilePath :=
  (Text.splitAt '.' module).foldl FilePath.child root

/-- The file of a module below a directory, if there is one: the file of its name, or the one that
makes a directory of its name a package. -/
def file? (disk : Disk) (root : FilePath) (module : String) : Except Trouble (Option FilePath) :=
  let base := basePath root module
  match base.withExtension? ".py" with
  | none => .error .noFileName
  | some file =>
    match disk.firstFile [file, base.child "__init__.py"] with
    | .ok found => .ok found
    | .error cause => .error (.file cause)

def read (disk : Disk) (file : FilePath) : Except Trouble (List Statement) := do
  (parse (← disk.readText file).toList).mapError fun cause => .module cause.raised

/-- The statements of the files that have been read. -/
abbrev Cache := OrderedMap FilePath (List Statement)

/-- The statements of a file, which is read unless it has been read before. A file that is at fault
is read again the next time. -/
def readOnce (disk : Disk) (cache : Cache) (file : FilePath) :
    Except Trouble (List Statement) × Cache :=
  match cache.find? file with
  | some body => (.ok body, cache)
  | none =>
    match read disk file with
    | .ok body => (.ok body, cache.insert file body)
    | .error cause => (.error cause, cache)

/-- The documentation of an action, in the files below a directory. -/
def lookup (disk : Disk) (root : FilePath) : Lookup Cache := fun cache controller action =>
  let (module, className) := Controller.split controller
  if module.isEmpty || action.isEmpty then ⟨.ok none, .nothing, cache⟩
  else
    match file? disk root module with
    | .error cause => ⟨.error cause, .nothing, cache⟩
    | .ok none => ⟨.ok none, .nothing, cache⟩
    | .ok (some file) =>
      let (body, cache) := readOnce disk cache file
      ⟨body.map fun body => documentation? body className action, .nothing, cache⟩

end SourceTree
end RouteDocs
