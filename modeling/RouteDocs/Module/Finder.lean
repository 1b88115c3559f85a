import RouteDocs.FileTree
import RouteDocs.Module.World

namespace RouteDocs
open RouteDocs.Module

/-- A search path with a place in front. A place that is there already stays where it is. -/
def Module.World.prepend (path : List Object) (place : FilePath) : List Object :=
  if path.contains (.text place.text) then path else .text place.text :: path

/-- The world with places in front of those where modules are searched for, the last of them put there
first. -/
def Module.World.withSearchPath (w : World) (places : List FilePath) : World :=
  { w with searchPath := places.reverse.foldl prepend w.searchPath }

/-- How the content of a file is to be understood, from the end of its name. -/
inductive FileKind where
  | binary
  | source
  | compiled
  deriving DecidableEq, Repr

/-- What is found of a module: its file, and the directory whose package it makes up, if it does; or
the directories that make up a package without a file. -/
inductive Found where
  | file (kind : FileKind) (path : FilePath) (package : Option FilePath)
  | directories (paths : List FilePath)
  deriving DecidableEq, Repr

namespace Disk

/-- The ends of the names of files that can hold a module, in the order in which they are looked
for. -/
def moduleEnds : List (String × FileKind) := [
  (".cpython-311-x86_64-linux-gnu.so", .binary), (".abi3.so", .binary), (".so", .binary),
  (".py", .source), (".pyc", .compiled)]

/-- The first file in a directory whose name is one of a module, with any of the usual ends. -/
def moduleFile? (d : Disk) (directory : FilePath) (name : String) :
    Option (FileKind × FilePath) :=
  moduleEnds.findSome? fun (ending, kind) =>
    let file : FilePath := { directory with steps := directory.steps ++ [name ++ ending] }
    if d.isFile file then some (kind, file) else none

/-- What is found of a module in one place: a package goes before a file, and a file before a
directory without a file of its own. -/
def findIn (d : Disk) (place : FilePath) (name : String) : Option Found :=
  let directory : FilePath := { place with steps := place.steps ++ [name] }
  if name.toList.contains '/' || ! d.isDirectory place then none
  else
    match if name.isEmpty then none else d.moduleFile? directory "__init__" with
    | some (kind, file) => some (.file kind file (some directory))
    | none =>
      match d.moduleFile? place name with
      | some (kind, file) => some (.file kind file none)
      | none =>
        if ! name.isEmpty && d.isDirectory directory then some (.directories [directory]) else none

/-- What is found of a module in several places, of which `portions` have been found before. -/
def findFrom (d : Disk) (name : String) (portions : List FilePath) : List FilePath → Option Found
  | [] => if portions.isEmpty then none else some (.directories portions)
  | place :: places =>
    match d.findIn place name with
    | some (.directories paths) => d.findFrom name (portions ++ paths) places
    | some found => some found
    | none => d.findFrom name portions places

/-- What is found of a module in several places: the first file or package, or else all
directories. -/
def findModule? (d : Disk) (name : String) (places : List FilePath) : Option Found :=
  d.findFrom name [] places

end Disk
end RouteDocs
