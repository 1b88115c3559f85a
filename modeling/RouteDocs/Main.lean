import RouteDocs.CommandLine.Run

/-!
# The program

Reads the working directory, runs the command that the arguments name, and writes back what that
changed.
-/

namespace RouteDocs.CommandLine

partial def readTree (path : String) : IO FileTree := do
  let here ← IO.FS.realPath path
  if ← here.isDir then
    let entries ← here.readDir
    return .directory (← entries.toList.mapM fun entry => do
      return (entry.fileName, ← readTree entry.path.toString))
  else return .file (← IO.FS.readBinFile here)

/-- Makes the changes from one tree to another below a path. -/
def writeChanges (path : String) (before after : FileTree) : IO Unit := do
  let (written, removed) := FileTree.changes before after
  for gone in removed.reverse do
    let place := path ++ "/" ++ gone
    if gone.endsWith "/" then IO.FS.removeDirAll place else IO.FS.removeFile place
  for (name, content) in written do
    let place := path ++ "/" ++ name
    match content with
    | some bytes => IO.FS.writeBinFile place bytes
    | none => IO.FS.createDirAll place

end RouteDocs.CommandLine

open RouteDocs
open RouteDocs.CommandLine

/-- Runs the command that the arguments name, in the working directory. -/
def main (args : List String) : IO UInt32 := do
  let path := (← IO.currentDir).toString
  let before ← readTree path
  let working := FilePath.stepsOf path
  let disk : Disk := ⟨before.nested working, working⟩
  let outcome := run ⟨disk, .empty true⟩ (← IO.getEnv "APP_URL") args
  IO.print outcome.printed.out
  (← IO.getStderr).putStr outcome.printed.errors
  writeChanges path before outcome.session.disk.workingTree
  return .ofNat (outcome.exit % 256).toNat
