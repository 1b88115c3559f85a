import RouteDocs.Yaml.Graph
import RouteDocs.TextFile

namespace RouteDocs

/-- The value of the document in a file. A text that is no document fails with `malformed`. -/
def Disk.readDocument (d : Disk) (p : FilePath) (malformed : Failure) : Except Failure Value :=
  match d.readText p with
  | .error cause => .error (.trouble cause)
  | .ok text =>
    match Yaml.load text with
    | .ok v => .ok v
    | .error .malformed => .error malformed
    | .error cause => .error (.trouble (.value cause))

end RouteDocs
