import RouteDocs.Failure
import RouteDocs.Text.Lines

namespace RouteDocs

/-- The text that UTF-8 bytes spell. -/
def decodeText (content : ByteArray) : Except Trouble String :=
  match String.fromUTF8? content with
  | some s => .ok s
  | none => .error .notUnicode

def Disk.readText (d : Disk) (p : FilePath) : Except Trouble String :=
  match d.readBytes p with
  | .ok content => (decodeText content).map Text.normalizeNewlines
  | .error cause => .error (.file cause)

end RouteDocs
