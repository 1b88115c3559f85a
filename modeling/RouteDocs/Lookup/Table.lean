import RouteDocs.Lookup
import RouteDocs.OrderedMap
import RouteDocs.Value.Display
import RouteDocs.Yaml.File

namespace RouteDocs

/-- Documentation texts under `<controller>@<action>`. -/
abbrev DocTable := OrderedMap String String

namespace DocTable

def key (controller action : String) : String := controller ++ "@" ++ action

/-- The table in the document of a file. Keys and values count by their texts, and entries without
a value are left out. -/
def ofValue (path : String) (v : Value) : Except Failure DocTable :=
  let v := if v.isEmpty then .mapping [] else v
  match v.opened with
  | .mapping entries =>
    let entries := entries.filter fun (_, v) => ! (v matches .null)
    if Value.areEntriesShowable entries then
      .ok (.ofList (entries.map fun (k, v) => (k.plain, v.plain)))
    else .error (.trouble .numberTooLong)
  | _ => .error (.docsNotMapping path)

def load (disk : Disk) (path : FilePath) : Except Failure DocTable := do
  ofValue path.text (← disk.readDocument path (.docsMalformed path.text))

def lookup (table : DocTable) : Lookup Unit := fun _ controller action =>
  ⟨.ok (table.find? (key controller action)), .nothing, ()⟩

end DocTable
end RouteDocs
