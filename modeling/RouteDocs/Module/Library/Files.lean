import RouteDocs.Module.Library.Kind

namespace RouteDocs.Module.Library

def fileMembers : List Member :=
  ["__enter__", "__exit__", "__iter__", "__next__", "close", "detach", "fileno", "flush", "isatty",
    "read", "readable", "readline", "readlines", "seek", "seekable", "tell", "truncate", "writable",
    "write", "writelines"].map fun name => ⟨name, .method, ""⟩

/-- The classes of open files that are read. -/
def fileClasses : List ClassInfo := [
  ⟨"_io.TextIOWrapper", ["object"], "", fileMembers⟩,
  ⟨"_io.BufferedReader", ["object"], "", fileMembers⟩]

end RouteDocs.Module.Library
