import RouteDocs.Module.Library.Collections
import RouteDocs.Module.Library.Contents
import RouteDocs.Module.Library.Definitions
import RouteDocs.Module.Library.Exceptions
import RouteDocs.Module.Library.Files
import RouteDocs.Module.Library.Functions
import RouteDocs.Module.Library.Scalars
import RouteDocs.Module.Linearization
import RouteDocs.Text.Blank
import RouteDocs.Text.Cut

/-!
# What every module can use

* `Library.core`, `Library.modules`: the modules that can always be imported;
* `Library.builtin?`: what a name is always bound to;
* `Library.order`: the classes in which a class of the library looks for a member;
* `Library.meaning`: what is known by a path;
* `Library.child?`: what a module of the library holds under a name.

All that the library has is known by its path: `len`, `str.upper`, `os.path.join`.
-/

namespace RouteDocs.Module.Library

/-- The modules that are loaded before any controller module, so that no file can take their
place. -/
def core : List String := [
  "__future__", "__hello__", "__main__", "__phello__", "_abc", "_ast", "_bisect", "_blake2",
  "_bz2", "_codecs", "_collections", "_collections_abc", "_compression", "_contextvars",
  "_datetime", "_decimal", "_frozen_importlib", "_frozen_importlib_external", "_functools",
  "_hashlib", "_heapq", "_imp", "_io", "_json", "_locale", "_lzma", "_opcode", "_operator",
  "_random", "_sha512", "_signal", "_sitebuiltins", "_sre", "_stat", "_string", "_struct",
  "_symtable", "_thread", "_tracemalloc", "_typing", "_uuid", "_warnings", "_weakref", "abc",
  "annotated_types", "apidoc", "ast", "atexit", "base64", "binascii", "bisect", "builtins",
  "bz2", "click", "codecs", "collections", "contextlib", "copy", "copyreg", "dataclasses",
  "datetime", "decimal", "difflib", "dis", "enum", "errno", "faulthandler", "fnmatch",
  "functools", "gc", "genericpath", "gettext", "hashlib", "heapq", "importlib", "inspect", "io",
  "ipaddress", "itertools", "json", "keyword", "linecache", "locale", "logging", "lzma",
  "marshal", "math", "ntpath", "numbers", "opcode", "operator", "os", "pathlib", "platform",
  "posix", "posixpath", "pwd", "pydantic", "pydantic_core", "random", "re", "runpy", "select",
  "shutil", "signal", "site", "stat", "string", "struct", "sys", "textwrap", "threading", "time",
  "token", "tokenize", "traceback", "types", "typing", "typing_extensions", "typing_inspection",
  "urllib", "uuid", "warnings", "weakref", "xxsubtype", "yaml", "zipimport", "zlib"]

/-- The modules of the standard library, and of the libraries that are always installed with it. -/
def modules : List String := [
  "__future__", "__hello__", "__main__", "__phello__", "_abc", "_aix_support", "_ast",
  "_asyncio", "_bisect", "_blake2", "_bootsubprocess", "_bz2", "_codecs", "_codecs_cn",
  "_codecs_hk", "_codecs_iso2022", "_codecs_jp", "_codecs_kr", "_codecs_tw", "_collections",
  "_collections_abc", "_compat_pickle", "_compression", "_contextvars", "_crypt", "_csv",
  "_ctypes", "_curses", "_curses_panel", "_datetime", "_dbm", "_decimal", "_elementtree",
  "_frozen_importlib", "_frozen_importlib_external", "_functools", "_hashlib", "_heapq", "_imp",
  "_io", "_json", "_locale", "_lsprof", "_lzma", "_markupbase", "_md5", "_multibytecodec",
  "_multiprocessing", "_opcode", "_operator", "_osx_support", "_pickle", "_posixshmem",
  "_posixsubprocess", "_py_abc", "_pydecimal", "_pyio", "_queue", "_random", "_sha1", "_sha256",
  "_sha3", "_sha512", "_signal", "_sitebuiltins", "_socket", "_sqlite3", "_sre", "_ssl", "_stat",
  "_statistics", "_string", "_strptime", "_struct", "_symtable", "_thread", "_threading_local",
  "_tkinter", "_tokenize", "_tracemalloc", "_typing", "_uuid", "_warnings", "_weakref",
  "_weakrefset", "_zoneinfo", "abc", "aifc", "antigravity", "argparse", "array", "ast",
  "asynchat", "asyncio", "asyncore", "atexit", "audioop", "base64", "bdb", "binascii", "bisect",
  "builtins", "bz2", "cProfile", "calendar", "cgi", "cgitb", "chunk", "cmath", "cmd", "code",
  "codecs", "codeop", "collections", "colorsys", "compileall", "concurrent", "configparser",
  "contextlib", "contextvars", "copy", "copyreg", "crypt", "csv", "ctypes", "curses",
  "dataclasses", "datetime", "dbm", "decimal", "difflib", "dis", "distutils", "doctest", "email",
  "encodings", "ensurepip", "enum", "errno", "faulthandler", "fcntl", "filecmp", "fileinput",
  "fnmatch", "fractions", "ftplib", "functools", "gc", "genericpath", "getopt", "getpass",
  "gettext", "glob", "graphlib", "grp", "gzip", "hashlib", "heapq", "hmac", "html", "http",
  "idlelib", "imaplib", "imghdr", "imp", "importlib", "inspect", "io", "ipaddress", "itertools",
  "json", "keyword", "lib2to3", "linecache", "locale", "logging", "lzma", "mailbox", "mailcap",
  "marshal", "math", "mimetypes", "mmap", "modulefinder", "multiprocessing", "netrc", "nntplib",
  "ntpath", "nturl2path", "numbers", "opcode", "operator", "optparse", "os", "ossaudiodev",
  "pathlib", "pdb", "pickle", "pickletools", "pipes", "pkgutil", "platform", "plistlib",
  "poplib", "posix", "posixpath", "pprint", "profile", "pstats", "pty", "pwd", "py_compile",
  "pyclbr", "pydoc", "pydoc_data", "pyexpat", "queue", "quopri", "random", "re", "readline",
  "reprlib", "resource", "rlcompleter", "runpy", "sched", "secrets", "select", "selectors",
  "shelve", "shlex", "shutil", "signal", "site", "smtpd", "smtplib", "sndhdr", "socket",
  "socketserver", "spwd", "sqlite3", "sre_compile", "sre_constants", "sre_parse", "ssl", "stat",
  "statistics", "string", "stringprep", "struct", "subprocess", "sunau", "symtable", "sys",
  "sysconfig", "syslog", "tabnanny", "tarfile", "telnetlib", "tempfile", "termios", "textwrap",
  "this", "threading", "time", "timeit", "tkinter", "token", "tokenize", "tomllib", "trace",
  "traceback", "tracemalloc", "tty", "turtle", "turtledemo", "types", "typing", "unicodedata",
  "unittest", "urllib", "uu", "uuid", "venv", "warnings", "wave", "weakref", "webbrowser",
  "wsgiref", "xdrlib", "xml", "xmlrpc", "xxsubtype", "zipapp", "zipfile", "zipimport", "zlib",
  "zoneinfo", "annotated_types", "apidoc", "click", "pydantic", "pydantic_core",
  "typing_extensions", "typing_inspection", "yaml"]

/-- The classes of which all members are known. -/
def classes : List ClassInfo :=
  definitionClasses ++ scalarClasses ++ collectionClasses ++ fileClasses ++ exceptionClasses

/-- Classes of modules that are known to be based on others. -/
def metaclasses : List (String × List String) :=
  [("abc.ABCMeta", ["type"]), ("enum.EnumType", ["type"]), ("enum.EnumMeta", ["type"])]

/-- Whether something of a module of which not all is known is named like an exception. -/
def looksLikeException (path : String) : Bool :=
  let (module, name) := Text.cutLast '.' path
  ! module.isEmpty && ! (contents.any (·.path = module)) &&
    modules.contains (Text.cut '.' module).1 &&
    (name.toList.take 1).all Char.isUpper &&
    ("Error".toList.isSuffixOf name.toList || "Exception".toList.isSuffixOf name.toList)

def class? (path : String) : Option ClassInfo :=
  match classes.find? (·.path = path) with
  | some info => some info
  | none =>
    match moduleExceptions.lookup path <|> metaclasses.lookup path with
    | some bases => some ⟨path, bases, "", []⟩
    | none => if looksLikeException path then some ⟨path, ["Exception"], "", []⟩ else none

/-- The classes that a class is based on; one that is not known is based on `object` only. -/
def bases (path : String) : List String :=
  match class? path with
  | some info => info.bases
  | none => ["object"]

/-- The most classes above one another. -/
def height : Nat := 12

/-- The order of a class that has no more than `n` classes above one another. -/
def orderWithin : Nat → String → List String
  | 0, path => [path]
  | n + 1, path =>
    if path = "object" then [path]
    else (linearize path ((bases path).map (orderWithin n))).getD [path]

/-- The classes in which a class of the library looks for a member, itself first. -/
def order (path : String) : List String := orderWithin height path

/-- The member that a class has by itself. -/
def ownMember? (path name : String) : Option Member :=
  (class? path).bind fun info => info.members.find? (·.name = name)

def classDoc (path : String) : String := ((class? path).map ClassInfo.doc).getD ""

def words (s : String) : List String := (Text.splitAt ' ' s).filter (· ≠ "")

def isModule (name : String) : Bool :=
  let (package, last) := Text.cutLast '.' name
  if package.isEmpty then modules.contains name
  else
    match submodules.lookup package with
    | some names => (words names).contains last
    | none => moduleIsOpen package && modules.contains (Text.cut '.' name).1
where
  /-- Whether the modules of a package are not known. -/
  moduleIsOpen (package : String) : Bool :=
    ["apidoc", "pydantic", "yaml", "click", "encodings", "test", "idlelib", "lib2to3",
      "distutils", "tkinter", "turtledemo", "ensurepip", "pydoc_data"].contains
        (Text.cut '.' package).1

/-- Whether a module is one of the library, and is listed by its own name. -/
def isListed (name : String) : Bool :=
  let (package, last) := Text.cutLast '.' name
  if package.isEmpty then modules.contains name
  else (submodules.lookup package).any fun names => (words names).contains last

def isPackage (name : String) : Bool := (submodules.lookup name).isSome

/-- What is known by a path. -/
inductive Meaning where
  | class_
  | callable
  | module
  | other
  deriving DecidableEq, Repr

def meaning (path : String) : Meaning :=
  let (outer, last) := Text.cutLast '.' path
  if (class? path).isSome then .class_
  else if (functions.lookup path).isSome then .callable
  else if isListed path then .module
  else
    match contents.find? (·.path = outer) with
    | some info =>
      if (words info.classes).contains last then .class_
      else if (words info.callables).contains last then .callable
      else .other
    | none =>
      match ownMember? outer last with
      | some m =>
        match m.kind with
        | .field => .other
        | .value => .other
        | _ => .callable
      | none => .other

/-- The path under which something of a module is known. -/
def pathOf (module name : String) : String :=
  let path := module ++ "." ++ name
  if module = "builtins" then name else (otherPaths.lookup path).getD path

/-- What a module holds under a name: nothing, if all that it holds is known and this is not of it.
`loaded` are modules that have been loaded. -/
def child? (loaded : List String) (module name : String) : Option String :=
  let path := module ++ "." ++ name
  let found : Option String := some (pathOf module name)
  match contents.find? (·.path = module) with
  | none =>
    if (submodules.lookup module).any fun names => (words names).contains name then
      if loaded.contains path then found else none
    else found
  | some info =>
    if (otherPaths.lookup path).isSome || (moduleExceptions.lookup path).isSome ||
        (words info.classes).contains name || (words info.callables).contains name ||
        (words info.others).contains name || loaded.contains path then found
    else none

/-- Values that every module can name. -/
def values : List String := [
  "Ellipsis", "NotImplemented", "copyright", "credits", "exit", "help", "license", "quit"]

def aliases : List (String × String) :=
  [("EnvironmentError", "OSError"), ("IOError", "OSError")]

/-- Whether a class is known by a name without the module that it is in. -/
def isNameable (path : String) : Bool :=
  scalarClasses.any (·.path = path) || exceptionClasses.any (·.path = path) ||
    ["object", "type", "property", "staticmethod", "classmethod", "super", "dict", "enumerate",
      "filter", "frozenset", "list", "map", "range", "reversed", "set", "slice", "tuple",
      "zip"].contains path

/-- What a name is always bound to, if it is. -/
def builtin? (name : String) : Option String :=
  if isNameable name || (functions.lookup name).isSome || values.contains name then some name
  else aliases.lookup name

end RouteDocs.Module.Library
