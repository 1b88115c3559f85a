import RouteDocs.FileTree
import RouteDocs.Module.World

namespace RouteDocs.Module

/-- What running code needs from outside of it: the result of a call, the module of a name, the items
of something that has not been asked for them, and the disk. -/
structure Hooks where
  call : Object → Arguments → Run Object
  load : String → Run Object
  collect : Nat → Run Unit
  disk : Disk

/-- A member of a class: one that a module has set, one of a class of the library, or one of a class
that is not known. -/
inductive ClassMember where
  | own (o : Object)
  | library (path : String) (kind : Library.MemberKind)
  | unknown

namespace World

/-- A documentation of the library, where an empty one stands for none. -/
def docObject (s : String) : Object := if s.isEmpty then .null else .text s

def ownMember? (w : World) (name : String) : ClassRef → Option ClassMember
  | .own id => (w.member? id name).map .own
  | .library path =>
    if name = "__doc__" then
      if path = "type" then some (.library "type.__doc__" .field)
      else (Library.class? path).bind fun info =>
        if isClosed info then some (.own (docObject info.doc)) else none
    else (Library.ownMember? path name).map fun m => .library (path ++ "." ++ name) m.kind
where
  /-- Whether all of a class is known. -/
  isClosed (info : Library.ClassInfo) : Bool :=
    ! (info.members.isEmpty && info.path.toList.contains '.')

/-- Whether not all members of a class are known. -/
def isOpen : ClassRef → Bool
  | .own _ => false
  | .library path =>
    match Library.class? path with
    | none => true
    | some info => info.members.isEmpty && path.toList.contains '.'

/-- The member that the classes of an order have. If none has it and one of them is not known, it may
have one. -/
def findInOrder (w : World) (name : String) (order : List ClassRef) : Option ClassMember :=
  match order.findSome? (w.ownMember? name) with
  | some m => some m
  | none => if order.any isOpen then some .unknown else none

/-- The member that a class has by itself or from the classes above it. -/
def find? (w : World) (c : ClassRef) (name : String) : Option ClassMember :=
  w.findInOrder name (w.order c)

/-- The class that a module has built and that an object is an instance of. -/
def ownClass? (w : World) : Object → Option ClassRef
  | .entity id =>
    match w.kind? id with
    | some (.instance_ (.own c) _) => some (.own c)
    | some (.class_ ⟨_, _, _, _, .own c⟩) => some (.own c)
    | _ => none
  | _ => none

/-- The member that a class has for its instances, if a module has set it. -/
def special? (w : World) (o : Object) (name : String) : Option Object :=
  match w.ownClass? o with
  | none => none
  | some c =>
    match w.find? c name with
    | some (.own f) => some f
    | _ => none

def isFunction (w : World) : Object → Bool
  | .entity id => (w.function? id).isSome
  | _ => false

def isCallable (w : World) : Object → Bool
  | .entity id =>
    match w.kind? id with
    | some (.function _) => true
    | some (.class_ _) => true
    | some (.instance_ c _) =>
      match w.find? c "__call__" with
      | some (.own .null) => false
      | some _ => true
      | none => false
    | _ => false
  | .library path =>
    match Library.meaning path with
    | .class_ => true
    | .callable => true
    | .module => false
    | .other => ["exit", "quit", "help", "copyright", "credits", "license"].contains path
  | .method .. => true
  | .bound .. => true
  | .staticMethod _ => true
  | .alias .. => true
  | .unknown => true
  | _ => false

end World

namespace Object

/-- The object of a text, or the null value where there is none. -/
def ofOption : Option String → Object
  | some s => .text s
  | none => .null

def ofPath (path : String) : Object :=
  match path with
  | "Ellipsis" => .ellipsis
  | "NotImplemented" => .notImplemented
  | "os.sep" => .text "/"
  | "os.linesep" => .text "\n"
  | "os.name" => .text "posix"
  | "os.curdir" => .text "."
  | "os.pardir" => .text ".."
  | "os.pathsep" => .text ":"
  | "os.extsep" => .text "."
  | "os.path.sep" => .text "/"
  | "sys.modules" => .entity World.modulesId
  | "sys.path" => .entity World.searchPathId
  | "sys.version_info" => .entity World.versionId
  | "sys.hexversion" => .int 0x30b00f0
  | "sys.float_repr_style" => .text "short"
  | "sys.api_version" => .int 1013
  | "os.environ" => .entity World.environmentId
  | "os.devnull" => .text "/dev/null"
  | "os.path.extsep" => .text "."
  | "os.path.curdir" => .text "."
  | "os.path.pardir" => .text ".."
  | "os.path.pathsep" => .text ":"
  | "sys.platform" => .text "linux"
  | "sys.byteorder" => .text "little"
  | "sys.maxsize" => .int (Int.pow 2 63 - 1)
  | "sys.maxunicode" => .int 0x10FFFF
  | "math.pi" => .float (.ofDecimal false 3141592653589793 (-15))
  | "math.e" => .float (.ofDecimal false 2718281828459045 (-15))
  | "math.tau" => .float (.ofDecimal false 6283185307179586 (-15))
  | "math.inf" => .float (.infinite false)
  | "math.nan" => .float .nan
  | "string.ascii_lowercase" => .text "abcdefghijklmnopqrstuvwxyz"
  | "string.ascii_uppercase" => .text "ABCDEFGHIJKLMNOPQRSTUVWXYZ"
  | "string.ascii_letters" => .text "abcdefghijklmnopqrstuvwxyzABCDEFGHIJKLMNOPQRSTUVWXYZ"
  | "string.digits" => .text "0123456789"
  | "string.hexdigits" => .text "0123456789abcdefABCDEF"
  | "string.octdigits" => .text "01234567"
  | "string.whitespace" => .text " \t\n\r\x0b\x0c"
  | "string.punctuation" => .text "!\"#$%&\x27()*+,-./:;<=>?@[\\]^_\x60\x7b|\x7d~"
  | "typing.TYPE_CHECKING" => .bool false
  | "errno.ENOENT" => .int 2
  | "errno.EPIPE" => .int 32
  | "errno.EACCES" => .int 13
  | "errno.EEXIST" => .int 17
  | "errno.EINVAL" => .int 22
  | _ => .library path

/-! ### Binding -/

def ofClassMethod (h : Hooks) (c : Object) : Object → Run Object
  | .staticMethod function => return function
  | .classMethod function => ofClassMethod h c function
  | .property getter _ _ _ => h.call getter (.of [c])
  | .library path => return .method path c
  | function => return .bound function c

def ofClass (h : Hooks) (c : Object) (o : Object) : Run Object :=
  match o with
  | .staticMethod function => return function
  | .classMethod function => ofClassMethod h c function
  | .entity id => do
    let w ← get
    match w.kind? id with
    | some (.instance_ ..) =>
      match w.special? o "__get__" with
      | some getter => h.call getter (.of [o, .null, c])
      | none => return o
    | _ => return o
  | _ => return o

/-- Whether something of the library is a method of one of its classes. -/
def isMethodPath (path : String) : Bool :=
  let (outer, last) := Text.cutLast '.' path
  match Library.ownMember? outer last with
  | some m => m.kind = .method
  | none => false

def ofInstance (h : Hooks) (self c : Object) (o : Object) : Run Object :=
  match o with
  | .staticMethod function => return function
  | .classMethod function => ofClassMethod h c function
  | .property getter _ _ _ =>
    if getter matches .null then fail "AttributeError" "property has no getter"
    else h.call getter (.of [self])
  | .library path => return if isMethodPath path then .method path self else o
  | .entity id => do
    let w ← get
    match w.kind? id with
    | some (.function _) => return .bound o self
    | some (.instance_ ..) =>
      match w.special? o "__get__" with
      | some getter => h.call getter (.of [o, self, c])
      | none => return o
    | _ => return o
  | _ => return o

/-- Whether a member of a class goes before the members of an instance. -/
def isData (w : World) : Object → Bool
  | .property .. => true
  | .entity id =>
    match w.kind? id with
    | some (.instance_ c _) => (w.find? c "__set__").isSome
    | _ => false
  | _ => false

/-! ### Fields of the library -/

/-- The members of an entity as a mapping that stands for them. -/
def newNamesOf (id : Nat) : Run Object := return .entity (← create (.namesOf id) [])

def classField (c : Class) (id : Nat) (name : String) : Run Object := do
  let w ← get
  let own (key : String) : Object := (w.member? id key).getD .null
  match name with
  | "__name__" => return .text c.name
  | "__qualname__" => return .text c.qualified
  | "__module__" => return own name
  | "__doc__" => return own name
  | "__bases__" => return .tuple (c.bases.map ClassRef.object)
  | "__base__" => return ((c.bases.head?).map ClassRef.object).getD .null
  | "__mro__" => return .tuple (c.order.map ClassRef.object)
  | "__dict__" => newMapping (w.membersOf id)
  | "__class__" => return c.meta_.object
  | _ => return .unknown

def libraryClassField (path name : String) : Run Object := do
  match name with
  | "__name__" => return .text (Text.cutLast '.' path).2
  | "__qualname__" => return .text (Text.cutLast '.' path).2
  | "__module__" =>
    let outer := (Text.cutLast '.' path).1
    return .text (if outer.isEmpty then "builtins" else outer)
  | "__doc__" =>
    return if Library.classes.any (·.path = path) then World.docObject (Library.classDoc path)
      else .unknown
  | "__bases__" => return .tuple ((Library.bases path).map .library)
  | "__base__" => return (((Library.bases path).head?).map Object.library).getD .null
  | "__mro__" => return .tuple ((Library.order path).map .library)
  | "__class__" => return .library "type"
  | _ => return .unknown

def functionField (f : Function) (id : Nat) (name : String) : Run Object := do
  let w ← get
  match w.member? id name with
  | some o => return o
  | none =>
    match name with
    | "__name__" => return .text f.name
    | "__qualname__" => return .text f.qualified
    | "__module__" => return (w.member? f.module "__name__").getD .null
    | "__doc__" => return .null
    | "__defaults__" =>
      let placed := f.defaults.filter fun (key, _) => f.signature.names.contains key
      return if placed.isEmpty then .null else .tuple (placed.map Prod.snd)
    | "__kwdefaults__" =>
      let named := f.defaults.filter fun (key, _) => ! f.signature.names.contains key
      if named.isEmpty then return .null
      else newMapping (named.map fun (key, o) => (.text key, o))
    | "__dict__" => newMapping ((w.membersOf id).filter fun (key, _) =>
        match key with
        | .text s => ! "__".isPrefixOf s
        | _ => true)
    | "__closure__" => return if f.around.isEmpty then .null else .unknown
    | _ => return .unknown

def exceptionField (id : Nat) (arguments : List Object) (name : String) : Run Object := do
  let w ← get
  match w.member? id name with
  | some o => return o
  | none =>
    match name with
    | "args" => return .tuple arguments
    | "__dict__" => newNamesOf id
    | "__suppress_context__" => return .bool false
    | "__traceback__" => return .unknown
    | "__context__" => return .unknown
    | _ => return .null

def numberField (o : Object) (name : String) : Object :=
  match o, name with
  | .bool _, "imag" => .int 0
  | .bool _, "denominator" => .int 1
  | .bool b, _ => .int (if b then 1 else 0)
  | .int _, "imag" => .int 0
  | .int _, "denominator" => .int 1
  | .int n, _ => .int n
  | .float _, "imag" => .float (.finite false 0 Binary64.leastExponent)
  | .float x, _ => .float x
  | .complex _ im, "imag" => .float im
  | .complex re _, _ => .float re
  | _, _ => .unknown

/-- What a field of a class of the library is for an instance. -/
def field (o : Object) (name : String) : Run Object := do
  let w ← get
  match name with
  | "__class__" => return (w.classOf o).object
  | _ =>
    match o with
    | .entity id =>
      match w.kind? id with
      | some (.class_ c) => classField c id name
      | some (.function f) => functionField f id name
      | some (.instance_ c (.tuple items)) =>
        if w.isException c then exceptionField id items name
        else return (w.member? id name).getD .unknown
      | some (.module ..) =>
        if name = "__dict__" then newNamesOf id
        else return (w.member? id name).getD .unknown
      | _ => return .unknown
    | .library path =>
      match Library.meaning path with
      | .class_ => libraryClassField path name
      | .module => return if name = "__name__" then .text path else .unknown
      | _ =>
        match name with
        | "__doc__" =>
          match Library.functions.lookup path with
          | some doc => return World.docObject doc
          | none =>
            let (outer, last) := Text.cutLast '.' path
            match Library.ownMember? outer last with
            | some m => return World.docObject m.doc
            | none => return .unknown
        | "__name__" => return .text (Text.cutLast '.' path).2
        | "__qualname__" =>
          return .text (if isMethodPath path then path else (Text.cutLast '.' path).2)
        | _ => return .unknown
    | .method path self =>
      match name with
      | "__doc__" =>
        let (outer, last) := Text.cutLast '.' path
        match Library.ownMember? outer last with
        | some m => return World.docObject m.doc
        | none => return .unknown
      | "__name__" => return .text (Text.cutLast '.' path).2
      | "__qualname__" => return .text path
      | "__self__" => return self
      | _ => return .unknown
    | .property getter setter deleter doc =>
      match name with
      | "fget" => return getter
      | "fset" => return setter
      | "fdel" => return deleter
      | "__doc__" => return doc
      | _ => return .unknown
    | .staticMethod function =>
      return if name = "__func__" || name = "__wrapped__" then function else .unknown
    | .classMethod function =>
      return if name = "__func__" || name = "__wrapped__" then function else .unknown
    | .range first stop step =>
      match name with
      | "start" => return .int first
      | "stop" => return .int stop
      | "step" => return .int step
      | _ => return .unknown
    | .slice first last step =>
      match name with
      | "start" => return first
      | "stop" => return last
      | "step" => return step
      | _ => return .unknown
    | .alias origin arguments =>
      match name with
      | "__origin__" => return origin
      | "__args__" =>
        return match arguments with
          | .tuple items => .tuple items
          | _ => .tuple [arguments]
      | _ => return .unknown
    | .bound function self =>
      match name with
      | "__func__" => return function
      | "__self__" => return self
      | _ => return .unknown
    | _ => return numberField o name

/-- What a member of a class is, for an instance or for the class itself. -/
def ofClassMember (h : Hooks) (self c : Object) (isClass : Bool) (name : String) :
    ClassMember → Run Object
  | .own o => if isClass then ofClass h c o else ofInstance h self c o
  | .unknown => return .unknown
  | .library path kind => do
    match kind with
    | .method => return if isClass then .library path else .method path self
    | .classMethod => return .method path c
    | .staticMethod => return .library path
    | .value => return if name = "__hash__" then .null else .unknown
    | .field => if isClass then return .library path else self.field name

/-! ### Reading members -/

def isDataMember (w : World) : ClassMember → Bool
  | .own o => isData w o
  | .library _ .field => true
  | _ => false

def classMember? (h : Hooks) (c : ClassRef) (meta_ : ClassRef) (name : String) :
    Run (Option Object) := do
  let w ← get
  let o := c.object
  let above := w.find? meta_ name
  match above.filter (isDataMember w) with
  | some m => return some (← ofClassMember h o meta_.object false name m)
  | none =>
    match w.find? c name with
    | some m => return some (← ofClassMember h o o true name m)
    | none =>
      match above with
      | some m => return some (← ofClassMember h o meta_.object false name m)
      | none => return none

def instanceMember? (h : Hooks) (o : Object) (own : Option Object) (name : String) :
    Run (Option Object) := do
  let w ← get
  let c := w.classOf o
  let above := w.find? c name
  match above.filter (isDataMember w) with
  | some m => return some (← ofClassMember h o c.object false name m)
  | none =>
    match own with
    | some value => return some value
    | none =>
      match above with
      | some m => return some (← ofClassMember h o c.object false name m)
      | none =>
        if name = "__dict__" then
          match o with
          | .entity id => return some (← newNamesOf id)
          | _ => return none
        else return none

/-- The names of the fields of a generic class that are its own, and not of what it comes from. -/
def aliasFields : List String := ["__origin__", "__args__", "__parameters__", "__class__"]

/-- The member of an object, apart from what a class gives for members that there are not. -/
def plainMember? (h : Hooks) (name : String) : Object → Run (Option Object)
  | .unknown => return some .unknown
  | .bound function self => do
    if name = "__func__" then return some function
    else if name = "__self__" then return some self
    else if name = "__class__" then return some (.library "method")
    else function.plainMember? h name
  | .staticMethod function => do
    if name = "__func__" || name = "__wrapped__" then return some function
    else if ["__doc__", "__name__", "__qualname__", "__module__"].contains name then
      function.plainMember? h name
    else instanceMember? h (.staticMethod function) none name
  | .classMethod function => do
    if name = "__func__" || name = "__wrapped__" then return some function
    else if ["__doc__", "__name__", "__qualname__", "__module__"].contains name then
      function.plainMember? h name
    else instanceMember? h (.classMethod function) none name
  | .alias origin arguments => do
    if aliasFields.contains name then return some (← (Object.alias origin arguments).field name)
    else origin.plainMember? h name
  | .above after self => do
    let w ← get
    let isClass := (w.classRef? self).isSome && ! w.isInstance self after
    let c := if isClass then (w.classRef? self).getD after else w.classOf self
    let behind := ((w.order c).dropWhile (· ≠ after)).drop 1
    if name = "__class__" then return some (.library "super")
    else
      match w.findInOrder name behind with
      | some m => return some (← ofClassMember h self c.object isClass name m)
      | none => return none
  | .library path => do
    let w ← get
    match Library.meaning path with
    | .class_ => classMember? h (.library path) (.library "type") name
    | .module =>
      if let some o := w.replaced.find? (path ++ "." ++ name) then return some o
      else if Library.contents.any (·.path = path) && ! (Library.child? w.loaded path name).isSome then
        if ["__name__", "__class__", "__dict__", "__doc__"].contains name then
          return some (← (Object.library path).field name)
        else return none
      else return (Library.child? w.loaded path name).map ofPath
    | .callable =>
      if name = "__doc__" || name = "__name__" || name = "__qualname__" then
        return some (← (Object.library path).field name)
      else if path.toList.contains '.' && ! isMethodPath path then return some .unknown
      else instanceMember? h (.library path) none name
    | .other =>
      if ["__doc__", "__class__"].contains name then return some .unknown
      else return some (.library (path ++ "." ++ name))
  | .property getter setter deleter doc =>
    let o := Object.property getter setter deleter doc
    if name = "__doc__" then return some doc else instanceMember? h o none name
  | .method path self => do
    let o := Object.method path self
    if name = "__doc__" then return some (← o.field name) else instanceMember? h o none name
  | .entity id => do
    let w ← get
    let o := Object.entity id
    match w.kind? id with
    | some (.class_ c) => classMember? h (.own id) c.meta_ name
    | some (.function f) =>
      if name = "__doc__" || name = "__module__" then return some (← functionField f id name)
      else instanceMember? h o (w.member? id name) name
    | some (.module ..) =>
      match w.member? id name with
      | some member => return some member
      | none => instanceMember? h o none name
    | _ => instanceMember? h o (w.member? id name) name
  | o => do
    if name = "__doc__" then
      match (← get).classOf o with
      | .library path => return some (World.docObject (Library.classDoc path))
      | .own _ => return some .null
    else instanceMember? h o none name

/-- The member that stands in for one that there is not. -/
def substitute? (w : World) (o : Object) : Option (Object × Bool) :=
  match o with
  | .entity id =>
    match w.kind? id with
    | some (.module ..) => (w.member? id "__getattr__").map fun f => (f, false)
    | some (.instance_ ..) => (w.special? o "__getattr__").map fun f => (f, true)
    | some (.class_ _) => (w.special? o "__getattr__").map fun f => (f, true)
    | _ => none
  | _ => none

def member? (h : Hooks) (o : Object) (name : String) : Run (Option Object) := do
  let w ← get
  let direct : Run (Option Object) :=
    match w.special? o "__getattribute__" with
    | some f => do return some (← h.call f (.of [o, .text name]))
    | none => plainMember? h name o
  let other : Run (Option Object) := do
    match substitute? (← get) o with
    | none => return none
    | some (f, withSelf) =>
      return some (← h.call f (.of (if withSelf then [o, .text name] else [.text name])))
  let found ← tryCatch direct fun e => do
    let w ← get
    if w.isInstance e (.library "AttributeError") && (substitute? w o).isSome then return none
    else throw e
  match found with
  | some member => return some member
  | none => other

def className (w : World) (o : Object) : String := w.className (w.classOf o)

/-- Raises what there is to raise when an object has no member of a name. -/
def failMember {α : Type} (o : Object) (name : String) : Run α := do
  let w ← get
  let message := match o with
    | .entity id =>
      match w.kind? id with
      | some (.module own _) => "module '" ++ own ++ "' has no attribute '" ++ name ++ "'"
      | some (.class_ c) => "type object '" ++ c.name ++ "' has no attribute '" ++ name ++ "'"
      | _ => "'" ++ className w o ++ "' object has no attribute '" ++ name ++ "'"
    | .library path =>
      match Library.meaning path with
      | .module => "module '" ++ path ++ "' has no attribute '" ++ name ++ "'"
      | .class_ => "type object '" ++ path ++ "' has no attribute '" ++ name ++ "'"
      | _ => "'" ++ className w o ++ "' object has no attribute '" ++ name ++ "'"
    | _ => "'" ++ className w o ++ "' object has no attribute '" ++ name ++ "'"
  throw (← newException "AttributeError" [.text message] [("name", .text name), ("obj", o)])

/-- The member of an object, which has to have one. -/
def member (h : Hooks) (o : Object) (name : String) : Run Object := do
  match ← o.member? h name with
  | some member => return member
  | none => o.failMember name

/-- The member of an object, if reading it does not raise that there is none. -/
def memberOrNone (h : Hooks) (o : Object) (name : String) : Run (Option Object) :=
  tryCatch (o.member? h name) fun e => do
    if (← get).isInstance e (.library "AttributeError") then return none else throw e

/-- Calls a method that the class of an object has, if a module has set it. -/
def callSpecial? (h : Hooks) (o : Object) (name : String) (arguments : List Object) :
    Run (Option Object) := do
  let w ← get
  match w.special? o name with
  | none => return none
  | some f =>
    let method ← ofInstance h o (w.classOf o).object f
    return some (← h.call method (.of arguments))

/-! ### Changing members -/

/-- The fields of functions that have to be texts. -/
def textFields : List String := ["__name__", "__qualname__"]

/-- The fields of functions that are set only by what makes them. -/
def fixedFields : List String := ["__globals__", "__closure__", "__builtins__"]

def setPlainMember (o : Object) (name : String) (value : Object) : Run Unit := do
  let w ← get
  match o with
  | .entity id =>
    match w.kind? id with
    | some (.module ..) => modify fun w => w.setMember id name value
    | some (.function _) =>
      if textFields.contains name && ! (value matches .text _) then raise "TypeError"
      else if fixedFields.contains name then raise "AttributeError"
      else modify fun w => w.setMember id name value
    | some (.class_ c) =>
      match name, value with
      | "__name__", .text s =>
        modify fun w => w.setKind id (.class_ { c with name := s })
      | "__name__", _ => raise "TypeError"
      | "__qualname__", .text s =>
        modify fun w => w.setKind id (.class_ { c with qualified := s })
      | "__qualname__", _ => raise "TypeError"
      | "__mro__", _ => raise "AttributeError"
      | "__dict__", _ => raise "AttributeError"
      | "__base__", _ => raise "AttributeError"
      | _, _ => modify fun w => w.setMember id name value
    | some (.instance_ ..) =>
      if name = "__class__" then
        match w.classRef? value, w.kind? id with
        | some (.own c), some (.instance_ _ content) =>
          modify fun w => w.setKind id (.instance_ (.own c) content)
        | _, _ => raise "TypeError"
      else if name = "args" && w.isException (w.classOf o) then
        match value, w.kind? id with
        | .tuple items, some (.instance_ c _) =>
          modify fun w => w.setKind id (.instance_ c (.tuple items))
        | _, _ => modify fun w => w.setMember id name value
      else modify fun w => w.setMember id name value
    | _ => o.failMember name
  | .library path =>
    match Library.meaning path with
    | .class_ =>
      fail "TypeError" ("cannot set '" ++ name ++ "' attribute of immutable type '" ++ path ++ "'")
    | .callable => if path.toList.contains '.' then return else o.failMember name
    | .module =>
      match path ++ "." ++ name, value with
      | "sys.path", .entity id =>
        match w.kind? id with
        | some (.list items) => modify fun w => { w with searchPath := items }
        | _ => return
      | full, _ => modify fun w => { w with replaced := w.replaced.insert full value }
    | _ => return
  | .staticMethod _ => return
  | .classMethod _ => return
  | .unknown => return
  | .bound _ _ => o.failMember name
  | _ => o.failMember name

/-- The names that an instance can have members under, where its classes restrict them. -/
def slotNames? (w : World) (c : ClassRef) : Option (List String) :=
  (w.order c).foldr (fun k names =>
    match k, names with
    | .own id, some below =>
      match (w.class? id).isSome, w.member? id "__slots__" with
      | true, some (.tuple items) => some (below ++ items.filterMap textOf)
      | true, some (.text s) => some (s :: below)
      | true, some (.entity l) =>
        match w.kind? l with
        | some (.list items) => some (below ++ items.filterMap textOf)
        | _ => none
      | _, _ => none
    | .library "object", some below => some below
    | _, _ => none) (some [])
where
  /-- The text that an object is. -/
  textOf : Object → Option String
    | .text s => some s
    | _ => none

/-- Sets a member of an object, if the class of the object has room for it. -/
def setOwnMember (o : Object) (name : String) (value : Object) : Run Unit := do
  let w ← get
  match w.ownClass? o with
  | some c =>
    match w.classRef? o, slotNames? w c with
    | none, some names =>
      if names.contains name || names.contains "__dict__" then setPlainMember o name value
      else o.failMember name
    | _, _ => setPlainMember o name value
  | none => setPlainMember o name value

/-- Sets a member of an object as the library does it. -/
def storeMember (h : Hooks) (o : Object) (name : String) (value : Object) : Run Unit := do
  let w ← get
  match w.find? (w.classOf o) name with
  | some (.own (.property _ setter _ _)) =>
    if setter matches .null then fail "AttributeError" "property has no setter"
    else
      let _ ← h.call setter (.of [o, value])
  | some (.own d) =>
    match w.special? d "__set__" with
    | some f =>
      let _ ← h.call f (.of [d, o, value])
    | none => setOwnMember o name value
  | _ => setOwnMember o name value

def setMember (h : Hooks) (o : Object) (name : String) (value : Object) : Run Unit := do
  match (← get).special? o "__setattr__" with
  | some f =>
    let _ ← h.call f (.of [o, .text name, value])
  | none => storeMember h o name value

/-- Takes a member of an object away as the library does it. -/
def eraseMember (h : Hooks) (o : Object) (name : String) : Run Unit := do
  let w ← get
  match w.find? (w.classOf o) name with
  | some (.own (.property _ _ deleter _)) =>
    if deleter matches .null then fail "AttributeError" "property has no deleter"
    else
      let _ ← h.call deleter (.of [o])
  | _ =>
    match o with
    | .entity id =>
      match w.kind? id, name with
      | some (.function _), "__doc__" => modify fun w => w.setMember id name .null
      | some (.class_ _), "__doc__" => raise "TypeError"
      | some (.class_ _), "__name__" => raise "TypeError"
      | _, _ =>
        if (w.member? id name).isSome then modify fun w => w.eraseMember id name
        else o.failMember name
    | .library path =>
      if Library.meaning path = .class_ then raise "TypeError"
      else modify fun w => { w with replaced := w.replaced.erase (path ++ "." ++ name) }
    | .unknown => return
    | _ => o.failMember name

def deleteMember (h : Hooks) (o : Object) (name : String) : Run Unit := do
  match (← get).special? o "__delattr__" with
  | some f =>
    let _ ← h.call f (.of [o, .text name])
  | none => eraseMember h o name

end Object
end RouteDocs.Module
