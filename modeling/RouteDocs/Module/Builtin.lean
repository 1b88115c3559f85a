import RouteDocs.Module.Function.Exchange
import RouteDocs.Module.Function.Mathematics
import RouteDocs.Module.Method

namespace RouteDocs.Module.Builtin

/-! ### Printing -/

inductive Target where
  | out
  | errors
  | nowhere
  | object (o : Object)

/-- What texts for the user go to, unless modules have put something else in its place. -/
def outStream : Object := .library "sys.stdout"

def errorStream : Object := .library "sys.stderr"

def targetOfObject (w : World) (o : Object) : Target :=
  if o == outStream then .out
  else if o == errorStream then .errors
  else if w.classOf o = .library "" then .nowhere
  else .object o

/-- What an argument of a call says about where printed objects go to. -/
def targetOf (w : World) (o : Option Object) : Target :=
  match o with
  | some (.library path) => targetOfObject w ((w.replaced.find? path).getD (.library path))
  | some .null => default
  | some o => targetOfObject w o
  | none => default
where
  /-- Where objects are printed to that are not said to go anywhere. -/
  default : Target :=
    match w.replaced.find? "sys.stdout" with
    | some .null => .nowhere
    | some o => targetOfObject w o
    | none => .out

/-- Halves of surrogate pairs as they are written where they cannot be printed. -/
def escapeHalves (s : String) : String :=
  .ofList (s.toList.flatMap fun c =>
    match Text.half? c with
    | some code => '\\' :: 'u' :: Text.hexDigits code 4
    | none => [c])

def write (h : Hooks) (target : Target) (s : String) : Run Unit := do
  match target with
  | .nowhere => return
  | .object o =>
    let f ← o.member h "write"
    let _ ← h.call f (.of [.text s])
  | .errors => modify fun w => { w with printed := w.printed ++ ⟨"", escapeHalves s⟩ }
  | .out =>
    if (← get).isStrict && Text.hasHalves s then
      throw (← newException "UnicodeEncodeError"
        [.text "utf-8", .text s, .int 0, .int 1, .text "surrogates not allowed"] [])
    else modify fun w => { w with printed := w.printed ++ .text s }

/-- The text between or after printed objects that an argument gives. -/
def printedWith (name default : String) (o : Option Object) : Run String := do
  match o with
  | none => return default
  | some .null => return default
  | some .unknown => return default
  | some o =>
    let w ← get
    match w.content o with
    | .text s => return s
    | _ => fail "TypeError" (name ++ " must be None or a string, not " ++ Object.className w o)

def printAll (h : Hooks) (target : Target) (between : String) (isFirst : Bool) :
    List Object → Run Unit
  | [] => return
  | o :: os => do
    if ! isFirst then write h target between
    write h target (← o.plain h)
    printAll h target between false os

def print (h : Hooks) (a : Arguments) : Run Object := do
  if a.named.any fun (name, _) => ! ["sep", "end", "file", "flush"].contains name then
    fail "TypeError" "print() got an unexpected keyword argument"
  else
    let between ← printedWith "sep" " " (a.named.lookup "sep")
    let after ← printedWith "end" "\n" (a.named.lookup "end")
    let target := targetOf (← get) (a.named.lookup "file")
    printAll h target between true a.placed
    write h target after
    return .null

/-! ### Classes -/

/-- The classes of a choice, where the null value stands for its own class. -/
def choiceClass? (w : World) : Object → Option ClassRef
  | .null => some (.library "NoneType")
  | o => w.classRef? o

/-- The classes that an argument names: one, those of a tuple, or those of a choice. `n` bounds how
deep tuples can lie in one another. -/
def classesOf (w : World) : Nat → Object → Option (List (Option ClassRef))
  | 0, _ => none
  | n + 1, o =>
    match o with
    | .tuple items => (items.mapM (classesOf w n)).map List.flatten
    | .union items => some (items.map (choiceClass? w))
    | .unknown => some [none]
    | .library path =>
      match Library.meaning path with
      | .class_ => some [some (.library path)]
      | .module => none
      | _ => if path.toList.contains '.' then some [none] else none
    | o => (w.classRef? o).map fun c => [some c]

def isInstance (h : Hooks) (o classes : Object) : Run Object := do
  match ← classes.callSpecial? h "__instancecheck__" [o] with
  | some result => return .bool (← result.truth h)
  | none =>
    let w ← get
    match classesOf w maxDepth classes with
    | none =>
      fail "TypeError" "isinstance() arg 2 must be a type, a tuple of types, or a union"
    | some refs =>
      if refs.any fun c => c.any (w.isInstance o) then return .bool true
      else if o matches .unknown then return .unknown
      else if refs.any fun c => c.all World.isOpen then return .unknown
      else return .bool false

def isSubclass (o classes : Object) : Run Object := do
  let w ← get
  match w.classRef? o, classesOf w maxDepth classes with
  | some c, some refs =>
    if refs.any fun above => above.any (w.isBelow c) then return .bool true
    else if refs.any fun c => c.all World.isOpen then return .unknown
    else return .bool false
  | none, _ =>
    if o matches .unknown then return .unknown
    else fail "TypeError" "issubclass() arg 1 must be a class"
  | _, none =>
    fail "TypeError" "issubclass() arg 2 must be a class, a tuple of classes, or a union"

/-! ### Items -/

/-- Whether the conditions with all items hold, or with one of them. -/
def anyTruth (h : Hooks) (wanted : Bool) : List Object → Run Bool
  | [] => return ! wanted
  | o :: os => do if (← o.truth h) == wanted then return wanted else anyTruth h wanted os

/-- The first of the items that goes before all others in an order. -/
def best (h : Hooks) (operator : String) (key : Object) : Object × Object → List Object →
    Run Object
  | (_, o), [] => return o
  | (k, o), item :: items => do
    let k' ← if key matches .null then pure item else h.call key (.of [item])
    if ← (← k'.compare h operator k).truth h then best h operator key (k', item) items
    else best h operator key (k, o) items

/-- The least or greatest of several objects. -/
def extreme (h : Hooks) (name operator : String) (a : Arguments) : Run Object := do
  if a.named.any fun (name, _) => ! ["key", "default"].contains name then raise "TypeError"
  else
    let items ← match a.placed with
      | [] => fail "TypeError" (name ++ " expected at least 1 argument, got 0")
      | [o] => o.items h
      | all => pure all
    match items, a.named.lookup "default" with
    | [], some o => return o
    | [], none => fail "ValueError" (name ++ "() arg is an empty sequence")
    | item :: items, _ =>
      let key := (a.named.lookup "key").getD .null
      let k ← match key with
        | .null => pure item
        | _ => h.call key (.of [item])
      best h operator key (k, item) items

def iterator (h : Hooks) (o : Object) : Run Object := do
  let w ← get
  match w.special? o "__iter__" with
  | some _ => return (← o.callSpecial? h "__iter__" []).getD .null
  | none =>
    match o with
    | .entity id =>
      match w.kind? id with
      | some (.iterator _) => return o
      | some (.pending ..) => return o
      | some (.steps ..) => return o
      | _ => newIterator (← o.items h)
    | _ => newIterator (← o.items h)

/-! ### Numbers -/

def inBase (h : Hooks) (base : Nat) (lead : String) (o : Object) : Run Object := do
  let n ← o.indexOf h
  return .text ((if n < 0 then "-" else "") ++ lead ++ .ofList (Nat.toDigits base n.natAbs))

def round (h : Hooks) (o places : Object) : Run Object := do
  match ← o.callSpecial? h "__round__" (if places matches .null then [] else [places]) with
  | some result => return result
  | none =>
    let w ← get
    match (w.content o).number?, places with
    | some (.int n), .null => return .int n
    | some (.int n), p =>
      let k ← p.indexOf h
      if 0 ≤ k then return .int n
      else
        let unit : Nat := Nat.pow 10 (min k.natAbs 10000)
        return .int (Binary64.roundFraction n unit * unit)
    | some (.float x), .null =>
      match x with
      | .nan => fail "ValueError" "cannot convert float NaN to integer"
      | .infinite _ => fail "OverflowError" "cannot convert float infinity to integer"
      | _ => return .int ((x.round?).getD 0)
    | some (.float x), p => return .float (x.roundTo (← p.indexOf h))
    | _, _ =>
      if o matches .unknown then return .unknown
      else fail "TypeError" ("type " ++ Object.className w o ++
        " doesn't define __round__ method")

/-- A power of an integer modulo another. `n` bounds the number of digits of the exponent. -/
def powerModulo (modulus : Int) : Nat → Int → Nat → Int → Int
  | 0, _, _, done => done
  | n + 1, base, exponent, done =>
    if exponent = 0 then done
    else
      powerModulo modulus n (base * base % modulus) (exponent / 2)
        (if exponent % 2 = 1 then done * base % modulus else done)

def power (h : Hooks) (base exponent modulus : Object) : Run Object := do
  match modulus with
  | .null => Operator.binary h "**" base exponent
  | _ =>
    match base.int?, exponent.int?, modulus.int? with
    | some b, some e, some m =>
      if m = 0 then fail "ValueError" "pow() 3rd argument cannot be 0"
      else if e < 0 then return .unknown
      else return .int ((powerModulo m.natAbs (e.natAbs.log2 + 1) (b % m.natAbs) e.natAbs
        (1 % m.natAbs)).fmod m)
    | _, _, _ =>
      fail "TypeError" "pow() 3rd argument not allowed unless all arguments are integers"

/-! ### Decorators -/

/-- The fields that one function takes over from another. -/
def wrappedFields : List String := ["__module__", "__name__", "__qualname__", "__doc__"]

/-- Gives a function the name and documentation of another. -/
def wrap (h : Hooks) (wrapped wrapper : Object) : Run Object := do
  wrappedFields.forM fun name => do
    match ← wrapped.memberOrNone h name with
    | some o => wrapper.setMember h name o
    | none => return
  wrapper.setMember h "__wrapped__" wrapped
  return wrapper

/-- What of the library gives its only argument back. -/
def transparent : List String := [
  "abc.abstractmethod", "typing.final", "typing.no_type_check", "typing.runtime_checkable",
  "functools.cache", "functools.lru_cache", "functools.total_ordering", "functools.singledispatch",
  "enum.unique", "contextlib.contextmanager", "contextlib.asynccontextmanager",
  "atexit.register"]

/-! ### Names of members -/

/-- The names of the members of classes, if all of them are known. -/
def namesInOrder (w : World) (order : List ClassRef) : Option (List String) :=
  if order.any World.isOpen then none
  else some (order.flatMap fun c =>
    match c with
    | .own id =>
      ["__dict__", "__weakref__"] ++ ((w.entity? id).map fun e => e.members.keys).getD []
    | .library path =>
      "__doc__" :: ((Library.class? path).map fun info => info.members.map (·.name)).getD [])

/-- The names of the members of an object, if all of them are known. -/
def memberNames? (w : World) (o : Object) : Option (List String) :=
  match w.classRef? o with
  | some c => namesInOrder w (w.order c)
  | none =>
    match o with
    | .entity id =>
      let own := ((w.entity? id).map fun e => e.members.keys).getD []
      match w.kind? id with
      | some (.module ..) => some (own.filter (· ≠ "*"))
      | _ => (namesInOrder w (w.order (w.classOf o))).map (own ++ ·)
    | .library path =>
      if Library.meaning path = .module then
        (Library.contents.find? (·.path = path)).map fun info =>
          Library.words info.classes ++ Library.words info.callables ++ Library.words info.others
      else none
    | .unknown => none
    | o => namesInOrder w (w.order (w.classOf o))

/-- The names of the members of an object, in their order. -/
def directory (h : Hooks) (o : Object) : Run Object := do
  match ← o.callSpecial? h "__dir__" [] with
  | some names => newList (← sorted h .null false (← names.items h))
  | none =>
    match memberNames? (← get) o with
    | some names => newList (names.eraseDups.mergeSort.map .text)
    | none => return .unknown

/-! ### Calls -/

def exit (a : Arguments) : Run Object := do
  let code := a.placed.headD .null
  throw (← newException "SystemExit" a.placed [("code", code)])

/-- The result of calling a function of the library; none, if it is not followed. -/
def function? (h : Hooks) (path : String) (a : Arguments) : Option (Run Object) :=
  match path with
  | "print" => some (print h a)
  | "len" => some do (← a.one).length h
  | "repr" => some do
    let o ← a.one
    if o matches .unknown then return .unknown else return .text (← o.shown h)
  | "ascii" => some do return .text (Template.asciiOnly (← (← a.one).shown h))
  | "abs" => some do
    let o ← a.one
    match ← o.callSpecial? h "__abs__" [] with
    | some result => return result
    | none =>
      let w ← get
      match (w.content o).number? with
      | some (.int n) => return .int n.natAbs
      | some (.float x) => return .float x.abs
      | some (.complex re im) =>
        let x := re.toFloat
        let y := im.toFloat
        return .float (.ofFloat (x * x + y * y).sqrt)
      | none =>
        if o matches .unknown then return .unknown
        else fail "TypeError" ("bad operand type for abs(): '" ++ Object.className w o ++ "'")
  | "all" => some do return .bool (← anyTruth h false (← (← a.one).items h))
  | "any" => some do return .bool (← anyTruth h true (← (← a.one).items h))
  | "bin" => some do inBase h 2 "0b" (← a.one)
  | "oct" => some do inBase h 8 "0o" (← a.one)
  | "hex" => some do inBase h 16 "0x" (← a.one)
  | "callable" => some do return .bool ((← get).isCallable (← a.one))
  | "chr" => some do
    let n ← (← a.one).indexOf h
    if n < -0x80000000 ∨ 0x80000000 ≤ n then
      fail "OverflowError" "int too large to convert"
    else if n < 0 ∨ 0x110000 ≤ n then fail "ValueError" "chr() arg not in range(0x110000)"
    else return .text (Text.ofCode n.toNat).toString
  | "ord" => some do
    let o ← a.one
    let w ← get
    match w.content o with
    | .text s =>
      match s.toList with
      | [c] => return .int (Text.codeOf c)
      | cs => fail "TypeError" ("ord() expected a character, but string of length " ++
          toString cs.length ++ " found")
    | .bytes [b] => return .int b.toNat
    | .unknown => return .unknown
    | _ => fail "TypeError" ("ord() expected string of length 1, but " ++
        Object.className w o ++ " found")
  | "dir" => some do directory h (← a.one)
  | "divmod" => some do
    let (x, y) ← a.two
    return .tuple [← Operator.binary h "//" x y, ← Operator.binary h "%" x y]
  | "format" => some do
    let all ← a.take 1 2
    let format ← match all[1]? with
      | some o => expectString o
      | none => pure ""
    return .text (← Template.formatted h (all.headD .null) format)
  | "getattr" => some do
    match ← a.take 2 3 with
    | [o, name] => o.member h (← expectString name)
    | [o, name, default] => return (← o.memberOrNone h (← expectString name)).getD default
    | _ => return .null
  | "hasattr" => some do
    let (o, name) ← a.two
    return .bool (← o.memberOrNone h (← expectString name)).isSome
  | "setattr" => some do
    match ← a.take 3 3 with
    | [o, name, value] =>
      o.setMember h (← expectString name) value
      return .null
    | _ => return .null
  | "delattr" => some do
    let (o, name) ← a.two
    o.deleteMember h (← expectString name)
    return .null
  | "hash" => some do
    let o ← a.one
    o.checkKey h
    match o.int? with
    | some n => return .int (if n = -1 then -2 else n.tmod (Int.pow 2 61 - 1))
    | none => return .int 0
  | "id" => some do
    match ← a.one with
    | .entity id => return .int (140000000000000 + 64 * id)
    | _ => return .int 140000000000000
  | "input" => some (fail "EOFError" "EOF when reading a line")
  | "isinstance" => some do
    let (o, classes) ← a.two
    isInstance h o classes
  | "issubclass" => some do
    let (o, classes) ← a.two
    isSubclass o classes
  | "iter" => some do
    match ← a.take 1 2 with
    | [o] => iterator h o
    | _ => return .unknown
  | "next" => some do
    match ← a.take 1 2 with
    | [o] =>
      match ← o.next? h with
      | some item => return item
      | none => raise "StopIteration"
    | [o, default] => return (← o.next? h).getD default
    | _ => return .null
  | "max" => some (extreme h "max" ">" a)
  | "min" => some (extreme h "min" "<" a)
  | "pow" => some do
    let given ← a.forNames ["base", "exp", "mod"]
    match given "base", given "exp" with
    | some base, some exponent => power h base exponent ((given "mod").getD .null)
    | _, _ => raise "TypeError"
  | "round" => some do
    let given ← a.forNames ["number", "ndigits"]
    match given "number" with
    | some o => round h o ((given "ndigits").getD .null)
    | none => raise "TypeError"
  | "sorted" => some do
    match a.placed with
    | [o] =>
      let given ← Arguments.forNames ⟨[], a.named⟩ ["key", "reverse"]
      let isReversed ← ((given "reverse").getD (.bool false)).truth h
      newList (← sorted h ((given "key").getD .null) isReversed (← o.items h))
    | _ => fail "TypeError" "sorted expected 1 argument"
  | "sum" => some do
    let given ← a.forNames ["iterable", "start"]
    let start := (given "start").getD (.int 0)
    match given "iterable" with
    | none => raise "TypeError"
    | some o =>
      let items ← o.items h
      match (← get).content start with
      | .text _ => fail "TypeError" "sum() can't sum strings [use ''.join(seq) instead]"
      | .bytes _ => fail "TypeError" "sum() can't sum bytes [use b''.join(seq) instead]"
      | _ => items.foldlM (fun done item => Operator.binary h "+" done item) start
  | "vars" => some do
    match a.placed with
    | [o] => o.member h "__dict__"
    | _ => return .unknown
  | "open" => some (Files.open_ h a)
  | "exit" => some (exit a)
  | "quit" => some (exit a)
  | "sys.exit" => some do
    let _ ← a.optional
    exit a
  | "help" => some (return .null)
  | "breakpoint" => some (return .null)
  | "__import__" => some (importNamed a)
  | "importlib.import_module" => some (importNamed a)
  | "sys.stdout.write" => some do
    let s ← expectString (← a.one)
    write h .out s
    return .int s.length
  | "sys.stderr.write" => some do
    let s ← expectString (← a.one)
    write h .errors s
    return .int s.length
  | "json.loads" => some (Exchange.read h a)
  | "json.dumps" => some (Exchange.write h a)
  | "json.load" => some do
    match a.placed with
    | [file] =>
      let content ← h.call (← file.member h "read") (.of [])
      Exchange.read h { a with placed := [content] }
    | _ => raise "TypeError"
  | "os.getenv" => some do
    let given ← a.forNames ["key", "default"]
    match given "key", (← get).kind? World.environmentId with
    | some key, some (.mapping entries) =>
      let name ← expectString key
      return ((entries.lookup (.text name)) <|> given "default").getD .null
    | _, _ => raise "TypeError"
  | "click.echo" => some do
    let given ← a.forNames ["message", "file", "nl", "err", "color"]
    let flag (name : String) (default : Bool) : Run Bool :=
      match given name with
      | some o => o.truth h
      | none => return default
    let w ← get
    let target ← match given "file" with
      | some .null => pure (targetOf w (if ← flag "err" false then some errorStream else none))
      | none => pure (targetOf w (if ← flag "err" false then some errorStream else none))
      | file => pure (targetOf w file)
    let s ← match given "message" with
      | none => pure ""
      | some .null => pure ""
      | some o => o.plain h
    write h target (s ++ if ← flag "nl" true then "\n" else "")
    return .null
  | "functools.wraps" => some do
    match a.placed with
    | o :: _ => return .method "functools.update_wrapper" o
    | [] => raise "TypeError"
  | "functools.update_wrapper" => some do
    match a.placed with
    | wrapper :: wrapped :: _ => wrap h wrapped wrapper
    | _ => raise "TypeError"
  | "functools.reduce" => some do
    match ← a.take 2 3 with
    | [f, o] =>
      match ← o.items h with
      | first :: rest => rest.foldlM (fun done item => h.call f (.of [done, item])) first
      | [] => fail "TypeError" "reduce() of empty iterable with no initial value"
    | [f, o, start] =>
      (← o.items h).foldlM (fun done item => h.call f (.of [done, item])) start
    | _ => return .null
  | "functools.cached_property" => some do return .property (← a.one) .null .null .null
  | "dataclasses.dataclass" => some (asDecorator fun o => do
      match o with
      | .entity id => modify fun w => w.setMember id "__init__" .unknown
      | _ => pure ()
      return o)
  | _ =>
    if transparent.contains path then some (asDecorator fun o => return o)
    else if "math.".isPrefixOf path then Mathematics.function? h (Text.cutLast '.' path).2 a
    else Files.function? h path a
where
  /-- The module of a name. -/
  importNamed (a : Arguments) : Run Object := do
    match a.placed with
    | .text name :: _ => h.load name
    | .unknown :: _ => return .unknown
    | _ => raise "TypeError"
  /-- What a decorator makes of the only argument; with other arguments it gives itself. -/
  asDecorator (f : Object → Run Object) : Run Object :=
    match a.placed, a.named with
    | [o], [] => do
      if (← get).isCallable o then f o else return .library path
    | _, _ => return .library path

/-- The result of calling something of the library. -/
def call (h : Hooks) (path : String) (a : Arguments) : Run Object := do
  match function? h path a with
  | some run => run
  | none =>
    match Library.meaning path with
    | .class_ =>
      if path = "type" then
        match a.placed, a.named with
        | [o], [] => return ((← get).classOf o).object
        | _, _ => Instance.classOfArguments h (.library "type") a
      else Instance.make h (.library path) a
    | .module =>
      fail "TypeError" "'module' object is not callable"
    | .callable =>
      let (owner, name) := Text.cutLast '.' path
      match Library.ownMember? owner name with
      | none => return .unknown
      | some m =>
        match m.kind, a.placed with
        | .staticMethod, c :: rest =>
          if name = "__new__" then
            match (← get).classRef? c with
            | some c =>
              if owner = "type" then Instance.classOfArguments h c { a with placed := rest }
              else Instance.new h c { a with placed := rest }
            | none => fail "TypeError" "X is not a type object"
          else return .unknown
        | .method, self :: rest =>
          let w ← get
          if w.isInstance self (.library owner) || self matches .unknown ||
              (w.order (w.classOf self)).any World.isOpen then
            Method.call h path self { a with placed := rest }
          else
            fail "TypeError" ("descriptor '" ++ name ++ "' requires a '" ++ owner ++
              "' object but received a '" ++ Object.className w self ++ "'")
        | .method, [] =>
          fail "TypeError" ("unbound method " ++ path ++ "() needs an argument")
        | _, _ => return .unknown
    | .other =>
      if Object.ofPath path matches .library _ then
        if ["copyright", "credits", "license"].contains path then return .null else return .unknown
      else fail "TypeError" "object is not callable"

end RouteDocs.Module.Builtin
