import RouteDocs.Module.Exception
import RouteDocs.Module.Method.Collection
import RouteDocs.Module.Method.Text

namespace RouteDocs.Module.Construct

/-- The base that the digits of a text name by themselves, and the digits. -/
def ownBase (cs : List Char) : Nat :=
  match cs with
  | '0' :: letter :: _ =>
    match letter.toLower with
    | 'x' => 16
    | 'o' => 8
    | 'b' => 2
    | _ => 10
  | _ => 10

/-- The integer that a text spells in a base; the base zero stands for the one that it names. -/
def integerIn? (base : Nat) (s : String) : Option Int :=
  if base = 0 then
    let digits := (Numeral.sign (Text.trim s.toList)).2
    let own := ownBase digits
    let isLeading := own = 10 && digits.head? = some '0' &&
      digits.any fun c => c ≠ '0' && c ≠ '_'
    if isLeading then none else Numeral.integer? own s
  else Numeral.integer? base s

def failInteger {α : Type} (h : Hooks) (base : Nat) (o : Object) : Run α := do
  fail "ValueError" ("invalid literal for int() with base " ++ toString base ++ ": " ++
    (← o.shown h))

/-- The text that an object for a number is. -/
def numeralText? (w : World) (o : Object) : Option String :=
  match w.content o with
  | .text s => some s
  | .bytes content => String.fromUTF8? ⟨content.toArray⟩
  | _ => none

def ofReal (x : Binary64) : Run Object :=
  match x with
  | .nan => fail "ValueError" "cannot convert float NaN to integer"
  | .infinite _ => fail "OverflowError" "cannot convert float infinity to integer"
  | _ => return .int ((x.truncate?).getD 0)

def expectInteger (name : String) (o : Object) : Run Object := do
  match o.int? with
  | some n => return .int n
  | none =>
    if o matches .unknown then return .unknown
    else fail "TypeError" (name ++ " returned non-int")

def integer (h : Hooks) (a : Arguments) : Run Object := do
  let given ← a.forNames ["", "base"]
  let w ← get
  match given "", given "base" with
  | none, none => return .int 0
  | none, some _ => fail "TypeError" "int() missing string argument"
  | some o, some base =>
    let n ← base.indexOf h
    if n ≠ 0 ∧ (n < 2 ∨ 36 < n) then
      fail "ValueError" "int() base must be >= 2 and <= 36, or 0"
    else
      match numeralText? w o with
      | some s =>
        match integerIn? n.toNat s with
        | some m => return .int m
        | none => failInteger h n.toNat o
      | none => fail "TypeError" "int() can't convert non-string with explicit base"
  | some o, none =>
    match w.content o with
    | .unknown => return .unknown
    | inner =>
      match ← o.callSpecial? h "__int__" [] with
      | some result => expectInteger "__int__" result
      | none =>
        match ← o.callSpecial? h "__index__" [] with
        | some result => expectInteger "__index__" result
        | none =>
          match inner.number?, numeralText? w o with
          | some (.int n), _ => return .int n
          | some (.float x), _ => ofReal x
          | _, some s =>
            match integerIn? 10 s with
            | some m => return .int m
            | none => failInteger h 10 o
          | _, _ =>
            fail "TypeError" ("int() argument must be a string, a bytes-like object or a real " ++
              "number, not '" ++ Object.className w o ++ "'")

def real (h : Hooks) (a : Arguments) : Run Object := do
  let w ← get
  match ← a.optional with
  | none => return .float Number.realZero
  | some .unknown => return .unknown
  | some o =>
    match numeralText? w o with
    | some s =>
      match Numeral.real? s with
      | some x => return .float x
      | none => fail "ValueError" ("could not convert string to float: " ++ (← o.shown h))
    | none =>
      match (w.content o).number? with
      | some (.complex ..) =>
        fail "TypeError" "float() argument must be a string or a real number, not 'complex'"
      | _ => return .float (← Template.realOf h o)

def complex (a : Arguments) : Run Object := do
  let given ← a.forNames ["real", "imag"]
  let w ← get
  let part (o : Option Object) : Run Number := do
    match o with
    | none => return .int 0
    | some o =>
      match (w.content o).number? with
      | some n => return n
      | none => raise "TypeError"
  let re ← part (given "real")
  let im ← part (given "imag")
  let turned ← orFail (im.combine "*" (.complex Number.realZero Number.one))
  match ← orFail (re.combine "+" (turned.getD (.int 0))) with
  | some (.complex x y) => return .complex x y
  | _ => return .unknown

def text (h : Hooks) (a : Arguments) : Run Object := do
  let given ← a.forNames ["object", "encoding", "errors"]
  match given "object" with
  | none => return .text ""
  | some o =>
    if (given "encoding").isSome || (given "errors").isSome then
      match (← get).content o with
      | .bytes content =>
        TextMethod.decoded content (← expectString ((given "encoding").getD (.text "utf-8")))
          (← expectString ((given "errors").getD (.text "strict")))
      | .text _ => fail "TypeError" "decoding str is not supported"
      | _ => fail "TypeError" "decoding to str: need a bytes-like object"
    else if o matches .unknown then return .unknown
    else return .text (← o.plain h)

def byteOf (h : Hooks) (o : Object) : Run UInt8 := do
  let n ← o.indexOf h
  if n < 0 ∨ 255 < n then fail "ValueError" "bytes must be in range(0, 256)"
  else return .ofNat n.toNat

def bytes (h : Hooks) (a : Arguments) : Run Object := do
  let given ← a.forNames ["source", "encoding", "errors"]
  let w ← get
  match (given "source").map w.content with
  | none => return .bytes []
  | some .unknown => return .unknown
  | some (.bytes content) => return .bytes content
  | some (.text s) =>
    match given "encoding" with
    | none => fail "TypeError" "string argument without an encoding"
    | some encoding =>
      TextMethod.encoded s (← expectString encoding)
        (← expectString ((given "errors").getD (.text "strict")))
  | some o =>
    match o.int? with
    | some n =>
      if n < 0 then fail "ValueError" "negative count"
      else Operator.repeatWith n [(0 : UInt8)] fun bs => return .bytes bs
    | none => return .bytes (← (← o.items h).mapM (byteOf h))

/-- The items of the only argument, or none. -/
def itemsOf (h : Hooks) (a : Arguments) : Run (List Object) := do
  match ← a.optional with
  | some o => o.items h
  | none => return []

def range (h : Hooks) (a : Arguments) : Run Object := do
  match ← (← a.take 1 3).mapM (Object.indexOf h) with
  | [stop] => return .range 0 stop 1
  | [first, stop] => return .range first stop 1
  | [first, stop, step] =>
    if step = 0 then fail "ValueError" "range() arg 3 must not be zero"
    else return .range first stop step
  | _ => return .null

def slice (a : Arguments) : Run Object := do
  match ← a.take 1 3 with
  | [last] => return .slice .null last .null
  | [first, last] => return .slice first last .null
  | [first, last, step] => return .slice first last step
  | _ => return .null

/-- A new property. Without a documentation of its own it has that of what reads it. -/
def property (h : Hooks) (a : Arguments) : Run Object := do
  let given ← a.forNames ["fget", "fset", "fdel", "doc"]
  let getter := (given "fget").getD .null
  let doc ← match given "doc" with
    | some .null => ownDoc getter
    | some doc => pure doc
    | none => ownDoc getter
  return .property getter ((given "fset").getD .null) ((given "fdel").getD .null) doc
where
  /-- The documentation of what reads a property. -/
  ownDoc (getter : Object) : Run Object := do
    if getter matches .null then return .null
    else return (← getter.memberOrNone h "__doc__").getD .null

/-- Something that gives its items one by one when it is asked for them. -/
def pending (h : Hooks) (path : String) (sources rest : List Object)
    (named : List (String × Object)) : Run Object := do
  let iterators ← sources.mapM fun o => do newIterator (← o.items h)
  return .entity (← create (.pending (.library path) ⟨rest ++ iterators, named⟩) [])

/-- The value that a class of the library makes of arguments; none, if it is not followed. -/
def content? (h : Hooks) (path : String) (a : Arguments) : Option (Run Object) :=
  match path with
  | "int" => some (integer h a)
  | "float" => some (real h a)
  | "complex" => some (complex a)
  | "bool" => some do
    match ← a.optional with
    | some o => return .bool (← o.truth h)
    | none => return .bool false
  | "str" => some (text h a)
  | "bytes" => some (bytes h a)
  | "tuple" => some do return .tuple (← itemsOf h a)
  | "list" => some do newList (← itemsOf h a)
  | "set" => some do newSet false (← distinct h [] (← itemsOf h a))
  | "frozenset" => some do newSet true (← distinct h [] (← itemsOf h a))
  | "dict" => some do newMapping (← putKeys h [] (← entriesOfArguments h a))
  | "collections.OrderedDict" => some do newMapping (← putKeys h [] (← entriesOfArguments h a))
  | "range" => some (range h a)
  | "slice" => some (slice a)
  | "property" => some (property h a)
  | "staticmethod" => some do return .staticMethod (← a.one)
  | "classmethod" => some do return .classMethod (← a.one)
  | "enumerate" => some do
    let given ← a.forNames ["iterable", "start"]
    match given "iterable" with
    | none => raise "TypeError"
    | some o => pending h path [o] [.int (← ((given "start").getD (.int 0)).indexOf h)] []
  | "zip" => some do
    if a.named.any fun (name, _) => name ≠ "strict" then raise "TypeError"
    else pending h path a.placed [] a.named
  | "map" => some do
    match a.placed, a.named with
    | f :: first :: more, [] => pending h path (first :: more) [f] []
    | _, _ => fail "TypeError" "map() must have at least two arguments."
  | "filter" => some do
    let (f, o) ← a.two
    pending h path [o] [f] []
  | "reversed" => some do
    let o ← a.one
    match ← o.callSpecial? h "__reversed__" [] with
    | some result => return result
    | none =>
      let w ← get
      match Operator.setItems? w (w.content o) with
      | some _ => fail "TypeError" "'set' object is not reversible"
      | none => newIterator (← o.items h).reverse
  | "NoneType" => some do
    a.none
    return .null
  | "ellipsis" => some do
    a.none
    return .ellipsis
  | "memoryview" => some (return .unknown)
  | "bytearray" => some (return .unknown)
  | "super" => some do
    let (c, self) ← a.two
    match (← get).classRef? c with
    | some c => return .above c self
    | none => fail "TypeError" "super() argument 1 must be a type"
  | _ => none

end RouteDocs.Module.Construct
