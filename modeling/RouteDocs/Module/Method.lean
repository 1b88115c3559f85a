import RouteDocs.Module.Function.Files
import RouteDocs.Module.Instance

namespace RouteDocs.Module.Method

/-- An operation on an object and the only argument, where having no result is one. -/
def orNotImplemented (run : Run (Option Object)) : Run Object := do
  return (← run).getD .notImplemented

def comparisonOf? (name : String) : Option String :=
  [("__eq__", "=="), ("__ne__", "!="), ("__lt__", "<"), ("__le__", "<="), ("__gt__", ">"),
    ("__ge__", ">=")].lookup name

def operators : List String :=
  ["+", "-", "*", "/", "//", "%", "**", "@", "<<", ">>", "&", "|", "^"]

/-- The operator that a method stands for, and whether its object comes second. -/
def operatorOf? (name : String) : Option (String × Bool) :=
  operators.findSome? fun operator =>
    let stem := Operator.stem operator
    if name = "__" ++ stem ++ "__" then some (operator, false)
    else if name = "__r" ++ stem ++ "__" then some (operator, true)
    else none

/-- The comparison of an object of the library with another; what has no order has no result. -/
def compare (h : Hooks) (owner operator : String) (self other : Object) : Run (Option Object) := do
  let w ← get
  let again (operator : String) (x y : Object) : Run Bool := do
    (← x.compare h operator y).truth h
  let isEquality := operator = "==" || operator = "!="
  if owner = "object" then
    return if isEquality && self.same other then some (.bool (operator = "==")) else none
  else
    let a := w.content self
    let b := w.content other
    if w.classOf a != w.classOf b && ! (a.number?.isSome && b.number?.isSome) then return none
    else return (← Object.comparePlain again operator a b).map Object.bool

def below (w : World) (c : ClassRef) : List Object :=
  (List.range w.entities.size).filterMap fun id =>
    match w.class? id with
    | some k => if k.bases.contains c then some (.entity id) else none
    | none => none

/-- Methods that take no arguments. -/
def bare : List String := [
  "__neg__", "__pos__", "__invert__", "__abs__", "__int__", "__index__", "__float__", "__repr__",
  "__str__", "__len__", "__bool__", "__iter__", "__reversed__", "__next__", "__hash__",
  "__trunc__", "__floor__", "__ceil__", "__complex__", "__bytes__", "mro", "__subclasses__"]

/-- The operator that a method stands for which changes its object. -/
def inPlaceOf? (name : String) : Option String :=
  operators.find? fun operator => name = "__i" ++ Operator.stem operator ++ "__"

def isSequence (w : World) (o : Object) : Bool :=
  match w.content o with
  | .text _ => true
  | .bytes _ => true
  | .tuple _ => true
  | inner => (Object.list? w inner).isSome

/-- The result of a method that stands for an operator or the like; none, if it is not followed. -/
def special? (h : Hooks) (owner name : String) (self : Object) (a : Arguments) :
    Option (Run Object) :=
  match comparisonOf? name with
  | some operator => some do orNotImplemented (compare h owner operator self (← a.one))
  | none =>
    match operatorOf? name with
    | some (operator, isSwapped) => some do
      let other ← a.one
      let inner := (← get).content self
      if isSequence (← get) inner && operator ≠ "%" then
        if isSwapped then Operator.binary h operator other inner
        else Operator.binary h operator inner other
      else orNotImplemented (if isSwapped then Operator.plain? h operator other inner
        else Operator.plain? h operator inner other)
    | none =>
      match inPlaceOf? name with
      | some operator => some do Operator.inPlace h operator self (← a.one)
      | none =>
        if bare.contains name then
          other.map fun run => do
            a.none
            run
        else other
where
  /-- The result of any other method of this kind. -/
  other : Option (Run Object) :=
    match name with
    | "__init__" => some do
      Instance.setUp h self a
      return .null
    | "__call__" =>
      some (if owner = "type" then do
          match (← get).classRef? self with
          | some c => Instance.make h c a
          | none => h.call self a
        else h.call self a)
    | "__get__" => some do
      match ← a.take 1 2 with
      | [.null, c] => Object.ofClass h c self
      | [o] => Object.ofInstance h o .null self
      | [o, c] => Object.ofInstance h o c self
      | _ => return .null
    | "__hash__" => some do
      a.none
      let inner := (← get).content self
      inner.checkKey h
      match inner.int? with
      | some n => return .int (if n = -1 then -2 else n.tmod (Int.pow 2 61 - 1))
      | none => return .int 0
    | "__repr__" => some do return .text (← self.shownByLibrary h)
    | "__str__" => some do return .text (← self.plainByLibrary h)
    | "__format__" => some do
      let format ← expectString (← a.one)
      if format.isEmpty then return .text (← self.plain h)
      else return .text (← Template.formatted h ((← get).content self) format)
    | "__len__" => some do ((← get).content self).length h
    | "__bool__" => some do return .bool (Object.plainTruth (← get) ((← get).content self))
    | "__contains__" => some do
      return .bool (← Object.plainContains h ((← get).content self) (← a.one))
    | "__iter__" => some do
      let inner := (← get).content self
      match inner with
      | .entity id =>
        match (← get).kind? id with
        | some (.iterator _) => return self
        | some (.pending ..) => return self
        | some (.steps ..) => return self
        | _ => newIterator (← inner.items h)
      | _ => newIterator (← inner.items h)
    | "__reversed__" => some do newIterator (← ((← get).content self).items h).reverse
    | "__next__" => some do
      match ← ((← get).content self).next? h with
      | some o => return o
      | none => raise "StopIteration"
    | "__getitem__" => some do Object.plainIndex h ((← get).content self) (← a.one)
    | "__setitem__" => some do
      let (key, value) ← a.two
      Object.setPlainItem h ((← get).content self) key value
      return .null
    | "__delitem__" => some do
      ((← get).content self).deleteItem h (← a.one)
      return .null
    | "__neg__" => some do Operator.unary h "-" ((← get).content self)
    | "__pos__" => some do Operator.unary h "+" ((← get).content self)
    | "__invert__" => some do Operator.unary h "~" ((← get).content self)
    | "__abs__" => some do
      match ((← get).content self).number? with
      | some (.int n) => return .int n.natAbs
      | some (.float x) => return .float x.abs
      | _ => return .unknown
    | "__int__" => some do Construct.integer h (.of [(← get).content self])
    | "__index__" => some do return .int (← ((← get).content self).indexOf h)
    | "__float__" => some do return .float (← Template.realOf h ((← get).content self))
    | "__getattribute__" => some do
      let key ← expectString (← a.one)
      match ← self.plainMember? h key with
      | some o => return o
      | none => self.failMember key
    | "__setattr__" => some do
      let (key, value) ← a.two
      self.storeMember h (← expectString key) value
      return .null
    | "__delattr__" => some do
      self.eraseMember h (← expectString (← a.one))
      return .null
    | "__init_subclass__" => some do
      if a.named.isEmpty && a.placed.isEmpty then return .null
      else fail "TypeError" "__init_subclass__() takes no arguments"
    | "__subclasshook__" => some (return .notImplemented)
    | "__class_getitem__" => some do return .alias self (← a.one)
    | "mro" => some do
      match (← get).classRef? self with
      | some c => newList (((← get).order c).map ClassRef.object)
      | none => return .unknown
    | "__subclasses__" => some do
      match (← get).classRef? self with
      | some c => newList (below (← get) c)
      | none => return .unknown
    | "__instancecheck__" => some do
      match (← get).classRef? self with
      | some c => return .bool ((← get).isInstance (← a.one) c)
      | none => return .unknown
    | "__prepare__" => some (newMapping [])
    | "with_traceback" => some do
      let _ ← a.one
      return self
    | "add_note" => some do
      let note ← a.one
      match self with
      | .entity id =>
        match (← get).member? id "__notes__" with
        | some notes =>
          let _ ← Operator.inPlace h "+" notes (← newList [note])
          return .null
        | none =>
          let notes ← newList [note]
          modify fun w => w.setMember id "__notes__" notes
          return .null
      | _ => return .null
    | "send" => some do
      match ← self.next? h with
      | some o => return o
      | none => raise "StopIteration"
    | "close" => some (return .null)
    | _ => none

/-- The result of a method of a number; none, if it is not followed. -/
def ofNumber? (name : String) (n : Number) (a : Arguments) : Option (Run Object) :=
  match name, n with
  | "bit_length", .int n => some do
    a.none
    return .int (if n = 0 then 0 else n.natAbs.log2 + 1)
  | "bit_count", .int n => some do
    a.none
    return .int ((Nat.toDigits 2 n.natAbs).count '1')
  | "conjugate", n => some do
    a.none
    match n with
    | .int n => return .int n
    | .float x => return .float x
    | .complex re im => return .complex re im.neg
  | "__trunc__", .int n => some do
    a.none
    return .int n
  | "__floor__", .int n => some do
    a.none
    return .int n
  | "__ceil__", .int n => some do
    a.none
    return .int n
  | "__trunc__", .float x => some do
    a.none
    Construct.ofReal x
  | "__floor__", .float x => some do
    a.none
    whole x x.floor?
  | "__ceil__", .float x => some do
    a.none
    whole x (x.neg.floor?.map (- ·))
  | "to_bytes", .int n => some (toBytes n)
  | "is_integer", .float x => some do
    a.none
    return .bool x.toInt?.isSome
  | "as_integer_ratio", .int n => some do
    a.none
    return .tuple [.int n, .int 1]
  | "as_integer_ratio", .float x => some do
    a.none
    match x.ratio? with
    | some (n, d) =>
      let g := Nat.gcd n.natAbs d
      return .tuple [.int (n / g), .int (d / g : Nat)]
    | none =>
      if x matches .nan then fail "ValueError" "cannot convert NaN to integer ratio"
      else fail "OverflowError" "cannot convert Infinity to integer ratio"
  | _, _ => none
where
  /-- An integer of a real number, if there is one. -/
  whole (x : Binary64) (n : Option Int) : Run Object :=
    match n with
    | some n => return .int n
    | none => Construct.ofReal x
  /-- The bytes of an integer. -/
  toBytes (n : Int) : Run Object := do
    let given ← a.forNames ["length", "byteorder", "signed"]
    let size := (((given "length").bind Object.int?).getD 1).toNat
    let isSigned := (given "signed").any fun o => o == .bool true
    let low : Int := if isSigned then -(Int.pow 2 (8 * size - 1)) else 0
    let high : Int := if isSigned then Int.pow 2 (8 * size - 1) else Int.pow 2 (8 * size)
    if n < low ∨ high ≤ n then fail "OverflowError" "int too big to convert"
    else
      let code := (n % Int.pow 2 (8 * size)).toNat
      let little := (List.range size).map fun i => UInt8.ofNat (code / Nat.pow 256 i % 256)
      return .bytes (if (given "byteorder").any fun o => o == .text "little" then little
        else little.reverse)

/-- The result of a method of a property; none, if it is not followed. -/
def ofProperty? (name : String) (getter setter deleter doc : Object) (a : Arguments) :
    Option (Run Object) :=
  match name with
  | "getter" => some do return .property (← a.one) setter deleter doc
  | "setter" => some do return .property getter (← a.one) deleter doc
  | "deleter" => some do return .property getter setter (← a.one) doc
  | _ => none

/-- The result of a method for what an object is; none, if it is not followed. -/
def ofContent? (h : Hooks) (w : World) (name : String) (inner : Object) (a : Arguments) :
    Option (Run Object) :=
  match inner with
  | .text s => TextMethod.call? h name s a
  | .bytes content => TextMethod.callBytes? h name content a
  | .tuple items => TupleMethod.call? h name items a
  | .property getter setter deleter doc => ofProperty? name getter setter deleter doc a
  | .entity id =>
    match w.kind? id with
    | some (.list items) => ListMethod.call? h name id items a
    | some (.mapping entries) => MappingMethod.call? h name id entries a
    | some (.set isFrozen items) => SetMethod.call? h name id isFrozen items a
    | _ => none
  | .range first stop step => TupleMethod.call? h name (rangeItems first stop step) a
  | _ => inner.number?.bind fun n => ofNumber? name n a

/-- The names of what methods of mappings give. -/
def views : List (String × String) :=
  [("keys", "dict_keys"), ("values", "dict_values"), ("items", "dict_items")]

def call (h : Hooks) (path : String) (self : Object) (a : Arguments) : Run Object := do
  let (owner, name) := Text.cutLast '.' path
  if path = "dict.fromkeys" then
    let all ← a.take 1 2
    let keys ← (all.headD .null).items h
    newMapping (← putKeys h [] (keys.map fun k => (k, (all[1]?).getD .null)))
  else
    let w ← get
    let ofFile? : Option (Run Object) := match self with
      | .entity id =>
        match w.kind? id with
        | some (.instance_ (.library path) (.entity lines)) =>
          if path = Files.textClass then Files.method? h name id true lines a
          else if path = Files.bytesClass then Files.method? h name id false lines a
          else none
        | _ => none
      | _ => none
    match ofFile? <|> ofContent? h w name (w.content self) a with
    | some run =>
      let o ← run
      match owner, views.lookup name with
      | "dict", some view =>
        let inner ← if name = "values" then pure o else do
          pure (Object.entity (← create (.set false (← o.items h)) []))
        return .entity (← create (.instance_ (.library view) inner) [])
      | _, _ => return o
    | none =>
      match special? h owner name self a with
      | some run => run
      | none => return .unknown

end RouteDocs.Module.Method
