import RouteDocs.Module.Member
import RouteDocs.Module.Number
import RouteDocs.Text.Half

namespace RouteDocs.Module

/-- How deep collections can lie in one another. -/
def maxDepth : Nat := 1000

def Object.number? : Object → Option Number
  | .bool b => some (.int (if b then 1 else 0))
  | .int n => some (.int n)
  | .float x => some (.float x)
  | .complex re im => some (.complex re im)
  | _ => none

def Object.int? : Object → Option Int
  | .bool b => some (if b then 1 else 0)
  | .int n => some n
  | _ => none

def Number.object : Number → Object
  | .int n => .int n
  | .float x => .float x
  | .complex re im => .complex re im

def rangeLength (first stop step : Int) : Nat :=
  if 0 < step then ((stop - first + step - 1).fdiv step).toNat
  else if step < 0 then ((first - stop - step - 1).fdiv (-step)).toNat
  else 0

def World.itemsOf? (w : World) : Object → Option (List Object)
  | .tuple items => some items
  | .entity id =>
    match w.kind? id with
    | some (.list items) => some items
    | some (.set _ items) => some items
    | _ => none
  | _ => none

namespace Object

def plainTruth (w : World) : Object → Bool
  | .null => false
  | .bool b => b
  | .text s => ! s.isEmpty
  | .bytes content => ! content.isEmpty
  | .tuple items => ! items.isEmpty
  | .range first stop step => rangeLength first stop step != 0
  | .entity id =>
    match w.kind? id with
    | some (.list items) => ! items.isEmpty
    | some (.set _ items) => ! items.isEmpty
    | some (.mapping entries) => ! entries.isEmpty
    | _ => true
  | o =>
    match o.number? with
    | some n => ! n.isZero
    | none => true

/-- Whether a condition with an object holds. -/
def truth (h : Hooks) (o : Object) : Run Bool := do
  match ← o.callSpecial? h "__bool__" [] with
  | some (.bool b) => return b
  | some .unknown => return true
  | some _ => fail "TypeError" "__bool__ should return bool"
  | none =>
    match ← o.callSpecial? h "__len__" [] with
    | some size =>
      match size.int? with
      | some n => if n < 0 then fail "ValueError" "__len__() should return >= 0" else return n != 0
      | none => raise "TypeError"
    | none =>
      let w ← get
      return plainTruth w (w.content o)

/-- Whether two objects are one. Two values that are no entities are one if they look the same. -/
def same (a b : Object) : Bool := a == b

/-- The method that a comparison calls, and the one that it calls on the other operand. -/
def comparisonMethods (operator : String) : String × String :=
  match operator with
  | "==" => ("__eq__", "__eq__")
  | "!=" => ("__ne__", "__ne__")
  | "<" => ("__lt__", "__gt__")
  | "<=" => ("__le__", "__ge__")
  | ">" => ("__gt__", "__lt__")
  | _ => ("__ge__", "__le__")

/-- Whether an order is what a comparison asks for. -/
def meets (operator : String) (o : Ordering) : Bool :=
  match operator with
  | "==" => o == .eq
  | "!=" => o != .eq
  | "<" => o == .lt
  | "<=" => o != .gt
  | ">" => o == .gt
  | _ => o != .lt

def firstDifference (equal : Object → Object → Run Bool) :
    List Object → List Object → Run (Option (Object × Object))
  | a :: as, b :: bs => do
    if ← equal a b then firstDifference equal as bs else return some (a, b)
  | _, _ => return none

def isAmong (equal : Object → Object → Run Bool) (o : Object) : List Object → Run Bool
  | [] => return false
  | item :: items => do if ← equal item o then return true else isAmong equal o items

def areAmong (equal : Object → Object → Run Bool) (others : List Object) :
    List Object → Run Bool
  | [] => return true
  | item :: items => do
    if ← isAmong equal item others then areAmong equal others items else return false

/-- Whether each entry of a mapping has an equal one in another. -/
def haveEntries (equal : Object → Object → Run Bool) (others : List (Object × Object)) :
    List (Object × Object) → Run Bool
  | [] => return true
  | (k, v) :: rest => do
    match ← found k others with
    | some v' => if ← equal v v' then haveEntries equal others rest else return false
    | none => return false
where
  /-- The value under a key. -/
  found (key : Object) : List (Object × Object) → Run (Option Object)
    | [] => return none
    | (k, v) :: rest => do if ← equal k key then return some v else found key rest

/-- The comparison of sets by what they hold. -/
def compareSets (equal : Object → Object → Run Bool) (operator : String) (a b : List Object) :
    Run Bool := do
  let below ← areAmong equal b a
  let above ← areAmong equal a b
  match operator with
  | "==" => return below && above
  | "!=" => return ! (below && above)
  | "<" => return below && ! above
  | "<=" => return below
  | ">" => return above && ! below
  | _ => return above

/-- The codes of a text, by which it is compared. -/
def codes (s : String) : List Nat := s.toList.map Text.codeOf

/-- The comparison of objects of the library, where `again` compares what they hold; none, if they
have no order. -/
def comparePlain (again : String → Object → Object → Run Bool) (operator : String) (a b : Object) :
    Run (Option Bool) := do
  let w ← get
  let isEquality := operator = "==" || operator = "!="
  let equal (x y : Object) : Run Bool := do if same x y then return true else again "==" x y
  let byIdentity : Option Bool := if isEquality then some ((operator = "==") == same a b) else none
  let lists (xs ys : List Object) : Run (Option Bool) := do
    if isEquality && xs.length ≠ ys.length then return some (operator = "!=")
    else
      match ← firstDifference equal xs ys with
      | none => return some (meets operator (Ord.compare xs.length ys.length))
      | some (x, y) =>
        if isEquality then return some (operator = "!=") else return some (← again operator x y)
  match a, b with
  | .text s, .text t => return some (meets operator (Ord.compare (codes s) (codes t)))
  | .bytes s, .bytes t =>
    return some (meets operator (Ord.compare (s.map UInt8.toNat) (t.map UInt8.toNat)))
  | .tuple xs, .tuple ys => lists xs ys
  | .slice f l s, .slice f' l' s' => lists [f, l, s] [f', l', s']
  | .range f t s, .range f' t' s' =>
    let n := rangeLength f t s
    let isSame := n == rangeLength f' t' s' && (n == 0 || f == f' && (n == 1 || s == s'))
    return if isEquality then some ((operator = "==") == isSame) else none
  | .entity i, .entity j =>
    match w.kind? i, w.kind? j with
    | some (.list xs), some (.list ys) => lists xs ys
    | some (.set _ xs), some (.set _ ys) => return some (← compareSets equal operator xs ys)
    | some (.mapping xs), some (.mapping ys) =>
      if ! isEquality then return none
      else
        let isSame ← if xs.length = ys.length then haveEntries equal ys xs else pure false
        return some ((operator = "==") == isSame)
    | _, _ => return byIdentity
  | _, _ =>
    match a.number?, b.number? with
    | some m, some n =>
      if isEquality then return some ((operator = "==") == m.equal n)
      else
        match m, n with
        | .complex .., _ => return none
        | _, .complex .. => return none
        | _, _ => return some ((m.compare n).any (meets operator))
    | _, _ => return byIdentity

/-- Whether an object is the value that says that an operator has no result. -/
def isNotImplemented : Object → Bool
  | .notImplemented => true
  | _ => false

/-- The result of a comparison by a method of an object's class. -/
def compareBy (h : Hooks) (name : String) (a b : Object) : Run (Option Object) := do
  match ← a.callSpecial? h name [b] with
  | some o => return if o.isNotImplemented then none else some o
  | none =>
    if name = "__ne__" then
      match ← a.callSpecial? h "__eq__" [b] with
      | some o => if o.isNotImplemented then return none else return some (.bool (! (← o.truth h)))
      | none => return none
    else return none

/-- The result of a comparison in which no more than `n` collections lie in one another. -/
def compareWithin (h : Hooks) : Nat → String → Object → Object → Run Object
  | 0, _, _, _ => fail "RecursionError" "maximum recursion depth exceeded in comparison"
  | n + 1, operator, a, b => do
    if a matches .unknown || b matches .unknown then return .unknown
    else
      let w ← get
      let (name, other) := comparisonMethods operator
      let swapFirst := w.classOf a != w.classOf b && w.isBelow (w.classOf b) (w.classOf a) &&
        (w.special? b other).isSome
      let first ← if swapFirst then compareBy h other b a else pure none
      let second ← if first.isSome then pure first else compareBy h name a b
      let third ←
        if second.isSome || swapFirst then pure second else compareBy h other b a
      match third with
      | some o => return o
      | none =>
        let again (operator : String) (x y : Object) : Run Bool := do
          (← compareWithin h n operator x y).truth h
        match ← comparePlain again operator (w.content a) (w.content b) with
        | some r => return .bool r
        | none =>
          fail "TypeError" ("'" ++ operator ++ "' not supported between instances of '" ++
            className w a ++ "' and '" ++ className w b ++ "'")

def compare (h : Hooks) (operator : String) (a b : Object) : Run Object :=
  compareWithin h maxDepth operator a b

/-- Whether two objects are one or equal. -/
def equal (h : Hooks) (a b : Object) : Run Bool := do
  if same a b then return true else (← compare h "==" a b).truth h

def checkKey (h : Hooks) : Object → Run Unit
  | .tuple items => checkAll items
  | .unknown => return
  | o => do
    let w ← get
    match w.find? (w.classOf o) "__hash__" with
    | some (.own .null) => unusable w o
    | some (.own f) =>
      let value ← h.call (.bound f o) (.of [])
      if value.int?.isSome || value matches .unknown then return
      else fail "TypeError" "__hash__ method should return an integer"
    | some (.library _ .value) => unusable w o
    | _ => return
where
  /-- Checks that several objects can be keys. -/
  checkAll : List Object → Run Unit
    | [] => return
    | o :: os => do
      checkKey h o
      checkAll os
  /-- Raises what there is to raise when an object cannot be a key. -/
  unusable (w : World) (o : Object) : Run Unit :=
    fail "TypeError" ("unhashable type: '" ++ className w o ++ "'")

end Object

/-- The entry of a mapping under a key. -/
def findKey (h : Hooks) (key : Object) : List (Object × Object) → Run (Option Object)
  | [] => return none
  | (k, v) :: rest => do if ← k.equal h key then return some v else findKey h key rest

/-- Entries with a value under a key: in place, if the key is there. -/
def putKey (h : Hooks) (key value : Object) :
    List (Object × Object) → Run (List (Object × Object))
  | [] => return [(key, value)]
  | (k, v) :: rest => do
    if ← k.equal h key then return (k, value) :: rest
    else return (k, v) :: (← putKey h key value rest)

/-- Entries without the one under a key, and its value. -/
def takeKey (h : Hooks) (key : Object) :
    List (Object × Object) → Run (Option Object × List (Object × Object))
  | [] => return (none, [])
  | (k, v) :: rest => do
    if ← k.equal h key then return (some v, rest)
    else
      let (found, rest) ← takeKey h key rest
      return (found, (k, v) :: rest)

def putKeys (h : Hooks) (entries : List (Object × Object)) :
    List (Object × Object) → Run (List (Object × Object))
  | [] => return entries
  | (k, v) :: rest => do
    k.checkKey h
    putKeys h (← putKey h k v entries) rest

def distinct (h : Hooks) (done : List Object) : List Object → Run (List Object)
  | [] => return done
  | o :: os => do
    o.checkKey h
    distinct h (if ← Object.isAmong (Object.equal h) o done then done else done ++ [o]) os

end RouteDocs.Module
