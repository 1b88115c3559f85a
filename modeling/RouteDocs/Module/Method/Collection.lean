import RouteDocs.Module.Method.Arguments
import RouteDocs.Module.Operator

namespace RouteDocs.Module

/-- Two lists in their order merged into one. `n` bounds the number of items. -/
def mergeWith (less : Object × Object → Object × Object → Run Bool) :
    Nat → List (Object × Object) → List (Object × Object) → Run (List (Object × Object))
  | 0, xs, ys => return xs ++ ys
  | _, [], ys => return ys
  | _, xs, [] => return xs
  | n + 1, x :: xs, y :: ys => do
    if ← less y x then return y :: (← mergeWith less n (x :: xs) ys)
    else return x :: (← mergeWith less n xs (y :: ys))

/-- A list in its order; `n` bounds how often it can be halved. -/
def sortWith (less : Object × Object → Object × Object → Run Bool) :
    Nat → List (Object × Object) → Run (List (Object × Object))
  | 0, xs => return xs
  | n + 1, xs => do
    if xs.length ≤ 1 then return xs
    else
      let half := xs.length / 2
      let front ← sortWith less n (xs.take half)
      let back ← sortWith less n (xs.drop half)
      mergeWith less xs.length front back

/-- Items in the order of what a function gives for them. -/
def sorted (h : Hooks) (key : Object) (isReversed : Bool) (items : List Object) :
    Run (List Object) := do
  let keyed ← items.mapM fun o => do
    if key matches .null then return (o, o) else return (← h.call key (.of [o]), o)
  let less (x y : Object × Object) : Run Bool := do (← Object.compare h "<" x.1 y.1).truth h
  let input := if isReversed then keyed.reverse else keyed
  let output ← sortWith less (items.length + 1) input
  return (if isReversed then output.reverse else output).map Prod.snd

def placeIn (h : Hooks) (o : Object) (place : Nat) : List Object → Run (Option Nat)
  | [] => return none
  | item :: items => do
    if ← item.equal h o then return some place else placeIn h o (place + 1) items

def countIn (h : Hooks) (o : Object) : List Object → Run Nat
  | [] => return 0
  | item :: items => do
    let n ← countIn h o items
    return if ← item.equal h o then n + 1 else n

def indexIn (h : Hooks) (items : List Object) (a : Arguments) : Run Object := do
  match ← a.take 1 3 with
  | [o] =>
    match ← placeIn h o 0 items with
    | some i => return .int i
    | none => fail "ValueError" ((← o.shown h) ++ " is not in list")
  | o :: bounds =>
    let span ← Object.spanOf h items.length (bounds.headD .null) ((bounds[1]?).getD .null) .null
    match ← placeIn h o 0 (span.take items) with
    | some i => return .int (span.first + i)
    | none => fail "ValueError" ((← o.shown h) ++ " is not in list")
  | [] => return .null

/-- The result of a method of a tuple; none, if the method is not followed. -/
def TupleMethod.call? (h : Hooks) (name : String) (items : List Object) (a : Arguments) :
    Option (Run Object) :=
  match name with
  | "index" => some (indexIn h items a)
  | "count" => some do return .int (← countIn h (← a.one) items)
  | _ => none

def ListMethod.call? (h : Hooks) (name : String) (id : Nat) (items : List Object)
    (a : Arguments) : Option (Run Object) :=
  let store (items : List Object) : Run Object := do
    modify fun w => w.setKind id (.list items)
    return .null
  match name with
  | "append" => some do store (items ++ [← a.one])
  | "extend" => some do
    let more ← (← a.one).items h
    store (items ++ more)
  | "insert" => some do
    let (place, o) ← a.two
    let i ← place.indexOf h
    let size : Int := items.length
    let at_ := (if i < 0 then max (i + size) 0 else min i size).toNat
    store (items.take at_ ++ o :: items.drop at_)
  | "remove" => some do
    match ← placeIn h (← a.one) 0 items with
    | some i => store (items.eraseIdx i)
    | none => fail "ValueError" "list.remove(x): x not in list"
  | "pop" => some do
    let i ← match ← a.optional with
      | some o => o.indexOf h
      | none => pure (-1)
    if items.isEmpty then fail "IndexError" "pop from empty list"
    else
      match placeOf? items.length i with
      | some place =>
        let _ ← store (items.eraseIdx place)
        return (items[place]?).getD .null
      | none => fail "IndexError" "pop index out of range"
  | "clear" => some do
    a.none
    store []
  | "copy" => some do
    a.none
    newList items
  | "reverse" => some do
    a.none
    store items.reverse
  | "sort" => some do
    if ! a.placed.isEmpty then fail "TypeError" "sort() takes no positional arguments"
    else
      let given ← a.forNames ["key", "reverse"]
      let isReversed ← ((given "reverse").getD (.bool false)).truth h
      store (← sorted h ((given "key").getD .null) isReversed items)
  | _ => TupleMethod.call? h name items a

/-- A pair of an object that has to have two items. -/
def pairOf (h : Hooks) (o : Object) : Run (Object × Object) := do
  match ← o.items h with
  | [k, v] => return (k, v)
  | _ => fail "ValueError" "dictionary update sequence element has the wrong length; 2 is required"

/-- The entries that a mapping, or something with pairs of keys and values, gives. -/
def entriesFrom (h : Hooks) (o : Object) : Run (List (Object × Object)) := do
  let w ← get
  match Operator.entries? w (w.content o) with
  | some entries => return entries
  | none =>
    if o matches .unknown then return []
    else
      match ← o.memberOrNone h "keys" with
      | some keys =>
        let names ← (← h.call keys (.of [])).items h
        names.mapM fun k => do return (k, ← o.index h k)
      | none => (← o.items h).mapM (pairOf h)

def entriesOfArguments (h : Hooks) (a : Arguments) : Run (List (Object × Object)) := do
  let first ← match a.placed with
    | [] => pure []
    | [o] => entriesFrom h o
    | _ => fail "TypeError" "expected at most 1 argument"
  return first ++ a.named.map fun (name, o) => (.text name, o)

def MappingMethod.call? (h : Hooks) (name : String) (id : Nat) (entries : List (Object × Object))
    (a : Arguments) : Option (Run Object) :=
  let store (entries : List (Object × Object)) : Run Object := do
    modify fun w => w.setKind id (.mapping entries)
    return .null
  match name with
  | "get" => some do
    let all ← a.take 1 2
    let key := all.headD .null
    key.checkKey h
    return (← findKey h key entries).getD ((all[1]?).getD .null)
  | "setdefault" => some do
    let all ← a.take 1 2
    let key := all.headD .null
    key.checkKey h
    match ← findKey h key entries with
    | some o => return o
    | none =>
      let o := (all[1]?).getD .null
      let _ ← store (entries ++ [(key, o)])
      return o
  | "pop" => some do
    let all ← a.take 1 2
    let key := all.headD .null
    key.checkKey h
    match ← takeKey h key entries with
    | (some o, rest) =>
      let _ ← store rest
      return o
    | (none, _) =>
      match all[1]? with
      | some o => return o
      | none => Object.failKey key
  | "popitem" => some do
    a.none
    match entries.getLast? with
    | some (k, v) =>
      let _ ← store entries.dropLast
      return .tuple [k, v]
    | none => fail "KeyError" "popitem(): dictionary is empty"
  | "keys" => some do
    a.none
    newList (entries.map Prod.fst)
  | "values" => some do
    a.none
    newList (entries.map Prod.snd)
  | "items" => some do
    a.none
    newList (entries.map fun (k, v) => .tuple [k, v])
  | "update" => some do store (← putKeys h entries (← entriesOfArguments h a))
  | "clear" => some do
    a.none
    store []
  | "copy" => some do
    a.none
    newMapping entries
  | _ => none

def allItems (h : Hooks) : List Object → Run (List Object)
  | [] => return []
  | o :: os => do
    let items ← o.items h
    return items ++ (← allItems h os)

def SetMethod.call? (h : Hooks) (name : String) (id : Nat) (isFrozen : Bool) (items : List Object)
    (a : Arguments) : Option (Run Object) :=
  let store (items : List Object) : Run Object := do
    modify fun w => w.setKind id (.set isFrozen (inSetOrder items))
    return .null
  let isAmong (o : Object) (items : List Object) : Run Bool :=
    Object.isAmong (Object.equal h) o items
  let each (operator : String) : Run (List Object) :=
    a.placed.foldlM (fun done o => do
      return (← Operator.ofSets h operator done (← o.items h)).getD done) items
  match name with
  | "add" => some do
    let o ← a.one
    o.checkKey h
    if ← isAmong o items then return .null else store (items ++ [o])
  | "discard" => some do
    let o ← a.one
    o.checkKey h
    store (← Operator.select h false [o] items)
  | "remove" => some do
    let o ← a.one
    o.checkKey h
    if ← isAmong o items then store (← Operator.select h false [o] items)
    else Object.failKey o
  | "pop" => some do
    a.none
    match items with
    | o :: rest =>
      let _ ← store rest
      return o
    | [] => fail "KeyError" "pop from an empty set"
  | "clear" => some do
    a.none
    store []
  | "copy" => some do
    a.none
    newSet isFrozen items
  | "union" => some do newSet isFrozen (← distinct h items (← allItems h a.placed))
  | "intersection" => some do newSet isFrozen (← each "&")
  | "difference" => some do newSet isFrozen (← each "-")
  | "symmetric_difference" => some do
    let other ← (← a.one).items h
    newSet isFrozen ((← Operator.ofSets h "^" items other).getD [])
  | "update" => some do store (← distinct h items (← allItems h a.placed))
  | "intersection_update" => some do store (← each "&")
  | "difference_update" => some do store (← each "-")
  | "issubset" => some do
    return .bool (← Object.areAmong (Object.equal h) (← (← a.one).items h) items)
  | "issuperset" => some do
    return .bool (← Object.areAmong (Object.equal h) items (← (← a.one).items h))
  | "isdisjoint" => some do
    return .bool ((← Operator.select h true items (← (← a.one).items h)).isEmpty)
  | _ => none

end RouteDocs.Module
