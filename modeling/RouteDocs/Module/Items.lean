import RouteDocs.Module.Comparison

namespace RouteDocs.Module

def maxItems : Nat := 1000000

def rangeItems (first stop step : Int) : List Object :=
  (List.range (rangeLength first stop step)).map fun (i : Nat) => .int (first + i * step)

/-! ### Places -/

/-- The places that a slice means in a sequence: so many, from the first on, with the same distance
between them. -/
structure Span where
  first : Int
  step : Int
  count : Nat
  deriving DecidableEq, Repr

namespace Span

/-- A bound of a slice, brought between the ends of a sequence. -/
def clamp (length : Nat) (low high : Int) (bound : Int) : Int :=
  let i := if bound < 0 then bound + length else bound
  if i < low then low else if high < i then high else i

/-- The places that a slice means in a sequence of a length. -/
def ofBounds (length : Nat) (first last : Option Int) (step : Int) : Span :=
  let (low, high) : Int × Int := if step < 0 then (-1, (length : Int) - 1) else (0, length)
  let start := (first.map (clamp length low high)).getD (if step < 0 then high else low)
  let stop := (last.map (clamp length low high)).getD (if step < 0 then low else high)
  ⟨start, step, rangeLength start stop step⟩

def places (s : Span) : List Nat :=
  (List.range s.count).map fun (i : Nat) => (s.first + i * s.step).toNat

def take {α : Type} (s : Span) (items : List α) : List α :=
  if s.step = 1 then (items.drop s.first.toNat).take s.count
  else
    let all := items.toArray
    s.places.filterMap fun i => all[i]?

def drop {α : Type} (s : Span) (items : List α) : List α :=
  let places := s.places
  (items.zipIdx.filter fun (_, i) => ! places.contains i).map Prod.fst

/-- The items with others in the places of a span that lie next to each other. -/
def replace {α : Type} (s : Span) (items new : List α) : List α :=
  items.take s.first.toNat ++ new ++ items.drop (s.first.toNat + s.count)

/-- The items with others in the places of a span, one in each. -/
def put {α : Type} (s : Span) (items new : List α) : List α :=
  (s.places.zip new).foldl (fun done (i, a) => done.set i a) items

end Span

/-- The place of an index that counts from the end when it is negative. -/
def placeOf? (length : Nat) (i : Int) : Option Nat :=
  let place := if i < 0 then i + length else i
  if 0 ≤ place ∧ place < length then some place.toNat else none

namespace Object

/-- The integer that an object stands for as an index. -/
def index? (h : Hooks) (o : Object) : Run (Option Int) := do
  let w ← get
  match (w.content o).int? with
  | some n => return some n
  | none =>
    match ← o.callSpecial? h "__index__" [] with
    | some value =>
      match value.int? with
      | some n => return some n
      | none => fail "TypeError" "__index__ returned non-int"
    | none => return none

def indexOf (h : Hooks) (o : Object) : Run Int := do
  match ← o.index? h with
  | some n => return n
  | none =>
    let w ← get
    fail "TypeError" ("'" ++ className w o ++ "' object cannot be interpreted as an integer")

def boundOf (h : Hooks) : Object → Run (Option Int)
  | .null => return none
  | o => do
    match ← o.index? h with
    | some n => return some n
    | none =>
      fail "TypeError" "slice indices must be integers or None or have an __index__ method"

def spanOf (h : Hooks) (length : Nat) (first last step : Object) : Run Span := do
  let n := (← step.boundOf h).getD 1
  if n = 0 then fail "ValueError" "slice step cannot be zero"
  else return .ofBounds length (← first.boundOf h) (← last.boundOf h) n

/-! ### One by one -/

/-- Lets a function that gives items one by one come to its end. -/
def finishSteps (id : Nat) (printed : Printed) (raised : Option Object) : Run Unit := do
  modify fun w => { w.setKind id (.iterator []) with printed := w.printed ++ printed }
  match raised with
  | some e => throw e
  | none => return

/-- The items that an object of the library gives, if it gives any. What is asked for its items once
has none left. -/
def plainItems? (h : Hooks) : Object → Run (Option (List Object))
  | .text s => return some (s.toList.map fun c => .text (.ofList [c]))
  | .bytes content => return some (content.map fun b => .int b.toNat)
  | .tuple items => return some items
  | .range first stop step => return some (rangeItems first stop step)
  | .unknown => return some []
  | .alias .. => return some [.unknown]
  | .entity id => do
    match (← get).kind? id with
    | some (.list items) => return some items
    | some (.set _ items) => return some items
    | some (.mapping entries) => return some (entries.map Prod.fst)
    | some (.pending ..) => do
      h.collect id
      rest id
    | some (.iterator _) => rest id
    | some (.steps ..) => rest id
    | _ => return none
  | .library path =>
    return if Library.meaning path = .other && path.toList.contains '.' then some [] else none
  | _ => return none
where
  /-- The items that are left, of which none is left then. -/
  rest (id : Nat) : Run (Option (List Object)) := do
    match (← get).kind? id with
    | some (.iterator items) =>
      modify fun w => w.setKind id (.iterator [])
      return some items
    | some (.steps items final raised) =>
      let printed := items.foldl (fun all step => all ++ step.1) .nothing
      finishSteps id (printed ++ final) raised
      return some (items.map Prod.snd)
    | _ => return none

/-- The result of asking an object for its next item, if it has one. -/
def callNext? (h : Hooks) (o : Object) : Run (Option Object) :=
  tryCatch (o.callSpecial? h "__next__" []) fun e => do
    if (← get).isInstance e (.library "StopIteration") then return none else throw e

/-- The items that an object gives one by one by its method. `n` bounds their number. -/
def drain (h : Hooks) (o : Object) : Nat → List Object → Run (List Object)
  | 0, _ => raise "MemoryError"
  | n + 1, done => do
    match ← o.callNext? h with
    | some item => drain h o n (item :: done)
    | none => return done.reverse

/-- The items that an object gives by its method for keys, which is asked for one number after the
other. -/
def drainKeys (h : Hooks) (o : Object) : Nat → List Object → Run (List Object)
  | 0, _ => raise "MemoryError"
  | n + 1, done => do
    let item ← tryCatch (o.callSpecial? h "__getitem__" [.int done.length]) fun e => do
      let w ← get
      if w.isInstance e (.library "IndexError") || w.isInstance e (.library "StopIteration") then
        return none
      else throw e
    match item with
    | some item => drainKeys h o n (item :: done)
    | none => return done.reverse

/-- The items that an object gives one by one. -/
def items (h : Hooks) (o : Object) : Run (List Object) := do
  let w ← get
  match w.special? o "__iter__" with
  | some .null => notIterable w
  | some _ =>
    match ← o.callSpecial? h "__iter__" [] with
    | none => return []
    | some it =>
      let w ← get
      if (w.special? it "__next__").isSome then drain h it maxItems []
      else
        match ← plainItems? h it with
        | some items => return items
        | none => fail "TypeError" "iter() returned non-iterator"
  | none =>
    match ← plainItems? h (w.content o) with
    | some items => return items
    | none =>
      if (w.special? o "__getitem__").isSome then drainKeys h o maxItems []
      else notIterable w
where
  /-- Raises what there is to raise when an object has no items. -/
  notIterable (w : World) : Run (List Object) :=
    fail "TypeError" ("'" ++ className w o ++ "' object is not iterable")

/-- The next item of something that gives items one by one, if there is one left. -/
def next? (h : Hooks) (o : Object) : Run (Option Object) := do
  let w ← get
  if (w.special? o "__next__").isSome then o.callNext? h
  else
    match w.content o with
    | .entity id =>
      match w.kind? id with
      | some (.pending ..) =>
        h.collect id
        pop id
      | some (.iterator _) => pop id
      | some (.steps ..) => pop id
      | _ => notIterator w
    | .unknown => return some .unknown
    | _ => notIterator w
where
  /-- The first item that is left, which is not left then. -/
  pop (id : Nat) : Run (Option Object) := do
    match (← get).kind? id with
    | some (.iterator (item :: rest)) =>
      modify fun w => w.setKind id (.iterator rest)
      return some item
    | some (.steps ((printed, item) :: rest) final raised) =>
      modify fun w => { w.setKind id (.steps rest final raised) with printed := w.printed ++ printed }
      return some item
    | some (.steps [] final raised) =>
      finishSteps id final raised
      return none
    | _ => return none
  /-- Raises what there is to raise when an object gives no items. -/
  notIterator (w : World) : Run (Option Object) :=
    fail "TypeError" ("'" ++ className w o ++ "' object is not an iterator")

/-- The number of items of an object of the library, if it has one. -/
def plainLength? (w : World) : Object → Option Nat
  | .text s => some s.length
  | .bytes content => some content.length
  | .tuple items => some items.length
  | .range first stop step => some (rangeLength first stop step)
  | .entity id =>
    match w.kind? id with
    | some (.list items) => some items.length
    | some (.set _ items) => some items.length
    | some (.mapping entries) => some entries.length
    | _ => none
  | _ => none

def length (h : Hooks) (o : Object) : Run Object := do
  match ← o.callSpecial? h "__len__" [] with
  | some size =>
    match ← size.index? h with
    | some n =>
      if n < 0 then fail "ValueError" "__len__() should return >= 0" else return .int n
    | none =>
      let w ← get
      if size matches .unknown then return .unknown
      else fail "TypeError" ("'" ++ className w size ++
        "' object cannot be interpreted as an integer")
  | none =>
    let w ← get
    match plainLength? w (w.content o) with
    | some n => return .int n
    | none =>
      if o matches .unknown then return .unknown
      else fail "TypeError" ("object of type '" ++ className w o ++ "' has no len()")

def occursIn (pattern s : List Char) : Bool := (Text.cutAt? pattern s).isSome

def bytesOccurIn (pattern : List UInt8) : List UInt8 → Bool
  | [] => pattern.isEmpty
  | b :: bs => pattern.isPrefixOf (b :: bs) || bytesOccurIn pattern bs

/-- Whether an item is among those of an object of the library. -/
def plainContains (h : Hooks) (o item : Object) : Run Bool := do
  let w ← get
  match w.content o, w.content item with
  | .text s, .text t => return occursIn t.toList s.toList
  | .text _, _ =>
    fail "TypeError" ("'in <string>' requires string as left operand, not " ++ className w item)
  | .bytes s, .bytes t => return bytesOccurIn t s
  | .bytes s, i =>
    match i.int? with
    | some n =>
      if n < 0 ∨ 255 < n then fail "ValueError" "byte must be in range(0, 256)"
      else return s.any fun b => (b.toNat : Int) == n
    | none =>
      fail "TypeError" ("a bytes-like object is required, not '" ++ className w item ++ "'")
  | .range first stop step, i =>
    match i.int? with
    | some n =>
      let inside := if 0 < step then first ≤ n && n < stop else stop < n && n ≤ first
      return inside && (n - first) % step == 0
    | none => isAmong (equal h) item (rangeItems first stop step)
  | .entity id, _ =>
    match w.kind? id with
    | some (.set _ items) =>
      item.checkKey h
      isAmong (equal h) item items
    | some (.mapping entries) =>
      item.checkKey h
      isAmong (equal h) item (entries.map Prod.fst)
    | _ => isAmong (equal h) item (← items h o)
  | .unknown, _ => return false
  | _, _ =>
    let all ← tryCatch (items h o) fun e => do
      if (← get).isInstance e (.library "TypeError") then
        fail "TypeError" ("argument of type '" ++ className w o ++ "' is not iterable")
      else throw e
    isAmong (equal h) item all

def contains (h : Hooks) (o item : Object) : Run Bool := do
  match (← get).special? o "__contains__" with
  | some .null =>
    let w ← get
    fail "TypeError" ("'" ++ className w o ++ "' object is not a container")
  | _ =>
    match ← o.callSpecial? h "__contains__" [item] with
    | some found => found.truth h
    | none => plainContains h o item

/-! ### Under a key -/

/-- The item of a sequence under an index or a slice; `again` makes a sequence of some items. -/
def sequenceItem {α : Type} (h : Hooks) (what : String) (items : List α) (one : α → Object)
    (again : List α → Run Object) (key : Object) : Run Object := do
  match key with
  | .slice first last step => again ((← spanOf h items.length first last step).take items)
  | .unknown => return .unknown
  | _ =>
    match ← key.index? h with
    | some i =>
      match (placeOf? items.length i).bind fun place => items[place]? with
      | some item => return one item
      | none => fail "IndexError" (what ++ " index out of range")
    | none =>
      let w ← get
      fail "TypeError" (what ++ " indices must be integers or slices, not " ++ className w key)

/-- Raises what there is to raise when there is no entry under a key. -/
def failKey {α : Type} (key : Object) : Run α := do throw (← newException "KeyError" [key] [])

/-- The classes of the library that take other classes between brackets. -/
def isGeneric (path : String) : Bool :=
  path = "type" || (Library.ownMember? path "__class_getitem__").isSome

def plainIndex (h : Hooks) (o key : Object) : Run Object := do
  let w ← get
  if w.classOf o = .library "dict_values" then unusable w
  else
  match w.content o with
  | .text s =>
    sequenceItem h "string" s.toList (fun c => .text (.ofList [c]))
      (fun cs => return .text (.ofList cs)) key
  | .bytes content =>
    sequenceItem h "index" content (fun b => .int b.toNat) (fun bs => return .bytes bs) key
  | .tuple items => sequenceItem h "tuple" items (fun item => item) (fun is => return .tuple is) key
  | .range first stop step =>
    match key with
    | .slice f l s =>
      let span ← spanOf h (rangeLength first stop step) f l s
      let start := first + span.first * step
      let width := step * span.step
      return .range start (start + width * span.count) width
    | _ =>
      sequenceItem h "range object" (List.range (rangeLength first stop step))
        (fun i => .int (first + i * step)) (fun _ => return .unknown) key
  | .entity id =>
    match w.kind? id with
    | some (.list items) => sequenceItem h "list" items (fun item => item) newList key
    | some (.mapping entries) =>
      key.checkKey h
      match ← findKey h key entries with
      | some value => return value
      | none =>
        match ← o.callSpecial? h "__missing__" [key] with
        | some value => return value
        | none => failKey key
    | some (.class_ c) =>
      match w.find? (.own id) "__class_getitem__" with
      | some (.own f) =>
        h.call (← ofClassMethod h o (match f with | .classMethod g => g | g => g)) (.of [key])
      | some (.library ..) => return .alias o key
      | some .unknown => return .unknown
      | none => fail "TypeError" ("type '" ++ c.name ++ "' is not subscriptable")
    | _ => unusable w
  | .library path =>
    match Library.meaning path with
    | .class_ =>
      if isGeneric path then return .alias o key
      else if (Library.class? path).isSome && ! path.toList.contains '.' then
        fail "TypeError" ("type '" ++ path ++ "' is not subscriptable")
      else return .unknown
    | .other => return .unknown
    | .callable => if path.toList.contains '.' then return .unknown else unusable w
    | .module => unusable w
  | .unknown => return .unknown
  | .alias origin arguments =>
    if isComplete w arguments then
      fail "TypeError" (className w o ++ " is not a generic class")
    else return .alias origin key
  | _ => unusable w
where
  /-- Whether the arguments of a class between brackets are classes, so that it takes no more. -/
  isComplete (w : World) : Object → Bool
    | .tuple items => items.all fun o => (w.classRef? o).isSome
    | o => (w.classRef? o).isSome
  /-- Raises what there is to raise when an object has nothing under keys. -/
  unusable (w : World) : Run Object :=
    fail "TypeError" ("'" ++ className w o ++ "' object is not subscriptable")

/-- What an object has under a key. -/
def index (h : Hooks) (o key : Object) : Run Object := do
  match ← o.callSpecial? h "__getitem__" [key] with
  | some value => return value
  | none => plainIndex h o key

/-- The entity and the items of a list, if the object is one. -/
def list? (w : World) : Object → Option (Nat × List Object)
  | .entity id =>
    match w.kind? id with
    | some (.list items) => some (id, items)
    | _ => none
  | _ => none

def setPlainItem (h : Hooks) (o key value : Object) : Run Unit := do
  let w ← get
  match w.content o with
  | .entity id =>
    match w.kind? id with
    | some (.list items) =>
      match key with
      | .slice first last step =>
        let span ← spanOf h items.length first last step
        let new ← tryCatch (value.items h) fun e => do
          if (← get).isInstance e (.library "TypeError") then
            fail "TypeError" "can only assign an iterable"
          else throw e
        if span.step = 1 then modify fun w => w.setKind id (.list (span.replace items new))
        else if new.length = span.count then
          modify fun w => w.setKind id (.list (span.put items new))
        else fail "ValueError" "attempt to assign sequence to extended slice of another size"
      | .unknown => return
      | _ =>
        match ← key.index? h with
        | some i =>
          match placeOf? items.length i with
          | some place => modify fun w => w.setKind id (.list (items.set place value))
          | none => fail "IndexError" "list assignment index out of range"
        | none =>
          let w ← get
          fail "TypeError" ("list indices must be integers or slices, not " ++ className w key)
    | some (.mapping entries) =>
      key.checkKey h
      let entries ← putKey h key value entries
      modify fun w => w.setKind id (.mapping entries)
    | _ => unusable w
  | .unknown => return
  | .library path => if path.toList.contains '.' then return else unusable w
  | _ => unusable w
where
  /-- Raises what there is to raise when nothing can be set under a key. -/
  unusable (w : World) : Run Unit :=
    fail "TypeError" ("'" ++ className w o ++ "' object does not support item assignment")

/-- Sets what an object has under a key. -/
def setItem (h : Hooks) (o key value : Object) : Run Unit := do
  match ← o.callSpecial? h "__setitem__" [key, value] with
  | some _ => return
  | none => setPlainItem h o key value

def deleteItem (h : Hooks) (o key : Object) : Run Unit := do
  match ← o.callSpecial? h "__delitem__" [key] with
  | some _ => return
  | none =>
    let w ← get
    match w.content o with
    | .entity id =>
      match w.kind? id with
      | some (.list items) =>
        match key with
        | .slice first last step =>
          let span ← spanOf h items.length first last step
          modify fun w => w.setKind id (.list (span.drop items))
        | .unknown => return
        | _ =>
          match ← key.index? h with
          | some i =>
            match placeOf? items.length i with
            | some place => modify fun w => w.setKind id (.list (items.eraseIdx place))
            | none => fail "IndexError" "list assignment index out of range"
          | none => raise "TypeError"
      | some (.mapping entries) =>
        key.checkKey h
        match ← takeKey h key entries with
        | (some _, rest) => modify fun w => w.setKind id (.mapping rest)
        | (none, _) => failKey key
      | _ => unusable w
    | .unknown => return
    | .library path => if path.toList.contains '.' then return else unusable w
    | _ => unusable w
where
  /-- Raises what there is to raise when nothing can be taken away. -/
  unusable (w : World) : Run Unit :=
    fail "TypeError" ("'" ++ className w o ++ "' object doesn't support item deletion")

end Object
end RouteDocs.Module
