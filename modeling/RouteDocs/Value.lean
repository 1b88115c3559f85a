import RouteDocs.Decimal.Binary64
import RouteDocs.Value.Timestamp

namespace RouteDocs

/-- A value of a document. A mapping keeps its entries in order. A list or mapping that contains
itself is `marked`, and `again` stands in it where it comes again. -/
inductive Value where
  | null
  | bool (b : Bool)
  | int (n : Int)
  | float (x : Binary64)
  | text (s : String)
  | bytes (content : List UInt8)
  | date (d : Date)
  | moment (m : Moment)
  | list (items : List Value)
  | pair (first second : Value)
  | mapping (entries : List (Value × Value))
  | set (members : List Value)
  | marked (mark : Nat) (content : Value)
  | again (mark : Nat) (isMapping : Bool)
  deriving Inhabited

namespace Value

/-- Whether the value is null, false, a zero, or a text or collection without content. -/
def isEmpty : Value → Bool
  | null => true
  | bool b => ! b
  | int n => n == 0
  | float x => x.isZero
  | text s => s.isEmpty
  | bytes content => content.isEmpty
  | list items => items.isEmpty
  | mapping entries => entries.isEmpty
  | set members => members.isEmpty
  | _ => false

/-- The number that a truth value or an integer stands for as a key. -/
def asInt? : Value → Option Int
  | bool b => some (if b then 1 else 0)
  | int n => some n
  | float x => x.toInt?
  | _ => none

/-- Whether two keys of a mapping are the same: numbers and truth values are compared by what they
amount to. -/
def sameKey (a b : Value) : Bool :=
  match a.asInt?, b.asInt? with
  | some m, some n => m == n
  | some _, none => false
  | none, some _ => false
  | none, none =>
    match a, b with
    | null, null => true
    | float x, float y => x == y
    | text s, text t => s == t
    | bytes s, bytes t => s == t
    | date d, date e => d == e
    | moment m, moment n => m.same n
    | _, _ => false

mutual

/-- The value with `again` in place of each collection in it whose mark is among `marks`. -/
def cut (marks : List Nat) : Value → Value
  | marked mark content =>
    if marks.contains mark then again mark (content matches mapping _) else marked mark (cut marks content)
  | list items => list (cutAll marks items)
  | pair first second => pair (cut marks first) (cut marks second)
  | mapping entries => mapping (cutEntries marks entries)
  | v => v

def cutAll (marks : List Nat) : List Value → List Value
  | [] => []
  | v :: vs => cut marks v :: cutAll marks vs

def cutEntries (marks : List Nat) : List (Value × Value) → List (Value × Value)
  | [] => []
  | (k, v) :: rest => (cut marks k, cut marks v) :: cutEntries marks rest

end

mutual

/-- The value with the collection `whole` where its mark comes again. `around` are the marks of the
collections around, which come again in what is put there. -/
def complete (mark : Nat) (whole : Value) (around : List Nat) : Value → Value
  | again m isMapping =>
    if m = mark then marked mark (cut (mark :: around) whole) else again m isMapping
  | marked m content => marked m (complete mark whole (m :: around) content)
  | list items => list (completeAll mark whole around items)
  | pair first second => pair (complete mark whole around first) (complete mark whole around second)
  | mapping entries => mapping (completeEntries mark whole around entries)
  | v => v

def completeAll (mark : Nat) (whole : Value) (around : List Nat) : List Value → List Value
  | [] => []
  | v :: vs => complete mark whole around v :: completeAll mark whole around vs

def completeEntries (mark : Nat) (whole : Value) (around : List Nat) :
    List (Value × Value) → List (Value × Value)
  | [] => []
  | (k, v) :: rest =>
    (complete mark whole around k, complete mark whole around v) ::
      completeEntries mark whole around rest

end

/-- A value whose items can be taken out: what an item contains of the collection is put into the
item. -/
def opened : Value → Value
  | marked mark (list items) => list (completeAll mark (list items) [] items)
  | marked mark (mapping entries) => mapping (completeEntries mark (mapping entries) [] entries)
  | v => v

/-- Entries with `value` written at `key`: in place if the key is present, otherwise at the end. -/
def put (key value : Value) : List (Value × Value) → List (Value × Value)
  | [] => [(key, value)]
  | (k, v) :: rest => if sameKey k key then (k, value) :: rest else (k, v) :: put key value rest

def get? (key : String) (entries : List (Value × Value)) : Option Value :=
  (entries.find? fun (k, _) => sameKey k (.text key)).map Prod.snd

end Value
end RouteDocs
