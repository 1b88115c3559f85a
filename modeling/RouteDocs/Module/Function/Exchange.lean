import RouteDocs.Json.Reader
import RouteDocs.Module.Method.Collection
import RouteDocs.Text.Numeral

namespace RouteDocs.Module.Exchange

/-- The number that a spelling stands for: an integer, unless it has a fraction or an exponent. -/
def ofSpelling (spelling : String) : Object :=
  match Numeral.integer? 10 spelling with
  | some n => .int n
  | none => ((Numeral.real? spelling).map .float).getD .unknown

mutual

def ofJson : Json → Run Object
  | .null => return .null
  | .bool b => return .bool b
  | .number spelling => return ofSpelling spelling
  | .text s => return .text s
  | .array items => do newList (← ofItems items)
  | .object members => do
    newMapping (World.entriesOf (.ofList (← ofMembers members)))

def ofItems : List Json → Run (List Object)
  | [] => return []
  | item :: items => do
    let o ← ofJson item
    return o :: (← ofItems items)

def ofMembers : List (String × Json) → Run (List (String × Object))
  | [] => return []
  | (name, value) :: members => do
    let o ← ofJson value
    return (name, o) :: (← ofMembers members)

end

/-- The text that stands for a JSON value, which bytes can be as well. -/
def sourceText (o : Object) : Run (Option String) := do
  let w ← get
  match w.content o with
  | .text s => return some s
  | .bytes content =>
    match String.fromUTF8? ⟨content.toArray⟩ with
    | some s => return some s
    | none => raise "UnicodeDecodeError"
  | .unknown => return none
  | _ =>
    fail "TypeError" ("the JSON object must be str, bytes or bytearray, not " ++
      Object.className w o)

/-- The object that a JSON text stands for. -/
def read (h : Hooks) (a : Arguments) : Run Object := do
  match a.placed with
  | [o] =>
    match ← sourceText o with
    | none => return .unknown
    | some s =>
      match Json.read? s with
      | some j => if a.named.isEmpty then ofJson j else return .unknown
      | none =>
        throw (← h.call (.library "json.decoder.JSONDecodeError")
          (.of [.text "Expecting value", .text s, .int 0]))
  | _ => raise "TypeError"

/-- How a JSON text is laid out: what stands before the items of a collection for each level, if each
has a line of its own, what stands between two items and between a key and its value; and whether
only ASCII is used, keys are sorted, wrong keys are left out, and numbers that JSON does not have are
written. -/
structure Style where
  step : Option String
  betweenItems : String
  afterKey : String
  isAscii : Bool
  isSorted : Bool
  skipsKeys : Bool
  allowsAll : Bool
  default : Object

def escaped (isAscii : Bool) (c : Char) : List Char :=
  let unit (n : Nat) : List Char := '\\' :: 'u' :: Text.hexDigits n 4
  if c.toNat < 0x7F then Json.escapeChar c
  else if ! isAscii then [c]
  else
    match Text.half? c with
    | some code => unit code
    | none =>
      let n := c.toNat
      if n < 0x10000 then unit n
      else
        unit (0xD800 + (n - 0x10000) / 0x400) ++ unit (0xDC00 + (n - 0x10000) % 0x400)

def quoted (style : Style) (s : String) : String :=
  .ofList ('"' :: (s.toList.flatMap (escaped style.isAscii) ++ ['"']))

def realText (style : Style) (x : Binary64) : Run String := do
  match x with
  | .finite .. => return (Number.float x).text
  | _ =>
    if ! style.allowsAll then fail "ValueError" "Out of range float values are not JSON compliant"
    else
      return match x with
        | .nan => "NaN"
        | _ => if x.isNegative then "-Infinity" else "Infinity"

/-- The text of a key; none, if the entry is left out. -/
def keyText (style : Style) (o : Object) : Run (Option String) := do
  let w ← get
  match w.content o with
  | .text s => return some s
  | .bool b => return some (if b then "true" else "false")
  | .null => return some "null"
  | .int n => return some (← Object.integerText n)
  | .float x => return some (← realText style x)
  | _ =>
    if style.skipsKeys then return none
    else fail "TypeError" ("keys must be str, int, float, bool or None, not " ++
      Object.className w o)

/-- Parts of a collection between brackets, at a level of the layout. -/
def enclosed (style : Style) (level : Nat) (first last : String) (parts : List String) : String :=
  if parts.isEmpty then first ++ last
  else
    match style.step with
    | none => first ++ style.betweenItems.intercalate parts ++ last
    | some step =>
      let line (n : Nat) : String := "\n" ++ String.join (List.replicate n step)
      first ++ line (level + 1) ++
        (style.betweenItems ++ line (level + 1)).intercalate parts ++ line level ++ last

/-- The JSON text of an object. `inner` is that of what lies in it, at a level. -/
def writtenPlainly (h : Hooks) (style : Style) (inner : Nat → Object → Run String) (level : Nat)
    (o : Object) : Run String := do
  let w ← get
  match w.content o with
  | .null => return "null"
  | .bool b => return if b then "true" else "false"
  | .int n => Object.integerText n
  | .float x => realText style x
  | .text s => return quoted style s
  | .tuple items => ofItems items
  | content =>
    match Object.list? w content, Operator.entries? w content with
    | some (_, items), _ => ofItems items
    | _, some entries =>
      let sortedEntries ← if style.isSorted then do
          let keys ← sorted h .null false (entries.map Prod.fst)
          keys.filterMapM fun key => do
            return (entries.find? fun (k, _) => k == key)
        else pure entries
      let parts ← sortedEntries.filterMapM fun (key, value) => do
        match ← keyText style key with
        | none => return none
        | some key =>
          return some (quoted style key ++ style.afterKey ++ (← inner (level + 1) value))
      return enclosed style level "\x7b" "\x7d" parts
    | none, none =>
      if style.default matches .null then
        fail "TypeError" ("Object of type " ++ Object.className w o ++
          " is not JSON serializable")
      else inner level (← h.call style.default (.of [o]))
where
  /-- The text of items in their order. -/
  ofItems (items : List Object) : Run String := do
    return enclosed style level "[" "]" (← items.mapM (inner (level + 1)))

/-- The JSON text of an object in which no more than `n` collections lie in one another. -/
def written (h : Hooks) (style : Style) : Nat → Nat → Object → Run String
  | 0, _, _ => fail "ValueError" "Circular reference detected"
  | n + 1, level, o => writtenPlainly h style (written h style n) level o

/-- The layout that arguments with names ask for. -/
def styleOf (h : Hooks) (named : List (String × Object)) : Run Style := do
  let w ← get
  let flag (name : String) (default : Bool) : Run Bool :=
    match named.lookup name with
    | some o => o.truth h
    | none => return default
  let step : Option String := match (named.lookup "indent").map w.content with
    | some (.text s) => some s
    | some (.int n) => some (.ofList (List.replicate n.toNat ' '))
    | some (.bool b) => some (if b then " " else "")
    | _ => none
  let (between, after) ← match named.lookup "separators" with
    | none => pure (if step.isSome then "," else ", ", ": ")
    | some .null => pure (if step.isSome then "," else ", ", ": ")
    | some o =>
      match ← (← o.items h).mapM expectString with
      | [between, after] => pure (between, after)
      | _ => fail "ValueError" "not enough values to unpack"
  return {
    step, betweenItems := between, afterKey := after
    isAscii := ← flag "ensure_ascii" true
    isSorted := ← flag "sort_keys" false
    skipsKeys := ← flag "skipkeys" false
    allowsAll := ← flag "allow_nan" true
    default := (named.lookup "default").getD .null }

def styleNames : List String := [
  "skipkeys", "ensure_ascii", "check_circular", "allow_nan", "cls", "indent", "separators",
  "default", "sort_keys"]

/-- The JSON text of the only argument in its place. -/
def write (h : Hooks) (a : Arguments) : Run Object := do
  match a.placed with
  | [o] =>
    if a.named.any fun (name, _) => ! styleNames.contains name then raise "TypeError"
    else if (a.named.lookup "cls").any fun c => ! (c matches .null) then return .unknown
    else if o matches .unknown then return .unknown
    else return .text (← written h (← styleOf h a.named) maxDepth 0 o)
  | _ => raise "TypeError"

end RouteDocs.Module.Exchange
