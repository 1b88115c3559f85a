import RouteDocs.Module.Format
import RouteDocs.Module.Items
import RouteDocs.Module.Shown

namespace RouteDocs.Module

/-- Raises what keeps an operation from having a result. -/
def orFail {α : Type} : Except Mishap α → Run α
  | .ok a => return a
  | .error m => if m.message.isEmpty then raise m.className else fail m.className m.message

namespace Template

/-- A text with only characters of ASCII, the others escaped. -/
def asciiOnly (s : String) : String :=
  .ofList (s.toList.flatMap fun c =>
    let n := Text.codeOf c
    if n < 0x80 then [c]
    else if n < 0x100 then '\\' :: 'x' :: Text.hexDigits n 2
    else if n < 0x10000 then '\\' :: 'u' :: Text.hexDigits n 4
    else '\\' :: 'U' :: Text.hexDigits n 8)

/-- What a conversion makes of an object: `s`, `r` or `a`, or nothing. -/
def converted (h : Hooks) (conversion : Option Char) (o : Object) : Run Object := do
  match conversion with
  | some 's' => return .text (← o.plain h)
  | some 'r' => return .text (← o.shown h)
  | some 'a' => return .text (asciiOnly (← o.shown h))
  | _ => return o

def formatted (h : Hooks) (o : Object) (format : String) : Run String := do
  match ← o.callSpecial? h "__format__" [.text format] with
  | some s => Object.expectText "__format__" s
  | none =>
    let w ← get
    let name := Object.className w o
    match w.content o with
    | .unknown => return ""
    | .text s =>
      if format.isEmpty then o.plain h
      else orFail (do (← Format.parse false name format).ofText s)
    | inner =>
      if format.isEmpty then o.plain h
      else
        match inner.number? with
        | some (.int n) => orFail (do (← Format.parse true name format).ofInteger n name)
        | some (.float x) => orFail (do (← Format.parse true name format).ofReal x name)
        | some (.complex re im) => return (Number.complex re im).text
        | none =>
          fail "TypeError" ("unsupported format string passed to " ++ name ++ ".__format__")

/-! ### Places that start with `%` -/

/-- A place in a text: the key of its object, its flags, width and precision, where `none` inside
stands for a star, and its letter. -/
structure Slot where
  key : Option String
  flags : List Char
  width : Option (Option Nat)
  precision : Option (Option Nat)
  letter : Char

/-- The key between parentheses at the start of a place. `depth` is the number of parentheses that
are open in it. -/
def slotKey? : Nat → List Char → Option (List Char × List Char)
  | _, [] => none
  | depth, ')' :: cs =>
    if depth = 0 then some ([], cs)
    else (slotKey? (depth - 1) cs).map fun (key, rest) => (')' :: key, rest)
  | depth, '(' :: cs => (slotKey? (depth + 1) cs).map fun (key, rest) => ('(' :: key, rest)
  | depth, c :: cs => (slotKey? depth cs).map fun (key, rest) => (c :: key, rest)

def slotNumber : List Char → Option (Option Nat) × List Char
  | '*' :: cs => (some none, cs)
  | cs =>
    match Format.number cs with
    | (some n, rest) => (some (some n), rest)
    | (none, rest) => (none, rest)

/-- The place after a `%`, and what follows it. -/
def slot (cs : List Char) : Except Mishap (Slot × List Char) := do
  let incomplete : Mishap := ⟨"ValueError", "incomplete format"⟩
  let (key, cs) ← match cs with
    | '(' :: rest =>
      match slotKey? 0 rest with
      | some (key, rest) => Except.ok (some (String.ofList key), rest)
      | none => Except.error ⟨"ValueError", "incomplete format key"⟩
    | _ => Except.ok ((none : Option String), cs)
  let flags := cs.takeWhile fun c => "-+ #0".toList.contains c
  let (width, cs) := slotNumber (cs.drop flags.length)
  let (precision, cs) : Option (Option Nat) × List Char := match cs with
    | '.' :: rest =>
      match slotNumber rest with
      | (none, rest) => (some (some 0), rest)
      | found => found
    | _ => (none, cs)
  let cs := match cs with
    | c :: rest => if c = 'h' ∨ c = 'l' ∨ c = 'L' then rest else cs
    | [] => []
  match cs with
  | c :: rest => return (⟨key, flags, width, precision, c⟩, rest)
  | [] => throw incomplete

def inField (flags : List Char) (width : Nat) (lead body : String) (zeros : Bool) : String :=
  let missing := min (width - (lead.length + body.length)) Format.mostFill
  if flags.contains '-' then lead ++ body ++ .ofList (List.replicate missing ' ')
  else if zeros && flags.contains '0' then lead ++ .ofList (List.replicate missing '0') ++ body
  else .ofList (List.replicate missing ' ') ++ lead ++ body

def signText (flags : List Char) (negative : Bool) : String :=
  if negative then "-" else if flags.contains '+' then "+" else if flags.contains ' ' then " "
  else ""

def integerInSlot (s : Slot) (width : Nat) (precision : Option Nat) (n : Int) : String :=
  let (base, lead) : Nat × String := match s.letter with
    | 'x' => (16, "0x")
    | 'X' => (16, "0X")
    | 'o' => (8, "0o")
    | _ => (10, "")
  let digits := Nat.toDigits base n.natAbs
  let digits := if s.letter = 'X' then digits.map Char.toUpper else digits
  let missing := min ((precision.getD 0) - digits.length) Format.mostFill
  let digits := List.replicate missing '0' ++ digits
  inField s.flags width
    (signText s.flags (n < 0) ++ (if s.flags.contains '#' then lead else "")) (.ofList digits) true

def realInSlot (s : Slot) (width : Nat) (precision : Option Nat) (x : Binary64) : String :=
  let format : Format :=
    ⟨' ', some '>', false, '\x00', false, s.flags.contains '#', 0, none, some (precision.getD 6),
      some s.letter⟩
  let body := match format.ofReal x.abs "float" with
    | .ok text => text
    | .error _ => ""
  inField s.flags width (signText s.flags x.isNegative) body true

/-- The integer that an object is in a place for integers. -/
def integerFor (h : Hooks) (letter : Char) (o : Object) : Run Int := do
  let w ← get
  match (w.content o).number? with
  | some (.int n) => return n
  | some (.float x) =>
    if letter = 'd' ∨ letter = 'i' ∨ letter = 'u' then
      match x with
      | .nan => fail "ValueError" "cannot convert float NaN to integer"
      | .infinite _ => fail "OverflowError" "cannot convert float infinity to integer"
      | _ => return (x.truncate?).getD 0
    else wrong w "an integer"
  | _ =>
    match ← o.index? h with
    | some n => return n
    | none => wrong w (if letter = 'd' ∨ letter = 'i' ∨ letter = 'u' then "a real number"
        else "an integer")
where
  /-- Raises what there is to raise when an object is none of what is asked for. -/
  wrong (w : World) (what : String) : Run Int :=
    fail "TypeError" ("%" ++ letter.toString ++ " format: " ++ what ++ " is required, not " ++
      Object.className w o)

/-- The real number that an object stands for. -/
def realOf (h : Hooks) (o : Object) : Run Binary64 := do
  let w ← get
  match (w.content o).number? with
  | some (.int n) => orFail (Number.realOf n)
  | some (.float x) => return x
  | _ =>
    match ← o.callSpecial? h "__float__" [] with
    | some (.float x) => return x
    | some _ => raise "TypeError"
    | none =>
      match ← o.index? h with
      | some n => orFail (Number.realOf n)
      | none => fail "TypeError" ("must be real number, not " ++ Object.className w o)

def inSlot (h : Hooks) (s : Slot) (width : Nat) (precision : Option Nat) (o : Object) :
    Run String := do
  let cut (text : String) : String := match precision with
    | some n => .ofList (text.toList.take n)
    | none => text
  match s.letter with
  | 's' => return inField s.flags width "" (cut (← o.plain h)) false
  | 'r' => return inField s.flags width "" (cut (← o.shown h)) false
  | 'a' => return inField s.flags width "" (cut (asciiOnly (← o.shown h))) false
  | 'c' =>
    let w ← get
    match w.content o with
    | .text t =>
      if t.length = 1 then return inField s.flags width "" t false
      else fail "TypeError" "%c requires int or char"
    | inner =>
      match inner.int? with
      | some n =>
        if n < 0 ∨ 0x110000 ≤ n then fail "OverflowError" "%c arg not in range(0x110000)"
        else return inField s.flags width "" (Text.ofCode n.toNat).toString false
      | none => fail "TypeError" "%c requires int or char"
  | letter =>
    if "diuxXo".toList.contains letter then
      return integerInSlot s width precision (← integerFor h letter o)
    else if "eEfFgG".toList.contains letter then
      return realInSlot s width precision (← realOf h o)
    else fail "ValueError" ("unsupported format character '" ++ letter.toString ++ "'")

/-- The objects for the places that are left, or the only one, which can be a mapping. -/
structure Supply where
  rest : List Object
  mapping : Option Object

def Supply.next (s : Supply) : Run (Object × Supply) :=
  match s.rest with
  | o :: os => return (o, { s with rest := os })
  | [] => fail "TypeError" "not enough arguments for format string"

/-- A width or precision, which a star takes from the objects. -/
def slotSize (h : Hooks) (supply : Supply) : Option (Option Nat) → Run (Option Int × Supply)
  | none => return (none, supply)
  | some (some n) => return (some n, supply)
  | some none => do
    let (o, supply) ← supply.next
    match ← o.index? h with
    | some n => return (some n, supply)
    | none => fail "TypeError" "* wants int"

/-- A text with objects in its places. `n` bounds the number of characters. -/
def fillFrom (h : Hooks) : Nat → Supply → List Char → Run (String × Supply)
  | 0, supply, _ => return ("", supply)
  | _, supply, [] => return ("", supply)
  | n + 1, supply, '%' :: cs => do
    let (s, rest) ← orFail (slot cs)
    if s.letter = '%' then
      let (text, supply) ← fillFrom h n supply rest
      return ("%" ++ text, supply)
    else
      let supply ← match s.key with
        | none => pure supply
        | some key =>
          match supply.mapping with
          | none => fail "TypeError" "format requires a mapping"
          | some mapping => do
            let o ← mapping.index h (.text key)
            pure { supply with rest := [o] }
      let (width, supply) ← slotSize h supply s.width
      let (precision, supply) ← slotSize h supply s.precision
      let (o, supply) ← supply.next
      let s := if width.any (· < 0) then { s with flags := '-' :: s.flags } else s
      let text ← inSlot h s ((width.map Int.natAbs).getD 0) (precision.map Int.toNat) o
      let (more, supply) ← fillFrom h n supply rest
      return (text ++ more, supply)
  | n + 1, supply, c :: cs => do
    let (text, supply) ← fillFrom h n supply cs
    return (c.toString ++ text, supply)

/-- Whether an object can be asked for what is under a key, so that none of it has to be used. -/
def isMappingLike (w : World) (o : Object) : Bool :=
  match w.content o with
  | .text _ => false
  | .tuple _ => false
  | .unknown => true
  | .bytes _ => true
  | .range .. => true
  | .entity id =>
    match w.kind? id with
    | some (.list _) => true
    | some (.mapping _) => true
    | _ => (w.special? o "__getitem__").isSome
  | _ => false

/-- A text with the objects of a tuple, or one object, in its places. -/
def fillIn (h : Hooks) (template : String) (o : Object) : Run Object := do
  let w ← get
  let supply : Supply := match w.content o with
    | .tuple items => ⟨items, none⟩
    | _ => ⟨[o], if isMappingLike w o then some o else none⟩
  let cs := template.toList
  let (text, left) ← fillFrom h (cs.length + 1) supply cs
  if left.rest.isEmpty || left.mapping.isSome then return .text text
  else fail "TypeError" "not all arguments converted during string formatting"

/-! ### Places between braces -/

/-- A part of a text: characters, or a place with what stands before and after its `!` and `:`. -/
inductive Part where
  | text (c : Char)
  | place (name : List Char) (conversion : Option Char) (format : List Char)

/-- What stands in a place, up to the brace that closes it. `depth` is the number of braces that are
open in it. -/
def placeText? : Nat → List Char → Option (List Char × List Char)
  | _, [] => none
  | depth, '\x7b' :: cs =>
    (placeText? (depth + 1) cs).map fun (inner, rest) => ('\x7b' :: inner, rest)
  | depth, '\x7d' :: cs =>
    if depth = 0 then some ([], cs)
    else (placeText? (depth - 1) cs).map fun (inner, rest) => ('\x7d' :: inner, rest)
  | depth, c :: cs => (placeText? depth cs).map fun (inner, rest) => (c :: inner, rest)

/-- The name of a place and what follows it. A `[` hides all up to its `]`. -/
def placeName (inBrackets : Bool) : List Char → List Char × List Char
  | [] => ([], [])
  | c :: cs =>
    if ! inBrackets && (c = '!' ∨ c = ':') then ([], c :: cs)
    else
      let (name, rest) := placeName (if inBrackets then c ≠ ']' else c = '[') cs
      (c :: name, rest)

/-- A place by what stands in it. -/
def partOf (inner : List Char) : Except Mishap Part :=
  let (name, rest) := placeName false inner
  match rest with
  | [] => .ok (.place name none [])
  | ':' :: format => .ok (.place name none format)
  | '!' :: c :: [] => .ok (.place name (some c) [])
  | '!' :: c :: ':' :: format => .ok (.place name (some c) format)
  | '!' :: [] =>
    .error ⟨"ValueError", "end of string while looking for conversion specifier"⟩
  | _ => .error ⟨"ValueError", "expected ':' after conversion specifier"⟩

/-- The parts of a text. `n` bounds the number of its characters. -/
def partsOf : Nat → List Char → Except Mishap (List Part)
  | 0, _ => .ok []
  | _, [] => .ok []
  | n + 1, '\x7b' :: '\x7b' :: cs => do return .text '\x7b' :: (← partsOf n cs)
  | n + 1, '\x7d' :: '\x7d' :: cs => do return .text '\x7d' :: (← partsOf n cs)
  | _, ['\x7b'] => .error ⟨"ValueError", "Single '\x7b' encountered in format string"⟩
  | _, '\x7d' :: _ => .error ⟨"ValueError", "Single '\x7d' encountered in format string"⟩
  | n + 1, '\x7b' :: cs =>
    match placeText? 0 cs with
    | none => .error ⟨"ValueError", "expected '\x7d' before end of string"⟩
    | some (inner, rest) => do
      let part ← partOf inner
      return part :: (← partsOf n rest)
  | n + 1, c :: cs => do return .text c :: (← partsOf n cs)

/-- What a place says about numbers of objects: nothing so far, that they are counted, or given. -/
inductive Numbering where
  | open_
  | counted (next : Nat)
  | given

/-- The members and keys that follow the first part of a name. `n` bounds their number. -/
def follow (h : Hooks) : Nat → Object → List Char → Run Object
  | 0, o, _ => return o
  | _, o, [] => return o
  | n + 1, o, '.' :: cs => do
    let name := cs.takeWhile fun c => c ≠ '.' && c ≠ '['
    if name.isEmpty then fail "ValueError" "Empty attribute in format string"
    else follow h n (← o.member h (.ofList name)) (cs.drop name.length)
  | n + 1, o, '[' :: cs => do
    let key := cs.takeWhile (· ≠ ']')
    if key.length = cs.length then fail "ValueError" "Missing ']' in format string"
    else if key.isEmpty then fail "ValueError" "Empty attribute in format string"
    else
      let index : Object := if key.all Char.isDigit then
          .int ((Format.number key).1.getD 0) else .text (.ofList key)
      follow h n (← o.index h index) (cs.drop (key.length + 1))
  | _, _, _ =>
    fail "ValueError" "Only '.' or '[' may follow ']' in format field specifier"

/-- The object that a place names. -/
def placed (h : Hooks) (arguments : Arguments) (numbering : Numbering) (name : List Char) :
    Run (Object × Numbering) := do
  let first := name.takeWhile fun c => c ≠ '.' && c ≠ '['
  let rest := name.drop first.length
  let at_ (i : Nat) : Run Object :=
    match arguments.placed[i]? with
    | some o => return o
    | none => fail "IndexError" ("Replacement index " ++ toString i ++
        " out of range for positional args tuple")
  let (o, numbering) ←
    if first.isEmpty then
      match numbering with
      | .given =>
        fail "ValueError"
          "cannot switch from manual field specification to automatic field numbering"
      | .open_ => do pure (← at_ 0, Numbering.counted 1)
      | .counted i => do pure (← at_ i, Numbering.counted (i + 1))
    else if first.all Char.isDigit then
      match numbering with
      | .counted _ =>
        fail "ValueError"
          "cannot switch from automatic field numbering to manual field specification"
      | _ => do pure (← at_ ((Format.number first).1.getD 0), Numbering.given)
    else
      match arguments.named.lookup (.ofList first) with
      | some o => pure (o, numbering)
      | none => Object.failKey (.text (.ofList first))
  return (← follow h (rest.length + 1) o rest, numbering)

/-- The parts of a text with objects in their places, where formats can have places of their own down
to a depth of `n`. -/
def fillParts (h : Hooks) (arguments : Arguments) :
    Nat → Numbering → List Part → Run (String × Numbering)
  | _, numbering, [] => return ("", numbering)
  | 0, _, _ => fail "ValueError" "Max string recursion exceeded"
  | n + 1, numbering, .text c :: parts => do
    let (rest, numbering) ← fillParts h arguments (n + 1) numbering parts
    return (c.toString ++ rest, numbering)
  | n + 1, numbering, .place name conversion format :: parts => do
    let (o, numbering) ← placed h arguments numbering name
    let o ← match conversion with
      | none => pure o
      | some c =>
        if c = 's' ∨ c = 'r' ∨ c = 'a' then converted h (some c) o
        else fail "ValueError" ("Unknown conversion specifier " ++ c.toString)
    let inner ← orFail (partsOf (format.length + 1) format)
    let (format, numbering) ←
      if inner.all (· matches .text _) then
        pure (String.ofList (inner.filterMap fun p =>
          match p with
          | .text c => some c
          | _ => none), numbering)
      else fillParts h arguments n numbering inner
    let text ← formatted h o format
    let (rest, numbering) ← fillParts h arguments (n + 1) numbering parts
    return (text ++ rest, numbering)
termination_by n _ parts => (n, parts.length)

/-- A text with arguments in its places. -/
def fillOut (h : Hooks) (template : String) (arguments : Arguments) : Run Object := do
  let cs := template.toList
  let parts ← orFail (partsOf (cs.length + 1) cs)
  let (text, _) ← fillParts h arguments 2 .open_ parts
  return .text text

end Template
end RouteDocs.Module
