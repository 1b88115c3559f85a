import RouteDocs.Text.Cut
import RouteDocs.Text.Blank
import RouteDocs.Text.Casing
import RouteDocs.Text.Numeral
import RouteDocs.Value
import RouteDocs.Yaml.Failure

namespace RouteDocs.Yaml

/-- The kind of a node. `other` is any kind that has no values. -/
inductive Tag where
  | null
  | bool
  | int
  | float
  | timestamp
  | binary
  | text
  | sequence
  | mapping
  | set
  | orderedMapping
  | pairs
  | merge
  | default
  | other
  deriving DecidableEq, Repr, Inhabited

/-- The kind that a full tag names. -/
def Tag.ofName (name : String) : Tag :=
  match name with
  | "tag:yaml.org,2002:null" => .null
  | "tag:yaml.org,2002:bool" => .bool
  | "tag:yaml.org,2002:int" => .int
  | "tag:yaml.org,2002:float" => .float
  | "tag:yaml.org,2002:timestamp" => .timestamp
  | "tag:yaml.org,2002:binary" => .binary
  | "tag:yaml.org,2002:str" => .text
  | "tag:yaml.org,2002:seq" => .sequence
  | "tag:yaml.org,2002:map" => .mapping
  | "tag:yaml.org,2002:set" => .set
  | "tag:yaml.org,2002:omap" => .orderedMapping
  | "tag:yaml.org,2002:pairs" => .pairs
  | "tag:yaml.org,2002:merge" => .merge
  | "tag:yaml.org,2002:value" => .default
  | _ => .other

/-- The words for a truth value, in small letters. -/
def truthWord? (s : String) : Option Bool :=
  match s with
  | "yes" | "true" | "on" => some true
  | "no" | "false" | "off" => some false
  | _ => none

/-- Whether a text is one of the words in small letters, in capitals, or with one capital at the
start. -/
def isCased (words : List String) (s : String) : Bool :=
  words.any fun w =>
    s == w || s == w.toUpper || s == w.capitalize

def unsigned : List Char → List Char
  | '+' :: cs => cs
  | '-' :: cs => cs
  | cs => cs

/-- A digit, or the mark between groups of digits. -/
def isGrouped (c : Char) : Bool := c.isDigit || c == '_'

def isBinaryGrouped (c : Char) : Bool := c == '0' || c == '1' || c == '_'

def isOctalGrouped (c : Char) : Bool := ('0' ≤ c && c ≤ '7') || c == '_'

def isHexGrouped (c : Char) : Bool :=
  isGrouped c || ('a' ≤ c && c ≤ 'f') || ('A' ≤ c && c ≤ 'F')

/-- Whether the characters are not empty and all accepted. -/
def allOf (p : Char → Bool) (cs : List Char) : Bool := ! cs.isEmpty && cs.all p

/-- A part of a number in base sixty after its first: one digit, or two of which the first is at
most five. -/
def isSixtieth : List Char → Bool
  | [c] => c.isDigit
  | [b, c] => '0' ≤ b && b ≤ '5' && c.isDigit
  | _ => false

/-- Whether the characters are grouped digits, the first of which `p` accepts, and then one or more
parts in base sixty. -/
def isSexagesimal (p : Char → Bool) (cs : List Char) : Bool :=
  match Text.pieces (· == ':') cs with
  | (c :: first) :: next :: rest =>
    p c && first.all isGrouped && (next :: rest).all isSixtieth
  | _ => false

/-- Whether the characters spell an integer: binary, octal, hexadecimal, decimal or base sixty. -/
def isInt (cs : List Char) : Bool :=
  match unsigned cs with
  | ['0'] => true
  | '0' :: 'b' :: digits => allOf isBinaryGrouped digits
  | '0' :: 'x' :: digits => allOf isHexGrouped digits
  | '0' :: digits => allOf isOctalGrouped digits
  | c :: rest =>
    c.isDigit && (rest.all isGrouped || isSexagesimal Char.isDigit (c :: rest))
  | [] => false

/-- Whether the characters are nothing or an exponent, whose sign is required. -/
def isExponent : List Char → Bool
  | [] => true
  | e :: sign :: digits =>
    (e == 'e' || e == 'E') && (sign == '+' || sign == '-') && allOf Char.isDigit digits
  | _ => false

/-- The characters before and after the first that is not accepted. -/
def span (p : Char → Bool) (cs : List Char) : List Char × List Char :=
  (cs.takeWhile p, cs.dropWhile p)

/-- Whether the characters are grouped digits from some point on, and then an exponent or
nothing. -/
def isFraction (cs : List Char) : Bool := isExponent (cs.dropWhile isGrouped)

/-- Whether the characters spell a number with a point: decimal with or without an exponent, base
sixty, infinite, or not a number. A sign may stand before any but the last and before one that
starts with the point and has digits. -/
def isFloat (cs : List Char) : Bool :=
  let decimal : Bool := match unsigned cs with
    | c :: rest =>
      c.isDigit && match rest.dropWhile isGrouped with
        | '.' :: fraction => isFraction fraction
        | _ => false
    | [] => false
  let pointed : Bool := match cs with
    | '.' :: c :: rest => c.isDigit && isFraction rest
    | _ => false
  let sixty : Bool :=
    match Text.cutAtChar '.' (unsigned cs) with
    | (whole, fraction) =>
      (unsigned cs).contains '.' && isSexagesimal Char.isDigit whole && fraction.all isGrouped
  let infinite : Bool := match unsigned cs with
    | '.' :: word => ["inf", "Inf", "INF"].contains (.ofList word)
    | _ => false
  let undefined : Bool := match cs with
    | '.' :: word => ["nan", "NaN", "NAN"].contains (.ofList word)
    | _ => false
  decimal || pointed || sixty || infinite || undefined

/-- The digits of a time stamp, part by part. -/
structure StampParts where
  year : List Char
  month : List Char
  day : List Char
  time : Option (List Char × List Char × List Char × List Char × List Char)

/-- Up to `most` digits, at least `least`, and what follows them. -/
def digits? (least most : Nat) (cs : List Char) : Option (List Char × List Char) :=
  let ds := (cs.take most).takeWhile Char.isDigit
  if least ≤ ds.length then some (ds, cs.drop ds.length) else none

/-- The characters after `c`, if the text starts with it. -/
def after? (c : Char) : List Char → Option (List Char)
  | d :: cs => if d = c then some cs else none
  | [] => none

/-- A blank or tab. -/
def isGap (c : Char) : Bool := c == ' ' || c == '\t'

/-- Whether the characters are an offset from universal time: `Z`, or a sign, hours, and minutes or
not. -/
def isOffset : List Char → Bool
  | ['Z'] => true
  | sign :: rest =>
    (sign == '+' || sign == '-') &&
      match digits? 1 2 rest with
      | some (_, []) => true
      | some (_, ':' :: minutes) => minutes.length == 2 && minutes.all Char.isDigit
      | _ => false
  | [] => false

/-- The time of a time stamp: hour, minute, second, fraction and offset. -/
def stampTime? (cs : List Char) :
    Option (List Char × List Char × List Char × List Char × List Char) := do
  let start ← match cs with
    | c :: rest =>
      if c = 't' ∨ c = 'T' then some rest
      else if isGap c then some (rest.dropWhile isGap)
      else none
    | [] => none
  let (hour, rest) ← digits? 1 2 start
  let (minute, rest) ← digits? 2 2 (← after? ':' rest)
  let (second, rest) ← digits? 2 2 (← after? ':' rest)
  let (fraction, rest) := match rest with
    | '.' :: more => span Char.isDigit more
    | _ => ([], rest)
  let offset := rest.dropWhile isGap
  if rest.isEmpty || isOffset offset then return (hour, minute, second, fraction, offset) else none

def stampParts? (cs : List Char) : Option StampParts := do
  let (year, rest) ← digits? 4 4 cs
  let (month, rest) ← digits? 1 2 (← after? '-' rest)
  let (day, rest) ← digits? 1 2 (← after? '-' rest)
  if rest.isEmpty then return ⟨year, month, day, none⟩
  else return ⟨year, month, day, some (← stampTime? rest)⟩

/-- Whether a plain scalar is a time stamp: a day alone needs two digits for month and day. -/
def isTimestamp (cs : List Char) : Bool :=
  match stampParts? cs with
  | some parts => parts.time.isSome || (parts.month.length == 2 && parts.day.length == 2)
  | none => false

/-- A text without the line end that it ends with, if it does. -/
def withoutLastBreak (s : String) : String :=
  let cs := s.toList
  if cs.getLast? == some '\n' then .ofList cs.dropLast else s

/-- The kind of a scalar without quotes. -/
def Tag.ofLine (s : String) : Tag :=
  let cs := s.toList
  if s.isEmpty || s == "~" || isCased ["null"] s then .null
  else if isCased ["yes", "no", "true", "false", "on", "off"] s then .bool
  else if isFloat cs then .float
  else if isInt cs then .int
  else if s == "<<" then .merge
  else if isTimestamp cs then .timestamp
  else if s == "=" then .default
  else .text

/-- The kind of a scalar that is told by its spelling. A line end may follow the spelling, if that
is not empty. -/
def Tag.ofPlain (s : String) : Tag :=
  if s = "\n" then .text else .ofLine (withoutLastBreak s)

/-- The value of a digit in any base up to sixteen. -/
def digitValue (c : Char) : Nat :=
  if c.isDigit then c.toNat - 48
  else if 'a' ≤ c ∧ c ≤ 'f' then c.toNat - 87
  else c.toNat - 55

def readInteger (base : Nat) (cs : List Char) : Except Failure Int :=
  match Numeral.integer? base (.ofList cs) with
  | some n => .ok n
  | none => .error .outOfRange

/-- The parts of a number in base sixty, put together. -/
def readSexagesimal (parts : List (List Char)) : Except Failure Int :=
  parts.foldlM (fun n part => do return n * 60 + (← readInteger 10 part)) 0

def readInt (s : String) : Except Failure Int := do
  let cs := s.toList.filter (· != '_')
  let magnitude ← match unsigned cs with
    | ['0'] => pure 0
    | '0' :: 'b' :: digits => readInteger 2 digits
    | '0' :: 'x' :: digits => readInteger 16 digits
    | '0' :: digits => readInteger 8 ('0' :: digits)
    | [] => throw .noDigits
    | digits =>
      if digits.contains ':' then readSexagesimal (Text.pieces (· == ':') digits)
      else readInteger 10 digits
  return if cs.head? == some '-' then -magnitude else magnitude

def readReal (cs : List Char) : Except Failure Binary64 :=
  match Numeral.real? (.ofList cs) with
  | some x => .ok x
  | none => .error .outOfRange

/-- The sum of parts in base sixty, the last first, each counted `base` times as much as it
says. -/
def sumSixtieths (base : Nat) (sum : Binary64) : List (List Char) → Except Failure Binary64
  | [] => .ok sum
  | part :: parts => do
    let x ← readReal part
    let weight := Binary64.ofInt base
    if weight = .infinite false then throw .overflow
    sumSixtieths (base * 60) (sum.add (x.mul weight)) parts

/-- The parts of a number in base sixty, the last with a fraction or not, put together. All parts
are read first. -/
def readSixtieths (parts : List (List Char)) : Except Failure Binary64 := do
  let _ ← parts.mapM readReal
  sumSixtieths 1 (.finite false 0 Binary64.leastExponent) parts.reverse

/-- The number that a spelling with a point stands for. -/
def readFloat (s : String) : Except Failure Binary64 := do
  let cs := (Text.lower s).toList.filter (· != '_')
  if cs.isEmpty then throw .noDigits
  let rest := unsigned cs
  let magnitude ←
    if rest == ".inf".toList then pure (.infinite false)
    else if rest == ".nan".toList then pure .nan
    else if rest.contains ':' then readSixtieths (Text.pieces (· == ':') rest)
    else readReal rest
  return if cs.head? == some '-' then magnitude.neg else magnitude

/-- The number that digits spell, zero if there are none. -/
def natOfDigits (cs : List Char) : Nat := cs.foldl (fun n c => n * 10 + digitValue c) 0

/-- The offset of a time stamp in minutes. -/
def readOffset : List Char → Option Int
  | [] => none
  | ['Z'] => some 0
  | sign :: rest =>
    let (hours, minutes) := Text.cutAtChar ':' rest
    let total : Int := natOfDigits hours * 60 + natOfDigits minutes
    some (if sign == '-' then -total else total)

/-- The day or moment that a spelling stands for. -/
def readTimestamp (s : String) : Except Failure Value := do
  let some parts := stampParts? (withoutLastBreak s).toList | throw .notATimestamp
  let date : Date := ⟨natOfDigits parts.year, natOfDigits parts.month, natOfDigits parts.day⟩
  match parts.time with
  | none => if date.exists? then return .date date else throw .outOfRange
  | some (hour, minute, second, fraction, offset) =>
    let micro := (fraction ++ List.replicate 6 '0').take 6
    let moment : Moment := ⟨date, natOfDigits hour, natOfDigits minute, natOfDigits second,
      natOfDigits micro, readOffset offset⟩
    if moment.exists? then return .moment moment else throw .outOfRange

/-- The six bits that a character of the base-64 alphabet stands for. -/
def sextet? (c : Char) : Option Nat :=
  if 'A' ≤ c ∧ c ≤ 'Z' then some (c.toNat - 65)
  else if 'a' ≤ c ∧ c ≤ 'z' then some (c.toNat - 71)
  else if c.isDigit then some (c.toNat + 4)
  else if c = '+' then some 62
  else if c = '/' then some 63
  else none

/-- The bytes of a base-64 text, given how many characters of the present group of four are read,
the bits they left over and the padding seen. Characters outside the alphabet are passed over, and
reading stops where padding completes a group. -/
def decodeSextets (position left pads : Nat) : List Char → Option (List UInt8)
  | [] => if position = 0 then some [] else none
  | c :: cs =>
    if c = '=' then
      if 2 ≤ position ∧ 4 ≤ position + (pads + 1) then some []
      else decodeSextets position left (if 2 ≤ position then pads + 1 else pads) cs
    else
      match sextet? c with
      | none => decodeSextets position left pads cs
      | some bits =>
        match position with
        | 0 => decodeSextets 1 bits 0 cs
        | 1 => (decodeSextets 2 (bits % 16) 0 cs).map (.ofNat (left * 4 + bits / 16) :: ·)
        | 2 => (decodeSextets 3 (bits % 4) 0 cs).map (.ofNat (left * 16 + bits / 4) :: ·)
        | _ => (decodeSextets 0 0 0 cs).map (.ofNat (left * 64 + bits) :: ·)

/-- The bytes that a base-64 spelling stands for; it is written in ASCII. -/
def readBinary (s : String) : Except Failure Value :=
  if s.toList.all fun c => c.toNat < 128 then
    match decodeSextets 0 0 0 s.toList with
    | some bytes => .ok (.bytes bytes)
    | none => .error .malformed
  else .error .malformed

def readBool (s : String) : Except Failure Value :=
  match truthWord? (Text.lower s) with
  | some b => .ok (.bool b)
  | none => .error .unknownWord

end RouteDocs.Yaml
