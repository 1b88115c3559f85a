import RouteDocs.Decimal.Binary64
import RouteDocs.Text.Blank

/-!
# Numbers in texts

* `decimalDigit?`: the value of a decimal digit of any script;
* `Numeral.integer?`: the integer that a text spells in a base;
* `Numeral.real?`: the number that a text spells with a point or an exponent.

Blanks may stand around a number, and a single mark between two digits.
-/

namespace RouteDocs

/-- The zeros of the scripts with decimal digits; the other nine follow each. Data of the Unicode
Character Database 14.0. -/
def Text.decimalZeros : List Nat := [
  0x30, 0x660, 0x6F0, 0x7C0, 0x966, 0x9E6, 0xA66, 0xAE6, 0xB66, 0xBE6, 0xC66, 0xCE6, 0xD66, 0xDE6,
  0xE50, 0xED0, 0xF20, 0x1040, 0x1090, 0x17E0, 0x1810, 0x1946, 0x19D0, 0x1A80, 0x1A90, 0x1B50,
  0x1BB0, 0x1C40, 0x1C50, 0xA620, 0xA8D0, 0xA900, 0xA9D0, 0xA9F0, 0xAA50, 0xABF0, 0xFF10, 0x104A0,
  0x10D30, 0x11066, 0x110F0, 0x11136, 0x111D0, 0x112F0, 0x11450, 0x114D0, 0x11650, 0x116C0,
  0x11730, 0x118E0, 0x11950, 0x11C50, 0x11D50, 0x11DA0, 0x16A60, 0x16AC0, 0x16B50, 0x1D7CE,
  0x1D7D8, 0x1D7E2, 0x1D7EC, 0x1D7F6, 0x1E140, 0x1E2F0, 0x1E950, 0x1FBF0]

/-- The value of a decimal digit of any script. -/
def Text.decimalDigit? (c : Char) : Option Nat :=
  (Text.decimalZeros.find? fun first => first ≤ c.toNat && c.toNat < first + 10).map (c.toNat - ·)

namespace Numeral

/-- The value of a digit in a base of up to thirty-six. -/
def digit? (base : Nat) (c : Char) : Option Nat :=
  let value? := match Text.decimalDigit? c with
    | some n => some n
    | none =>
      if 'a' ≤ c ∧ c ≤ 'z' then some (c.toNat - 87)
      else if 'A' ≤ c ∧ c ≤ 'Z' then some (c.toNat - 55)
      else none
  value?.filter (· < base)

/-- The values of digits, with a single mark between two of them where there is one. `expected`
says that a digit has to come next. -/
def digits? (base : Nat) (expected : Bool) : List Char → Option (List Nat)
  | [] => if expected then none else some []
  | c :: cs =>
    if c = '_' then if expected then none else digits? base true cs
    else do return (← digit? base c) :: (← digits? base false cs)

/-- The number with these digits, the first counting most. -/
def ofDigits (base : Nat) (digits : List Nat) : Nat := digits.foldl (fun n d => n * base + d) 0

/-- The most digits that a number may be written with in a base that is no power of two. -/
def mostDigits : Nat := 4300

def isTooLong (n : Int) : Bool := Nat.pow 10 mostDigits ≤ n.natAbs

/-- The sign at the start of a number, if there is one, and what follows it. -/
def sign (cs : List Char) : Bool × List Char :=
  match cs with
  | '-' :: rest => (true, rest)
  | '+' :: rest => (false, rest)
  | _ => (false, cs)

/-- The letter that announces a base after a zero. -/
def baseLetter? (base : Nat) : Option Char :=
  if base = 2 then some 'b' else if base = 8 then some 'o' else if base = 16 then some 'x' else none

/-- The digits after a zero and the letter of their base, which may have a mark before them. -/
def afterLetter (base : Nat) (cs : List Char) : List Char :=
  match cs with
  | '0' :: letter :: rest =>
    if (baseLetter? base).any (· == letter.toLower) then
      match rest with
      | '_' :: more => more
      | _ => rest
    else cs
  | _ => cs

/-- The integer that a text spells in a base. -/
def integer? (base : Nat) (s : String) : Option Int := do
  let (negative, cs) := sign (Text.trim s.toList)
  let digits ← digits? base true (afterLetter base cs)
  if (baseLetter? base).isNone && mostDigits < digits.length then none
  else
    let n := ofDigits base digits
    return if negative then -(n : Int) else n

/-- The digits at the start of a text, and what follows them; there may be none. -/
def leadingDigits? (cs : List Char) : Option (List Nat × List Char) :=
  let isPart (c : Char) : Bool := c == '_' || (digit? 10 c).isSome
  let part := cs.takeWhile isPart
  if part.isEmpty then some ([], cs)
  else do return (← digits? 10 true part, cs.drop part.length)

/-- The power of ten that an exponent at the end of a number spells. -/
def exponent? : List Char → Option Int
  | [] => some 0
  | e :: cs => do
    if e.toLower = 'e' then
      let (negative, rest) := sign cs
      let digits ← digits? 10 true rest
      let n := ofDigits 10 digits
      return if negative then -(n : Int) else n
    else none

/-- The number that a text spells with a point, an exponent, both or neither, or by a word. -/
def real? (s : String) : Option Binary64 := do
  let (negative, cs) := sign (Text.trim s.toList)
  let word := (String.ofList cs).toLower
  if word = "inf" ∨ word = "infinity" then return .infinite negative
  else if word = "nan" then return .nan
  else
    let (whole, rest) ← leadingDigits? cs
    let (fraction, rest) ← match rest with
      | '.' :: more => leadingDigits? more
      | _ => some ([], rest)
    if whole.isEmpty && fraction.isEmpty then none
    else
      let power ← exponent? rest
      return .ofDecimal negative (ofDigits 10 (whole ++ fraction)) (power - fraction.length)

end Numeral
end RouteDocs
