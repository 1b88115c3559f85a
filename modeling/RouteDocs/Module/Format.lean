import RouteDocs.Module.Number
import RouteDocs.Text.Half
import RouteDocs.Text.Quoted

namespace RouteDocs.Module

/-- Digits with a point before the last `places` of them. -/
def withPoint (digits places : Nat) (keepPoint : Bool) : String :=
  let cs := (toString digits).toList
  let padded := List.replicate (places + 1 - cs.length) '0' ++ cs
  let whole := padded.take (padded.length - places)
  let fraction := padded.drop (padded.length - places)
  .ofList (whole ++ if fraction.isEmpty && ! keepPoint then [] else '.' :: fraction)

/-- A fraction with so many digits after the point, the last one rounded. -/
def fixedText (num den places : Nat) (keepPoint : Bool) : String :=
  withPoint (Binary64.roundDiv (num * Nat.pow 10 places) den) places keepPoint

/-- The first `count` digits of a fraction that is not zero, the last one rounded, and the exponent
of the first of them. -/
def leadingDigits (num den count : Nat) : Nat × Int :=
  let exponent := Binary64.leadingExponent num den
  let scale : Int := (count : Int) - 1 - exponent
  let digits := Binary64.roundDiv (num * Nat.pow 10 scale.toNat) (den * Nat.pow 10 (-scale).toNat)
  if Nat.pow 10 count ≤ digits then (digits / 10, exponent + 1) else (digits, exponent)

/-- A fraction with one digit before the point, so many after it, and an exponent. -/
def scientificText (num den places : Nat) (keepPoint : Bool) : String :=
  let (digits, exponent) := if num = 0 then (0, 0) else leadingDigits num den (places + 1)
  let text := if num = 0 then withPoint 0 places keepPoint else withPoint digits places keepPoint
  text ++ "e" ++ DecimalStyle.exponentText exponent

/-- A text without zeros at the end of the digits after the point, and without a point at its
end. -/
def dropTrailing (s : String) : String :=
  let cs := s.toList
  if cs.contains '.' then
    let back := cs.reverse.dropWhile (· == '0')
    .ofList (match back with
      | '.' :: rest => rest.reverse
      | _ => back.reverse)
  else s

/-- A fraction with so many digits in all, written with an exponent where it is very large or very
small. -/
def generalText (num den precision : Nat) (keepZeros addZero : Bool) : String :=
  let count := max precision 1
  let (digits, exponent) := if num = 0 then (0, 0) else leadingDigits num den count
  let limit : Int := if addZero then count - 1 else count
  if -4 ≤ exponent ∧ exponent < limit ∨ -4 ≤ exponent ∧ exponent < count ∧ ! addZero then
    let places := ((count : Int) - 1 - exponent).toNat
    let text := fixedText num den places keepZeros
    let text := if keepZeros then text else dropTrailing text
    if addZero && ! text.toList.contains '.' then text ++ ".0" else text
  else
    let mantissa := withPoint digits (count - 1) keepZeros
    (if keepZeros then mantissa else dropTrailing mantissa) ++ "e" ++
      DecimalStyle.exponentText exponent

/-- What a text after a colon asks for. -/
structure Format where
  fill : Char
  align : Option Char
  hasFill : Bool
  sign : Char
  noNegativeZero : Bool
  alternate : Bool
  width : Nat
  grouping : Option Char
  precision : Option Nat
  type : Option Char
  deriving DecidableEq, Repr

namespace Format

def wrong (message : String) : Mishap := ⟨"ValueError", message⟩

/-- Whether a character says where a text stands in a wider field. -/
def isAlign (c : Char) : Bool := c == '<' || c == '>' || c == '=' || c == '^'

def number (cs : List Char) : Option Nat × List Char :=
  let digits := cs.takeWhile Char.isDigit
  (if digits.isEmpty then none else some (digits.foldl (fun n c => n * 10 + (c.toNat - 48)) 0),
    cs.drop digits.length)

def mostWidth : Nat := Nat.pow 2 63 - 1

/-- What a text asks for, of an object of a class. `rightByDefault` says that its texts stand at the
right of a wider field. -/
def parse (rightByDefault : Bool) (className : String) (text : String) : Except Mishap Format := do
  let cs := text.toList
  let (fill, align, hasFill, cs) : Char × Option Char × Bool × List Char := match cs with
    | a :: b :: rest =>
      if isAlign b then (a, some b, true, rest)
      else if isAlign a then (' ', some a, false, b :: rest)
      else (' ', none, false, cs)
    | [a] => if isAlign a then (' ', some a, false, []) else (' ', none, false, cs)
    | [] => (' ', none, false, [])
  let (sign, cs) : Char × List Char := match cs with
    | '+' :: rest => ('+', rest)
    | '-' :: rest => ('-', rest)
    | ' ' :: rest => (' ', rest)
    | _ => ('\x00', cs)
  let (noNegativeZero, cs) : Bool × List Char := match cs with
    | 'z' :: rest => (true, rest)
    | _ => (false, cs)
  let (alternate, cs) : Bool × List Char := match cs with
    | '#' :: rest => (true, rest)
    | _ => (false, cs)
  let (fill, align, hasFill, cs) : Char × Option Char × Bool × List Char := match cs with
    | '0' :: rest =>
      if hasFill then (fill, align, true, cs)
      else ('0', (if align.isNone && rightByDefault then some '=' else align), true, rest)
    | _ => (fill, align, hasFill, cs)
  let (width, cs) := number cs
  let (grouping, cs) ← match cs with
    | ',' :: '_' :: _ => Except.error (wrong "Cannot specify both ',' and '_'.")
    | '_' :: ',' :: _ => Except.error (wrong "Cannot specify both ',' and '_'.")
    | ',' :: ',' :: _ => Except.error (wrong "Cannot specify ',' with ','.")
    | '_' :: '_' :: _ => Except.error (wrong "Cannot specify '_' with '_'.")
    | ',' :: rest => Except.ok (some ',', rest)
    | '_' :: rest => Except.ok (some '_', rest)
    | _ => Except.ok ((none : Option Char), cs)
  let (precision, cs) ← match cs with
    | '.' :: rest =>
      match number rest with
      | (some n, rest) => Except.ok (some n, rest)
      | (none, _) => Except.error (wrong "Format specifier missing precision")
    | _ => Except.ok ((none : Option Nat), cs)
  if mostWidth < width.getD 0 ∨ mostWidth < precision.getD 0 then
    throw (wrong "Too many decimal digits in format string")
  let type : Option Char ← match cs with
    | [] => Except.ok none
    | [c] => Except.ok (some c)
    | _ => Except.error (wrong ("Invalid format specifier '" ++ text ++ "' for object of type '" ++
        className ++ "'"))
  match grouping, type with
  | some mark, some c =>
    let allowed := if mark = '_' then "deEfFgG%boxX" else "deEfFgG%"
    if allowed.toList.contains c then pure ()
    else throw (wrong ("Cannot specify '" ++ mark.toString ++ "' with '" ++ c.toString ++ "'."))
  | _, _ => pure ()
  return ⟨fill, align, hasFill, sign, noNegativeZero, alternate, width.getD 0, grouping, precision,
    type⟩

def mostFill : Nat := Nat.pow 2 24

/-- A text in a wider field, with what goes before the filling where it stands inside. -/
def pad (f : Format) (default : Char) (lead body : String) : String :=
  let size := lead.length + body.length
  let missing := min (f.width - size) mostFill
  let fillers (n : Nat) : String := .ofList (List.replicate n f.fill)
  match f.align.getD default with
  | '<' => lead ++ body ++ fillers missing
  | '>' => fillers missing ++ lead ++ body
  | '^' => fillers (missing / 2) ++ lead ++ body ++ fillers (missing - missing / 2)
  | _ => lead ++ fillers missing ++ body

/-- What is raised for a letter that an object of a class is not written by. -/
def unknownCode (c : Char) (className : String) : Mishap :=
  wrong ("Unknown format code '" ++ c.toString ++ "' for object of type '" ++ className ++ "'")

def ofText (f : Format) (s : String) : Except Mishap String := do
  match f.type with
  | none => pure ()
  | some 's' => pure ()
  | some c => throw (unknownCode c "str")
  if f.sign ≠ '\x00' then throw (wrong "Sign not allowed in string format specifier")
  if f.noNegativeZero then
    throw (wrong "Negative zero coercion (z) not allowed in string format specifier")
  if f.alternate then
    throw (wrong "Alternate form (#) not allowed in string format specifier")
  if f.align = some '=' then
    throw (wrong "'=' alignment not allowed in string format specifier")
  if f.grouping.isSome then throw (wrong "Cannot specify ',' with 's'.")
  let shown := match f.precision with
    | some n => String.ofList (s.toList.take n)
    | none => s
  return f.pad '<' "" shown

/-- Digits with a mark before each group of so many, counted from the end, and zeros before them up
to a width. -/
def group (mark : Char) (size : Nat) (width : Nat) (digits : List Char) : List Char :=
  let marked (cs : List Char) : List Char :=
    (cs.reverse.zipIdx.flatMap fun (c, i) =>
      if i ≠ 0 && i % size = 0 then [mark, c] else [c]).reverse
  let all := marked digits
  if width ≤ all.length then all
  else
    let more := (List.range width).find? fun n =>
      width ≤ (marked (List.replicate n '0' ++ digits)).length
    marked (List.replicate (more.getD 0) '0' ++ digits)

/-- A number as a format asks for it: its sign, what stands before its digits, the digits before the
point, and the rest. -/
def layOut (f : Format) (negative : Bool) (lead : String) (whole rest : List Char)
    (groupSize : Nat) : String :=
  let sign := if negative then "-" else if f.sign = '+' then "+" else if f.sign = ' ' then " "
    else ""
  let before := sign ++ lead
  let isZeroFilled := f.fill = '0' && f.align = some '='
  let whole := match f.grouping with
    | none => whole
    | some mark =>
      group mark groupSize (if isZeroFilled then min f.width mostFill - before.length - rest.length
        else 0) whole
  f.pad '>' before (.ofList (whole ++ rest))

def inBase (base n : Nat) : List Char := Nat.toDigits base n

def ofReal (f : Format) (x : Binary64) (className : String) : Except Mishap String := do
  let type := f.type.getD '\x00'
  if ! "\x00eEfFgGn%".toList.contains type then throw (unknownCode type className)
  let isPercent := type = '%'
  let x := if isPercent then x.mul (.ofInt 100) else x
  let upper := type = 'E' || type = 'F' || type = 'G'
  let body : String := match x with
    | .nan => "nan"
    | .infinite _ => "inf"
    | .finite _ m e =>
      let (num, den) := Binary64.scale m 1 (-e)
      match type.toLower with
      | 'e' => scientificText num den (f.precision.getD 6) f.alternate
      | 'f' => fixedText num den (f.precision.getD 6) f.alternate
      | '%' => fixedText num den (f.precision.getD 6) f.alternate
      | '\x00' =>
        match f.precision with
        | none => DecimalStyle.standard.write x.abs
        | some n => generalText num den n f.alternate true
      | _ => generalText num den (f.precision.getD 6) f.alternate false
  let body := if upper then body.map Char.toUpper else body
  let isZero := body.toList.all fun c => ! ('1' ≤ c && c ≤ '9') && ! c.isAlpha
  let negative := x.isNegative && ! (f.noNegativeZero && isZero)
  let cs := body.toList ++ if isPercent then ['%'] else []
  let whole := cs.takeWhile Char.isDigit
  return f.layOut negative "" whole (cs.drop whole.length) 3

def ofInteger (f : Format) (n : Int) (className : String) : Except Mishap String := do
  let type := f.type.getD 'd'
  if "eEfFgG%".toList.contains type then
    match Binary64.ofInt n with
    | .infinite _ => throw .largeInteger
    | x => f.ofReal x className
  else
    if ! "bcdoxXn".toList.contains type then throw (unknownCode type className)
    if f.precision.isSome then
      throw (wrong "Precision not allowed in integer format specifier")
    if f.noNegativeZero then
      throw (wrong "Negative zero coercion (z) not allowed in integer format specifier")
    if type = 'c' then
      if f.sign ≠ '\x00' then
        throw (wrong "Sign not allowed with integer format specifier 'c'")
      if f.alternate then
        throw (wrong "Alternate form (#) not allowed with integer format specifier 'c'")
      if n < 0 ∨ 0x110000 ≤ n then
        throw ⟨"OverflowError", "%c arg not in range(0x110000)"⟩
      return f.pad '<' "" (Text.ofCode n.toNat).toString
    else
      let (base, lead, size) : Nat × String × Nat := match type with
        | 'b' => (2, "0b", 4)
        | 'o' => (8, "0o", 4)
        | 'x' => (16, "0x", 4)
        | 'X' => (16, "0X", 4)
        | _ => (10, "", 3)
      let digits := inBase base n.natAbs
      let digits := if type = 'X' then digits.map Char.toUpper else digits
      return f.layOut (n < 0) (if f.alternate then lead else "") digits [] size

end Format
end RouteDocs.Module
