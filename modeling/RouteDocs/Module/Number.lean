import RouteDocs.Decimal.Arithmetic
import RouteDocs.Decimal.Shortest

namespace RouteDocs.Module

/-- An integer, a real or a complex number. -/
inductive Number where
  | int (n : Int)
  | float (x : Binary64)
  | complex (re im : Binary64)
  deriving DecidableEq, Repr, Inhabited

/-- Why an operator has no result: the exception that this raises, and its message. -/
structure Mishap where
  className : String
  message : String
  deriving DecidableEq, Repr

namespace Mishap

def zeroDivision (message : String) : Mishap := ⟨"ZeroDivisionError", message⟩

def largeInteger : Mishap := ⟨"OverflowError", "int too large to convert to float"⟩

def largeResult : Mishap := ⟨"OverflowError", "(34, 'Numerical result out of range')"⟩

end Mishap

namespace Number

def realZero : Binary64 := Binary64.zero false

def realOf (n : Int) : Except Mishap Binary64 :=
  match Binary64.ofInt n with
  | .infinite _ => .error .largeInteger
  | x => .ok x

/-- An integer as a natural number of `2 ^ width` values, the negative ones at the end. -/
def wrapped (width : Nat) (n : Int) : Nat := (n % (Nat.pow 2 width : Nat)).toNat

/-- The result of an operation on the bits of two integers. -/
def onBits (f : Nat → Nat → Nat) (m n : Int) : Int :=
  let width := max m.natAbs.log2 n.natAbs.log2 + 2
  let bits := f (wrapped width m) (wrapped width n) % Nat.pow 2 width
  if bits < Nat.pow 2 (width - 1) then bits else (bits : Int) - (Nat.pow 2 width : Nat)

def mostBits : Nat := Nat.pow 2 27

def ofQuotient (m n : Int) : Except Mishap Number :=
  if n = 0 then .error (.zeroDivision "division by zero")
  else
    match Binary64.ofRatio ((m < 0) != (n < 0)) m.natAbs n.natAbs with
    | .infinite _ =>
      .error ⟨"OverflowError", "integer division result too large for a float"⟩
    | x => .ok (.float (if m = 0 then .zero (decide (n < 0)) else x))

def realPower (x y : Binary64) : Except Mishap Number :=
  let isWhole := y.toInt?.isSome || y matches .infinite _
  if x.isZero && y.isNegative && ! y.isZero then
    .error (.zeroDivision "0.0 cannot be raised to a negative power")
  else if x.isNegative && ! x.isZero && ! isWhole && ! (x matches .infinite _) &&
      ! (y matches .nan) then
    let length := x.abs.power y
    let phase := (3.141592653589793 : Float) * y.toFloat
    .ok (.complex (.ofFloat (length.toFloat * phase.cos)) (.ofFloat (length.toFloat * phase.sin)))
  else
    match x.power y, x, y with
    | .infinite _, .finite .., .finite .. => .error .largeResult
    | z, _, _ => .ok (.float z)

/-- The result of an operator on two integers, if it has one. -/
def ofIntegers (operator : String) (m n : Int) : Except Mishap (Option Number) :=
  match operator with
  | "+" => .ok (some (.int (m + n)))
  | "-" => .ok (some (.int (m - n)))
  | "*" => .ok (some (.int (m * n)))
  | "/" => (ofQuotient m n).map some
  | "//" =>
    if n = 0 then .error (.zeroDivision "integer division or modulo by zero")
    else .ok (some (.int (m.fdiv n)))
  | "%" =>
    if n = 0 then .error (.zeroDivision "integer modulo by zero")
    else .ok (some (.int (m.fmod n)))
  | "**" =>
    if 0 ≤ n then
      if mostBits < (m.natAbs.log2 + 1) * n.toNat ∧ 1 < m.natAbs then .error ⟨"MemoryError", ""⟩
      else .ok (some (.int (Int.pow m n.toNat)))
    else do return some (← realPower (← realOf m) (← realOf n))
  | "<<" =>
    if n < 0 then .error ⟨"ValueError", "negative shift count"⟩
    else if m = 0 then .ok (some (.int 0))
    else if (Int.pow 2 63 : Int) ≤ n then .error ⟨"OverflowError", "too many digits in integer"⟩
    else if (mostBits : Int) < n then .error ⟨"MemoryError", ""⟩
    else .ok (some (.int (m * Int.pow 2 n.toNat)))
  | ">>" =>
    if n < 0 then .error ⟨"ValueError", "negative shift count"⟩
    else if (mostBits : Int) < n then .ok (some (.int (if m < 0 then -1 else 0)))
    else .ok (some (.int (m.fdiv (Nat.pow 2 n.toNat : Nat))))
  | "&" => .ok (some (.int (onBits (· &&& ·) m n)))
  | "|" => .ok (some (.int (onBits (· ||| ·) m n)))
  | "^" => .ok (some (.int (onBits (· ^^^ ·) m n)))
  | _ => .ok none

/-- The result of an operator on two real numbers, if it has one. -/
def ofReals (operator : String) (x y : Binary64) : Except Mishap (Option Number) :=
  match operator with
  | "+" => .ok (some (.float (x.add y)))
  | "-" => .ok (some (.float (x.sub y)))
  | "*" => .ok (some (.float (x.mul y)))
  | "/" =>
    if y.isZero then .error (.zeroDivision "float division by zero")
    else .ok (some (.float (x.div y)))
  | "//" =>
    if y.isZero then .error (.zeroDivision "float floor division by zero")
    else .ok (some (.float (x.floorDiv y)))
  | "%" =>
    if y.isZero then .error (.zeroDivision "float modulo")
    else .ok (some (.float (x.modulo y)))
  | "**" => (realPower x y).map some
  | _ => .ok none

def product (a b c d : Binary64) : Binary64 × Binary64 :=
  ((a.mul c).sub (b.mul d), (a.mul d).add (b.mul c))

/-- The quotient of two complex numbers, by the larger part of the divisor. -/
def quotient (a b c d : Binary64) : Option (Binary64 × Binary64) :=
  if c.isZero && d.isZero then none
  else if (d.abs.compare c.abs).any (· ≠ .gt) then
    let ratio := d.div c
    let scale := c.add (d.mul ratio)
    some ((a.add (b.mul ratio)).div scale, (b.sub (a.mul ratio)).div scale)
  else
    let ratio := c.div d
    let scale := (c.mul ratio).add d
    some (((a.mul ratio).add b).div scale, ((b.mul ratio).sub a).div scale)

/-- A complex number raised to an exponent, by its binary digits, the last first. `n` bounds their
number, and `(c, d)` is the power for the next digit. -/
def powerFrom : Nat → Nat → Binary64 × Binary64 → Binary64 × Binary64 → Binary64 × Binary64
  | 0, _, done, _ => done
  | n + 1, exponent, (a, b), (c, d) =>
    if exponent = 0 then (a, b)
    else
      let done := if exponent % 2 = 1 then product a b c d else (a, b)
      powerFrom n (exponent / 2) done (product c d c d)

def one : Binary64 := .ofInt 1

def complexPower (a b c d : Binary64) : Except Mishap Number :=
  let undefined : Except Mishap Number :=
    .error (.zeroDivision "0.0 to a negative or complex power")
  if c.isZero && d.isZero then .ok (.complex one realZero)
  else if a.isZero && b.isZero then
    if ! d.isZero || c.isNegative then undefined else .ok (.complex realZero realZero)
  else
    match if d.isZero then c.toInt? else none with
    | some n =>
      if n.natAbs ≤ 100 then
        let (re, im) := powerFrom 8 n.natAbs (one, realZero) (a, b)
        if 0 ≤ n then .ok (.complex re im)
        else
          match quotient one realZero re im with
          | some (re, im) => .ok (.complex re im)
          | none => undefined
      else polar
    | none => polar
where
  /-- The power by length and angle. -/
  polar : Except Mishap Number :=
    let x := a.toFloat
    let y := b.toFloat
    let size := (x * x + y * y).sqrt
    let angle := Float.atan2 y x
    let length := size.pow c.toFloat / (angle * d.toFloat).exp
    let phase := angle * c.toFloat + (if d.isZero then 0 else d.toFloat * size.log)
    .ok (.complex (.ofFloat (length * phase.cos)) (.ofFloat (length * phase.sin)))

/-- The result of an operator on two complex numbers, if it has one. -/
def ofComplexes (operator : String) (a b c d : Binary64) : Except Mishap (Option Number) :=
  match operator with
  | "+" => .ok (some (.complex (a.add c) (b.add d)))
  | "-" => .ok (some (.complex (a.sub c) (b.sub d)))
  | "*" =>
    let (re, im) := product a b c d
    .ok (some (.complex re im))
  | "/" =>
    match quotient a b c d with
    | some (re, im) => .ok (some (.complex re im))
    | none => .error (.zeroDivision "complex division by zero")
  | "**" => (complexPower a b c d).map some
  | _ => .ok none

/-- The parts of a number as a complex one. -/
def parts : Number → Except Mishap (Binary64 × Binary64)
  | .int n => do return (← realOf n, realZero)
  | .float x => .ok (x, realZero)
  | .complex re im => .ok (re, im)

/-- The operators that real and complex numbers have, too. -/
def realOperators : List String := ["+", "-", "*", "/", "//", "%", "**"]

/-- The result of an operator on two numbers, if it has one. -/
def combine (operator : String) (a b : Number) : Except Mishap (Option Number) :=
  match a, b with
  | .int m, .int n => ofIntegers operator m n
  | .complex .., _ => onComplex
  | _, .complex .. => onComplex
  | .float x, .float y => ofReals operator x y
  | .float x, .int n =>
    if realOperators.contains operator then do ofReals operator x (← realOf n) else .ok none
  | .int m, .float y =>
    if realOperators.contains operator then do ofReals operator (← realOf m) y else .ok none
where
  /-- The result on the numbers as complex ones. -/
  onComplex : Except Mishap (Option Number) :=
    if ["+", "-", "*", "/", "**"].contains operator then do
      let (re, im) ← a.parts
      let (re', im') ← b.parts
      ofComplexes operator re im re' im'
    else .ok none

/-- The order of two numbers, if they have one. -/
def compare : Number → Number → Option Ordering
  | .int m, .int n => some (Ord.compare m n)
  | .float x, .float y => x.compare y
  | .float x, .int n => x.compareInt n
  | .int m, .float y => (y.compareInt m).map Ordering.swap
  | _, _ => none

def equal (a b : Number) : Bool :=
  match a, b with
  | .complex re im, .complex re' im' => re.compare re' == some .eq && im.compare im' == some .eq
  | .complex re im, .float x => im.isZero && re.compare x == some .eq
  | .complex re im, .int n => im.isZero && re.compareInt n == some .eq
  | .float x, .complex re im => im.isZero && re.compare x == some .eq
  | .int n, .complex re im => im.isZero && re.compareInt n == some .eq
  | _, _ => compare a b == some .eq

def isZero : Number → Bool
  | .int n => n == 0
  | .float x => x.isZero
  | .complex re im => re.isZero && im.isZero

def negate : Number → Number
  | .int n => .int (-n)
  | .float x => .float x.neg
  | .complex re im => .complex re.neg im.neg

/-- A part of a complex number, without `.0`. -/
def partText (x : Binary64) : String :=
  let s := DecimalStyle.standard.write x
  let cs := s.toList
  if cs.drop (cs.length - 2) = ['.', '0'] then .ofList (cs.take (cs.length - 2)) else s

def text : Number → String
  | .int n => toString n
  | .float x => DecimalStyle.standard.write x
  | .complex re im =>
    if re.isZero && ! re.isNegative then partText im ++ "j"
    else
      let shown := partText im
      let sign := if im.isNegative then "" else "+"
      "(" ++ partText re ++ sign ++ shown ++ "j)"

end Number
end RouteDocs.Module
