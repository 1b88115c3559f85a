namespace RouteDocs

/-- A finite number is `mantissa · 2 ^ exponent` with its sign, where the mantissa has at most 53
bits and the exponent is at least -1074; a zero has a sign too. -/
inductive Binary64 where
  | finite (negative : Bool) (mantissa : Nat) (exponent : Int)
  | infinite (negative : Bool)
  | nan
  deriving DecidableEq, Repr, Inhabited

namespace Binary64

def leastExponent : Int := -1074

def greatestExponent : Int := 971

/-- The fraction `num / den` in units of `2 ^ exponent`, as a numerator and a denominator. -/
def scale (num den : Nat) (exponent : Int) : Nat × Nat :=
  (num * Nat.pow 2 (-exponent).toNat, den * Nat.pow 2 exponent.toNat)

/-- The integer nearest to `num / den`, a tie going to the even one. -/
def roundDiv (num den : Nat) : Nat :=
  let quotient := num / den
  let twice := 2 * (num % den)
  if twice < den ∨ (twice = den ∧ quotient % 2 = 0) then quotient else quotient + 1

/-- The exponent of the unit in the last place of the number that `num / den` rounds to. -/
def unitExponent (num den : Nat) : Int :=
  let guess := max ((num.log2 : Int) - den.log2 - 52) leastExponent
  let (n, d) := scale num den guess
  if n / d < Nat.pow 2 52 then max (guess - 1) leastExponent else guess

/-- The number nearest to `num / den`, where `den` is positive. -/
def ofRatio (negative : Bool) (num den : Nat) : Binary64 :=
  if num = 0 then .finite negative 0 leastExponent
  else
    let exponent := unitExponent num den
    let (n, d) := scale num den exponent
    let mantissa := roundDiv n d
    let (mantissa, exponent) :=
      if mantissa = Nat.pow 2 53 then (Nat.pow 2 52, exponent + 1) else (mantissa, exponent)
    if exponent > greatestExponent then .infinite negative
    else .finite negative mantissa exponent

/-- The number nearest to `digits · 10 ^ exponent`. A value of more than 310 digits is infinite
and one below `10 ^ -330` is zero, so no large power is computed for them. -/
def ofDecimal (negative : Bool) (digits : Nat) (exponent : Int) : Binary64 :=
  let order := ((Nat.toDigits 10 digits).length : Int) + exponent
  if digits = 0 ∨ order < -330 then .finite negative 0 leastExponent
  else if order > 310 then .infinite negative
  else ofRatio negative (digits * Nat.pow 10 exponent.toNat) (Nat.pow 10 (-exponent).toNat)

def ofInt (n : Int) : Binary64 := ofRatio (n < 0) n.natAbs 1

/-- The exact value of a finite number as a signed numerator and a denominator. -/
def ratio? : Binary64 → Option (Int × Nat)
  | .finite negative mantissa exponent =>
    let (n, d) := scale mantissa 1 (-exponent)
    some (if negative then -(n : Int) else n, d)
  | _ => none

/-- The integer that the number is exactly, if it is one. -/
def toInt? (x : Binary64) : Option Int :=
  match x.ratio? with
  | some (n, d) => if n % (d : Int) = 0 then some (n / (d : Int)) else none
  | none => none

def neg : Binary64 → Binary64
  | .finite negative mantissa exponent => .finite (! negative) mantissa exponent
  | .infinite negative => .infinite (! negative)
  | .nan => .nan

def isNegative : Binary64 → Bool
  | .finite negative _ _ => negative
  | .infinite negative => negative
  | .nan => false

/-- The exact sum, rounded. A sum that is zero has the negative sign only if both numbers have. -/
def add (x y : Binary64) : Binary64 :=
  match x.ratio?, y.ratio? with
  | some (a, b), some (c, d) =>
    let n := a * d + c * b
    let negative := if n = 0 then x.isNegative && y.isNegative else decide (n < 0)
    ofRatio negative n.natAbs (b * d)
  | some _, none => y
  | none, some _ => x
  | none, none => if x = y then x else .nan

def mul (x y : Binary64) : Binary64 :=
  let negative := x.isNegative != y.isNegative
  match x, y with
  | .finite _ m e, .finite _ n f =>
    let (num, den) := scale (m * n) 1 (-(e + f))
    ofRatio negative num den
  | .nan, _ => .nan
  | _, .nan => .nan
  | .finite _ 0 _, .infinite _ => .nan
  | .infinite _, .finite _ 0 _ => .nan
  | _, _ => .infinite negative

def isZero : Binary64 → Bool
  | .finite _ 0 _ => true
  | _ => false

end Binary64
end RouteDocs
