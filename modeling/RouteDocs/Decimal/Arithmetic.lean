import RouteDocs.Decimal.Binary64

namespace RouteDocs.Binary64

def sub (x y : Binary64) : Binary64 := x.add y.neg

def zero (negative : Bool) : Binary64 := .finite negative 0 leastExponent

/-- The exact quotient, rounded. A divisor that is zero gives what is infinite. -/
def div (x y : Binary64) : Binary64 :=
  let negative := x.isNegative != y.isNegative
  match x.ratio?, y.ratio? with
  | some (a, b), some (c, d) =>
    if c = 0 then if a = 0 then .nan else .infinite negative
    else ofRatio negative (a.natAbs * d) (b * c.natAbs)
  | none, some _ => if x = .nan then .nan else .infinite negative
  | some _, none => if y = .nan then .nan else zero negative
  | none, none => .nan

def abs (x : Binary64) : Binary64 := if x.isNegative then x.neg else x

def withSign (negative : Bool) (x : Binary64) : Binary64 :=
  if x.isNegative == negative then x else x.neg

/-- The number of a fraction with a sign for zero. -/
def ofFraction (n : Int) (d : Nat) (negativeZero : Bool) : Binary64 :=
  ofRatio (if n = 0 then negativeZero else decide (n < 0)) n.natAbs d

/-- The remainder of a division, which has the sign of the divisor. -/
def modulo (x y : Binary64) : Binary64 :=
  match x.ratio?, y.ratio? with
  | some (a, b), some (c, d) =>
    if c = 0 then .nan
    else ofFraction ((a * d).fmod (c * b)) (b * d) y.isNegative
  | some (a, _), none =>
    if y = .nan then .nan
    else if a = 0 then zero y.isNegative
    else if x.isNegative == y.isNegative then x
    else y
  | none, _ => .nan

/-- The greatest integer up to a finite number. -/
def floor? (x : Binary64) : Option Int := x.ratio?.map fun (n, d) => n.fdiv d

/-- The integer part of a finite number. -/
def truncate? (x : Binary64) : Option Int := x.ratio?.map fun (n, d) => n.tdiv d

/-- The quotient of a division that leaves the remainder of `modulo`. -/
def floorDiv (x y : Binary64) : Binary64 :=
  let quotient := (x.sub (x.modulo y)).div y
  match quotient.ratio? with
  | none => quotient
  | some (n, d) =>
    if n = 0 then zero (x.isNegative != y.isNegative)
    else
      let below := n.fdiv d
      let above : Bool := decide (d < 2 * (n - below * d))
      ofFraction (if above then below + 1 else below) 1 quotient.isNegative

/-- The integer nearest to a fraction, a tie going to the even one. -/
def roundFraction (n : Int) (d : Nat) : Int :=
  let nearest : Int := roundDiv n.natAbs d
  if n < 0 then -nearest else nearest

/-- The integer nearest to a finite number, a tie going to the even one. -/
def round? (x : Binary64) : Option Int := x.ratio?.map fun (n, d) => roundFraction n d

/-- The number with so many decimal places that is nearest to a number. -/
def roundTo (x : Binary64) (places : Int) : Binary64 :=
  match x.ratio? with
  | none => x
  | some (n, d) =>
    if places > 330 then x
    else if places < -330 then zero x.isNegative
    else
      let up : Nat := Nat.pow 10 places.toNat
      let down : Nat := Nat.pow 10 (-places).toNat
      ofFraction (roundFraction (n * up) (d * down) * down) up x.isNegative

/-- The order of two numbers, if both are numbers. -/
def compare (x y : Binary64) : Option Ordering :=
  match x.ratio?, y.ratio? with
  | some (a, b), some (c, d) => some (Ord.compare (a * d) (c * b))
  | some _, none =>
    match y with
    | .infinite negative => some (if negative then .gt else .lt)
    | _ => none
  | none, some _ =>
    match x with
    | .infinite negative => some (if negative then .lt else .gt)
    | _ => none
  | none, none =>
    match x, y with
    | .infinite a, .infinite b =>
      some (if a == b then .eq else if a then .lt else .gt)
    | _, _ => none

def compareInt (x : Binary64) (m : Int) : Option Ordering :=
  match x with
  | .nan => none
  | .infinite negative => some (if negative then .lt else .gt)
  | _ => x.ratio?.map fun (n, d) => Ord.compare n (m * d)

/-- The number as the machine holds it. -/
def toFloat : Binary64 → Float
  | .nan => 0.0 / 0.0
  | .infinite negative => if negative then -1.0 / 0.0 else 1.0 / 0.0
  | .finite negative mantissa exponent =>
    let x := (Float.ofNat mantissa).scaleB exponent
    if negative then -x else x

/-- A number that the machine holds. -/
def ofFloat (x : Float) : Binary64 :=
  let bits := x.toBits.toNat
  let negative : Bool := decide (Nat.pow 2 63 ≤ bits)
  let biased : Nat := bits / Nat.pow 2 52 % Nat.pow 2 11
  let fraction : Nat := bits % Nat.pow 2 52
  if biased = Nat.pow 2 11 - 1 then if fraction = 0 then .infinite negative else .nan
  else if biased = 0 then .finite negative fraction leastExponent
  else .finite negative (Nat.pow 2 52 + fraction) ((biased : Int) - 1075)

def power (x y : Binary64) : Binary64 := ofFloat (x.toFloat.pow y.toFloat)

end RouteDocs.Binary64
