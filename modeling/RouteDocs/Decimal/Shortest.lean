import RouteDocs.Decimal.Binary64

namespace RouteDocs

/-- The decimal number `digits · 10 ^ exponent`. -/
structure DecimalDigits where
  digits : Nat
  exponent : Int
  deriving DecidableEq, Repr, Inhabited

namespace Binary64

/-- The reals that round to `mantissa · 2 ^ exponent`, in units of `2 ^ (exponent - 2)`: the two
ends, which belong to the interval when the mantissa is even. Below a power of two the numbers lie
twice as close, so the lower end is nearer there. -/
def roundingEnds (mantissa : Nat) (exponent : Int) : Nat × Nat :=
  let below := if mantissa = Nat.pow 2 52 ∧ exponent > leastExponent then 1 else 2
  (4 * mantissa - below, 4 * mantissa + 2)

/-- The greatest `k` up to `limit` with `base ^ k · den ≤ num`. -/
def powerBelow (num den : Nat) : Nat → Nat
  | 0 => 0
  | k + 1 => if Nat.pow 10 (k + 1) * den ≤ num then k + 1 else powerBelow num den k

/-- The exponent of the first decimal digit of `num / den`, for a fraction of the format's range. -/
def leadingExponent (num den : Nat) : Int :=
  if den ≤ num then powerBelow num den 310
  else
    let k : Int := powerBelow den num 330
    if Nat.pow 10 k.toNat * num = den then -k else -k - 1

/-- The points `d` and `d + 1` of the grid of `10 ^ unit` around `num / den` that lie between the
two ends, and of both the nearer, a tie going to the even one. All four numbers have the
denominator `den`. -/
def gridPoint? (num den low high : Nat) (closed : Bool) (unit : Int) : Option Nat :=
  let n := num * Nat.pow 10 (-unit).toNat
  let d := den * Nat.pow 10 unit.toNat
  let l := low * Nat.pow 10 (-unit).toNat
  let h := high * Nat.pow 10 (-unit).toNat
  let down := n / d
  let up := down + 1
  let inside (p : Nat) : Bool :=
    if closed then l ≤ p * d && p * d ≤ h else l < p * d && p * d < h
  match inside down, inside up with
  | true, false => some down
  | false, true => some up
  | true, true =>
    let toDown := n - down * d
    let toUp := up * d - n
    if toDown < toUp ∨ (toDown = toUp ∧ down % 2 = 0) then some down else some up
  | false, false => none

/-- A decimal number without trailing zeros in its digits. -/
def dropZeros (digits : Nat) (exponent : Int) : Nat → DecimalDigits
  | 0 => ⟨digits, exponent⟩
  | fuel + 1 =>
    if digits % 10 = 0 ∧ digits ≠ 0 then dropZeros (digits / 10) (exponent + 1) fuel
    else ⟨digits, exponent⟩

/-- The fewest decimal digits that read back as `mantissa · 2 ^ exponent`, and of those the
nearest; seventeen digits always do. -/
def shortestDigits (mantissa : Nat) (exponent : Int) : DecimalDigits :=
  let (low, high) := roundingEnds mantissa exponent
  let quarter := exponent - 2
  let up := Nat.pow 2 quarter.toNat
  let den := Nat.pow 2 (-quarter).toNat
  let num := 4 * mantissa * up
  let leading := leadingExponent num den
  let hit := (List.range 17).findSome? fun (n : Nat) =>
    let unit : Int := leading - n
    (gridPoint? num den (low * up) (high * up) (mantissa % 2 == 0) unit).map fun d => (d, unit)
  match hit with
  | some (d, unit) => dropZeros d unit 20
  | none => ⟨mantissa, 0⟩

end Binary64

/-- How a number is written: from which exponent of the first digit on, and up to which, with a
point alone, and the words for what is not finite. -/
structure DecimalStyle where
  leastPlain : Int
  greatestPlain : Int
  infinity : String
  notANumber : String

namespace DecimalStyle

/-- A number between `10 ^ -4` and `10 ^ 16` is written with a point, and always with a digit
after it; any other with a signed exponent of at least two digits. -/
def standard : DecimalStyle := ⟨-4, 15, "inf", "nan"⟩

/-- An exponent with its sign and at least two digits. -/
def exponentText (e : Int) : String :=
  let digits := toString e.natAbs
  (if e < 0 then "-" else "+") ++ (if digits.length < 2 then "0" ++ digits else digits)

/-- The digits with the point, or with the exponent, that the style asks for. -/
def digitsText (style : DecimalStyle) (d : DecimalDigits) : String :=
  let digits := (toString d.digits).toList
  let leading := (digits.length : Int) - 1 + d.exponent
  if style.leastPlain ≤ leading ∧ leading ≤ style.greatestPlain then
    if leading < 0 then
      "0." ++ .ofList (List.replicate (-leading - 1).toNat '0' ++ digits)
    else
      let whole := leading.toNat + 1
      let padded := digits ++ List.replicate (whole - digits.length) '0'
      let fraction := padded.drop whole
      .ofList (padded.take whole) ++ "." ++ (if fraction.isEmpty then "0" else .ofList fraction)
  else
    .ofList (digits.take 1) ++ (if digits.length = 1 then "" else "." ++ .ofList (digits.drop 1)) ++
      "e" ++ exponentText leading

def write (style : DecimalStyle) : Binary64 → String
  | .nan => style.notANumber
  | .infinite negative => (if negative then "-" else "") ++ style.infinity
  | .finite negative mantissa exponent =>
    (if negative then "-" else "") ++
      (if mantissa = 0 then "0.0" else style.digitsText (Binary64.shortestDigits mantissa exponent))

end DecimalStyle
end RouteDocs
