import RouteDocs.Decimal.Arithmetic
import RouteDocs.Module.Method.Arguments
import RouteDocs.Module.Operator

/-!
# Mathematics

* `Mathematics.ofReal?`: the functions of one real number;
* `Mathematics.function?`: the result of calling a mathematical function.

What has no value, as the root of a negative number, is a `ValueError`; what is too large, as the
exponential of a thousand, an `OverflowError`.
-/

namespace RouteDocs.Module.Mathematics

def realOf (h : Hooks) (o : Object) : Run Binary64 := do
  let w ← get
  match (w.content o).number? with
  | some (.int n) =>
    match Number.realOf n with
    | .ok x => return x
    | .error e => fail e.className e.message
  | some (.float x) => return x
  | some (.complex ..) => fail "TypeError" "must be real number, not complex"
  | none =>
    match ← o.callSpecial? h "__float__" [] with
    | some (.float x) => return x
    | some _ => fail "TypeError" "__float__ returned non-float"
    | none =>
      match ← o.index? h with
      | some n => return .ofInt n
      | none => fail "TypeError" ("must be real number, not " ++ Object.className w o)

/-- Raises that there is no value. -/
def failDomain {α : Type} : Run α := fail "ValueError" "math domain error"

/-- Raises that a value is too large. -/
def failRange {α : Type} : Run α := fail "OverflowError" "math range error"

def isFinite (x : Binary64) : Bool := x matches .finite ..

/-- A result of finite or infinite arguments. One that is no number has no value, and one that is
infinite although the arguments are not is too large or has no value. -/
def checked (arguments : List Binary64) (canOverflow : Bool) (x : Float) : Run Object := do
  let x := Binary64.ofFloat x
  match x with
  | .nan => if arguments.any (· matches .nan) then return .float .nan else failDomain
  | .infinite _ =>
    if ! arguments.all isFinite then return .float x
    else if canOverflow then failRange
    else failDomain
  | _ => return .float x

/-- The functions of one real number, and whether their value can be too large. -/
def ofReal? : String → Option ((Float → Float) × Bool)
  | "acos" => some (Float.acos, false)
  | "acosh" => some (Float.acosh, false)
  | "asin" => some (Float.asin, false)
  | "asinh" => some (Float.asinh, false)
  | "atan" => some (Float.atan, false)
  | "atanh" => some (Float.atanh, false)
  | "cbrt" => some (Float.cbrt, false)
  | "cos" => some (Float.cos, false)
  | "cosh" => some (Float.cosh, true)
  | "exp" => some (Float.exp, true)
  | "exp2" => some (Float.exp2, true)
  | "fabs" => some (Float.abs, false)
  | "log10" => some (Float.log10, false)
  | "log2" => some (Float.log2, false)
  | "sin" => some (Float.sin, false)
  | "sinh" => some (Float.sinh, true)
  | "sqrt" => some (Float.sqrt, false)
  | "tan" => some (Float.tan, false)
  | "tanh" => some (Float.tanh, false)
  | _ => none

/-- The integer next to a real number in one direction. An integer stays what it is, and what says
itself what it is next to does so. -/
def toInteger (h : Hooks) (special : String) (toInt? : Binary64 → Option Int) (o : Object) :
    Run Object := do
  match ← o.callSpecial? h special [] with
  | some result => return result
  | none =>
    match ((← get).content o).number? with
    | some (.int n) => return .int n
    | _ =>
      match ← realOf h o with
      | .nan => fail "ValueError" "cannot convert float NaN to integer"
      | .infinite _ => fail "OverflowError" "cannot convert float infinity to integer"
      | x => return .int ((toInt? x).getD 0)

def mostFactors : Nat := 20000

/-- The product of a number of integers that start at one and go up. -/
def risingProduct (first count : Nat) : Nat :=
  (List.range count).foldl (fun done i => done * (first + i)) 1

/-- An integer that must not be negative. -/
def naturalOf (h : Hooks) (name : String) (o : Object) : Run Nat := do
  if (← get).content o matches .float _ then
    fail "TypeError" "'float' object cannot be interpreted as an integer"
  else
    let n ← o.indexOf h
    if n < 0 then fail "ValueError" (name ++ " not defined for negative values") else return n.toNat

/-- The number of ways to take some of several things in an order, or without one. -/
def selections (h : Hooks) (isOrdered : Bool) (a : Arguments) : Run Object := do
  match ← a.take (if isOrdered then 1 else 2) 2 with
  | [n] => return .int (risingProduct 1 (← naturalOf h "perm()" n))
  | [n, .null] => return .int (risingProduct 1 (← naturalOf h "perm()" n))
  | [n, k] =>
    let _ ← k.indexOf h
    let n ← naturalOf h "n" n
    let k ← naturalOf h "k" k
    if n < k then return .int 0
    else if mostFactors < min k (n - k) then return .unknown
    else if isOrdered then return .int (risingProduct (n - k + 1) k)
    else
      let k := min k (n - k)
      return .int (risingProduct (n - k + 1) k / risingProduct 1 k)
  | _ => return .null

/-- The logarithm of a number, which can be an integer of any size. -/
def logarithm (h : Hooks) (o : Object) : Run Float := do
  match ((← get).content o).number? with
  | some (.int n) =>
    if n ≤ 0 then failDomain
    else
      let shift := n.toNat.log2 - 1000
      return (Float.ofNat (n.toNat / Nat.pow 2 shift)).log + shift.toFloat * (2.0 : Float).log
  | _ =>
    let x ← realOf h o
    if x matches .nan then return x.toFloat
    else if x.isZero || x.isNegative then failDomain
    else return x.toFloat.log

def areClose (h : Hooks) (a : Arguments) : Run Object := do
  match a.placed with
  | [x, y] =>
    let x ← realOf h x
    let y ← realOf h y
    let named (key : String) (default : Float) : Run Float := do
      match a.named.lookup key with
      | some o => return (← realOf h o).toFloat
      | none => return default
    let relative ← named "rel_tol" 1e-9
    let absolute ← named "abs_tol" 0.0
    if relative < 0 || absolute < 0 then fail "ValueError" "tolerances must be non-negative"
    else if x.compare y == some .eq then return .bool true
    else if ! isFinite x || ! isFinite y then return .bool false
    else
      let distance := (x.toFloat - y.toFloat).abs
      return .bool (distance ≤ (relative * y.toFloat).abs || distance ≤ (relative * x.toFloat).abs ||
        distance ≤ absolute)
  | _ => raise "TypeError"

/-- The result of calling a mathematical function; none, if it is not followed. -/
def function? (h : Hooks) (name : String) (a : Arguments) : Option (Run Object) :=
  match ofReal? name with
  | some (f, canOverflow) => some do
    let o ← a.one
    if name = "log2" || name = "log10" then
      let _ ← logarithm h o
    let x ← realOf h o
    checked [x] canOverflow (f x.toFloat)
  | none =>
    match name with
    | "ceil" => some do toInteger h "__ceil__" (fun x => x.neg.floor?.map (- ·)) (← a.one)
    | "floor" => some do toInteger h "__floor__" Binary64.floor? (← a.one)
    | "trunc" => some do toInteger h "__trunc__" Binary64.truncate? (← a.one)
    | "degrees" => some do
      return .float (.ofFloat ((← realOf h (← a.one)).toFloat * (180.0 / 3.141592653589793)))
    | "radians" => some do
      return .float (.ofFloat ((← realOf h (← a.one)).toFloat * (3.141592653589793 / 180.0)))
    | "isnan" => some do return .bool ((← realOf h (← a.one)) matches .nan)
    | "isinf" => some do return .bool ((← realOf h (← a.one)) matches .infinite _)
    | "isfinite" => some do return .bool (isFinite (← realOf h (← a.one)))
    | "gcd" => some do
      return .int ((← a.placed.mapM fun o => o.indexOf h).foldl (fun d n => Int.gcd d n) 0)
    | "lcm" => some do
      return .int ((← a.placed.mapM fun o => o.indexOf h).foldl (fun m n => Int.lcm m n) 1)
    | "factorial" => some do
      let n ← naturalOf h "factorial()" (← a.one)
      if mostFactors < n then return .unknown else return .int (risingProduct 1 n)
    | "isqrt" => some do
      let n ← (← a.one).indexOf h
      if n < 0 then fail "ValueError" "isqrt() argument must be nonnegative"
      else return .int (Nat.sqrt n.toNat)
    | "comb" => some (selections h false a)
    | "perm" => some (selections h true a)
    | "copysign" => some do
      let (x, y) ← a.two
      return .float ((← realOf h x).withSign (← realOf h y).isNegative)
    | "fmod" => some do
      let (x, y) ← a.two
      let x ← realOf h x
      let y ← realOf h y
      if y.isZero || x matches .infinite _ then
        if x matches .nan then return .float .nan else failDomain
      else return .float ((x.abs.modulo y.abs).withSign x.isNegative)
    | "pow" => some do
      let (x, y) ← a.two
      let x ← realOf h x
      let y ← realOf h y
      checked [x, y] (! x.isZero) (x.toFloat.pow y.toFloat)
    | "atan2" => some do
      let (y, x) ← a.two
      return .float (.ofFloat (Float.atan2 (← realOf h y).toFloat (← realOf h x).toFloat))
    | "hypot" => some do
      let squares ← a.placed.mapM fun o => do
        let x := (← realOf h o).toFloat
        return x * x
      return .float (.ofFloat (squares.foldl (· + ·) 0.0).sqrt)
    | "log" => some do
      match ← a.take 1 2 with
      | [x] => return .float (.ofFloat (← logarithm h x))
      | [x, base] =>
        let top ← logarithm h x
        let bottom ← logarithm h base
        if bottom == 0.0 then fail "ZeroDivisionError" "float division by zero"
        else return .float (.ofFloat (top / bottom))
      | _ => return .null
    | "modf" => some do
      let x ← realOf h (← a.one)
      match x.truncate? with
      | some n =>
        let whole := (Binary64.ofInt n).withSign x.isNegative
        return .tuple [.float ((x.sub whole).withSign x.isNegative), .float whole]
      | none =>
        let fraction := if x matches .nan then .nan else (Binary64.zero x.isNegative)
        return .tuple [.float fraction, .float x]
    | "fsum" => some do
      let all ← (← (← a.one).items h).mapM (realOf h)
      match all.mapM Binary64.ratio? with
      | some ratios =>
        let (n, d) := ratios.foldl (fun (n, d) (m, e) => (n * e + m * d, d * e)) ((0 : Int), 1)
        return .float (.ofFraction n d false)
      | none => return .unknown
    | "prod" => some do
      match a.placed with
      | [o] =>
        let start := (a.named.lookup "start").getD (.int 1)
        (← o.items h).foldlM (fun done item => Operator.binary h "*" done item) start
      | _ => raise "TypeError"
    | "isclose" => some (areClose h a)
    | _ => none

end RouteDocs.Module.Mathematics
