import RouteDocs.Module.Token.Formatted
import RouteDocs.Text.Identifier
import RouteDocs.Text.Numeral

/-!
# Literals of a controller module

* `literal?`: a string literal with its letters and quotes, at the start of a text;
* `number?`: a numeric literal at the start of a text.

A literal is given as a token with the text after it.
-/

namespace RouteDocs.Module

/-- A token and the text after it; `none` when the text is not well formed. -/
abbrev Cut := Option (Token × List Char)

/-- The kinds of string literal. Only a plain one can be documentation. -/
inductive Literal where
  | plain
  | bytes
  | formatted
  deriving DecidableEq, Repr

/-- What the letters before a quote say about a literal. -/
structure Letters where
  kind : Literal
  isRaw : Bool

/-- The meaning of the letters before a quote. -/
def letters? (s : String) : Option Letters :=
  match s.toLower with
  | "" => some ⟨.plain, false⟩
  | "u" => some ⟨.plain, false⟩
  | "r" => some ⟨.plain, true⟩
  | "b" => some ⟨.bytes, false⟩
  | "br" => some ⟨.bytes, true⟩
  | "rb" => some ⟨.bytes, true⟩
  | "f" => some ⟨.formatted, false⟩
  | "fr" => some ⟨.formatted, true⟩
  | "rf" => some ⟨.formatted, true⟩
  | _ => none

/-- The characters up to the closing quotes, and what follows those. A backslash keeps the character
after it from closing. A literal between single quotes ends with its line. -/
def body? (quote : Char) (isTriple : Bool) : List Char → Option (List Char × List Char)
  | [] => none
  | c :: rest =>
    if c == quote && (! isTriple || rest.take 2 == [quote, quote]) then
      some ([], if isTriple then rest.drop 2 else rest)
    else if c = '\n' ∧ ! isTriple then none
    else if c = '\\' then
      match rest with
      | [] => none
      | d :: more => (body? quote isTriple more).map fun (cs, left) => (c :: d :: cs, left)
    else (body? quote isTriple rest).map fun (cs, left) => (c :: cs, left)

/-- The literal with this body between its quotes. -/
def literalOf? (l : Letters) (body : List Char) : Option Token :=
  match l.kind with
  | .formatted => (pieces? l.isRaw body).map .formatted
  | .plain => do
    let chars ← if l.isRaw then some body else unescape? false body
    return .text (.ofList chars)
  | .bytes =>
    if body.any (128 ≤ ·.toNat) then none
    else do
      let chars ← if l.isRaw then some body else unescape? true body
      return .bytes (chars.map fun c => .ofNat c.toNat)

/-- The string literal whose opening quote starts the text. -/
def literal? (l : Letters) (cs : List Char) : Cut :=
  match cs with
  | q :: rest => do
    let isTriple := rest.take 2 == [q, q]
    let (body, left) ← body? q isTriple (if isTriple then rest.drop 2 else rest)
    return ((literalOf? l body).getD (.bad .literal), left)
  | [] => none

/-- Digits in groups, with a single mark between two groups, and what follows them. -/
def groupedDigits (p : Char → Bool) : List Char → List Char × List Char
  | [] => ([], [])
  | '_' :: c :: rest =>
    if p c then
      let (ds, left) := groupedDigits p rest
      (c :: ds, left)
    else ([], '_' :: c :: rest)
  | c :: rest =>
    if p c then
      let (ds, left) := groupedDigits p rest
      (c :: ds, left)
    else ([], c :: rest)

/-- The digits at the start of a text, the first without a mark before it. -/
def digits? (p : Char → Bool) (cs : List Char) : Option (List Char × List Char) :=
  match cs with
  | c :: _ => if p c then some (groupedDigits p cs) else none
  | [] => none

/-- The number that digits of a base spell. -/
def natOf (base : Nat) (ds : List Char) : Nat :=
  ds.foldl (fun n c => n * base + (hexValue? c).getD 0) 0

/-- Whether a number ends well here: no character of a name may follow, save at the start of a word
that can stand after a number. -/
def numberEnds (rest : List Char) : Bool :=
  match rest with
  | [] => true
  | c :: _ =>
    ! continues c ||
      ["and", "else", "for", "if", "in", "is", "not", "or"].any fun w =>
        w.toList.isPrefixOf rest
where
  /-- A character that could go on a name. -/
  continues (c : Char) : Bool := Text.isIdentifierChar c || 0x80 ≤ c.toNat

/-- The token of an integer, which may not have too many decimal digits. -/
def integerOf (ds : List Char) : Token :=
  if Numeral.mostDigits < ds.length then .bad .literal else .int (natOf 10 ds)

/-- A number of a base after the two characters that announce it. -/
def basedNumber? (base : Nat) (p : Char → Bool) (cs : List Char) : Cut := do
  let cs := match cs with
    | '_' :: rest => rest
    | rest => rest
  let (ds, rest) ← digits? p cs
  if numberEnds rest then some (.int (natOf base ds), rest) else none

/-- The text after an exponent, if there is one; `none` if it has no digits. -/
def afterExponent (cs : List Char) : Option (Bool × List Char) :=
  match cs with
  | e :: rest =>
    if e = 'e' ∨ e = 'E' then
      let (signed, digits) := match rest with
        | '+' :: ds => (true, ds)
        | '-' :: ds => (true, ds)
        | ds => (false, ds)
      match digits? Char.isDigit digits with
      | some (_, left) => some (true, left)
      | none =>
        if signed || ! numberEnds cs then none else some (false, cs)
    else some (false, cs)
  | [] => some (false, [])

/-- A decimal number whose whole part has been read: a fraction, an exponent and the letter of an
imaginary number may follow. `start` is the text from its first digit on. -/
def decimalTail? (whole start cs : List Char) : Cut := do
  let (hasPoint, rest) := match cs with
    | '.' :: more => (true, (groupedDigits Char.isDigit more).2)
    | more => (false, more)
  let (hasExponent, rest) ← afterExponent rest
  let written := (start.take (start.length - rest.length)).filter (· ≠ '_')
  let value := (Numeral.real? (.ofList written)).getD .nan
  let (isImaginary, rest) := match rest with
    | 'j' :: more => (true, more)
    | 'J' :: more => (true, more)
    | more => (false, more)
  if ! numberEnds rest then none
  else if isImaginary then some (.imaginary value, rest)
  else if hasPoint || hasExponent then some (.float value, rest)
  else if whole.head? = some '0' then if natOf 10 whole = 0 then some (.int 0, rest) else none
  else some (integerOf whole, rest)

/-- The number that starts the text. -/
def number? (cs : List Char) : Cut :=
  match cs with
  | '0' :: c :: rest =>
    if c = 'x' ∨ c = 'X' then basedNumber? 16 (fun d => (hexValue? d).isSome) rest
    else if c = 'o' ∨ c = 'O' then basedNumber? 8 (fun d => '0' ≤ d && d ≤ '7') rest
    else if c = 'b' ∨ c = 'B' then basedNumber? 2 (fun d => d == '0' || d == '1') rest
    else
      let (ds, left) := groupedDigits Char.isDigit cs
      decimalTail? ds cs left
  | '.' :: _ => decimalTail? [] cs cs
  | _ =>
    let (ds, left) := groupedDigits Char.isDigit cs
    decimalTail? ds cs left

end RouteDocs.Module
