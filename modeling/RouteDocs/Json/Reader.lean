import RouteDocs.Json

/-!
# Reading JSON text

* `Json.readText`: the characters up to the closing quote, escapes undone;
* `Json.readValue`: the value at the start of a text, and what follows it;
* `Json.read?`: the value of a whole text.

Each function gives the characters it leaves. A value needs at least one character, so a text of
`n` characters is read with `n` as the bound on the depth of the recursion.
-/

namespace RouteDocs.Json

def hexValue? (c : Char) : Option Nat :=
  if '0' ≤ c ∧ c ≤ '9' then some (c.toNat - 48)
  else if 'a' ≤ c ∧ c ≤ 'f' then some (c.toNat - 87)
  else if 'A' ≤ c ∧ c ≤ 'F' then some (c.toNat - 55)
  else none

def hexUnit? (a b c d : Char) : Option Nat := do
  let a ← hexValue? a
  let b ← hexValue? b
  let c ← hexValue? c
  let d ← hexValue? d
  return ((a * 16 + b) * 16 + c) * 16 + d

/-- The character of a unit that is no surrogate. -/
def charOfUnit? (n : Nat) : Option Char :=
  if 0xD800 ≤ n ∧ n < 0xE000 then none else some (.ofNat n)

/-- The character that a high and a low surrogate encode together. -/
def charOfPair? (high low : Nat) : Option Char :=
  if 0xD800 ≤ high ∧ high < 0xDC00 ∧ 0xDC00 ≤ low ∧ low < 0xE000 then
    some (.ofNat (0x10000 + (high - 0xD800) * 0x400 + (low - 0xDC00)))
  else none

/-- The character that follows a backslash in a one-character escape. -/
def shortEscape? (c : Char) : Option Char :=
  if c = '"' ∨ c = '\\' ∨ c = '/' then some c
  else if c = 'b' then some (.ofNat 8)
  else if c = 't' then some '\t'
  else if c = 'n' then some '\n'
  else if c = 'f' then some (.ofNat 12)
  else if c = 'r' then some '\r'
  else none

/-- The characters before the closing quote, escapes undone, and what follows the quote. -/
def readText : List Char → Option (List Char × List Char)
  | [] => none
  | '"' :: rest => some ([], rest)
  | '\\' :: 'u' :: a :: b :: c :: d :: '\\' :: 'u' :: e :: f :: g :: h :: rest =>
    match hexUnit? a b c d, hexUnit? e f g h with
    | some first, some second =>
      match charOfPair? first second with
      | some ch => (readText rest).map fun (cs, left) => (ch :: cs, left)
      | none => do
        let ch ← charOfUnit? first
        let (cs, left) ← readText ('\\' :: 'u' :: e :: f :: g :: h :: rest)
        return (ch :: cs, left)
    | _, _ => none
  | '\\' :: 'u' :: a :: b :: c :: d :: rest => do
    let ch ← charOfUnit? (← hexUnit? a b c d)
    let (cs, left) ← readText rest
    return (ch :: cs, left)
  | '\\' :: c :: rest => do
    let ch ← shortEscape? c
    let (cs, left) ← readText rest
    return (ch :: cs, left)
  | c :: rest =>
    if c = '\\' ∨ c.toNat < 0x20 then none
    else (readText rest).map fun (cs, left) => (c :: cs, left)

def isSpace (c : Char) : Bool := c == ' ' || c == '\t' || c == '\n' || c == '\r'

def skipSpace (cs : List Char) : List Char := cs.dropWhile isSpace

def isNumberChar (c : Char) : Bool :=
  c.isDigit || c == '-' || c == '+' || c == '.' || c == 'e' || c == 'E'

/-- Whether the characters are a fraction or nothing, and then an exponent or nothing. -/
def endsNumber (cs : List Char) : Bool :=
  let exponent : List Char → Bool
    | [] => true
    | c :: rest =>
      (c == 'e' || c == 'E') &&
        let digits := match rest with
          | '+' :: ds => ds
          | '-' :: ds => ds
          | ds => ds
        ! digits.isEmpty && digits.all Char.isDigit
  match cs with
  | '.' :: rest =>
    ! (rest.takeWhile Char.isDigit).isEmpty && exponent (rest.dropWhile Char.isDigit)
  | rest => exponent rest

/-- Whether the characters spell a number: a sign or none, an integer without needless zeros, and
then a fraction and an exponent, or not. -/
def isNumber (cs : List Char) : Bool :=
  let unsigned := match cs with
    | '-' :: rest => rest
    | rest => rest
  match unsigned with
  | '0' :: rest => endsNumber rest
  | c :: rest => c.isDigit && endsNumber (rest.dropWhile Char.isDigit)
  | [] => false

mutual

/-- The value at the start of the text and what follows it. -/
def readValue : Nat → List Char → Option (Json × List Char)
  | 0, _ => none
  | fuel + 1, cs =>
    match skipSpace cs with
    | 'n' :: 'u' :: 'l' :: 'l' :: rest => some (.null, rest)
    | 't' :: 'r' :: 'u' :: 'e' :: rest => some (.bool true, rest)
    | 'f' :: 'a' :: 'l' :: 's' :: 'e' :: rest => some (.bool false, rest)
    | '"' :: rest => (readText rest).map fun (s, left) => (.text (.ofList s), left)
    | '[' :: rest =>
      match skipSpace rest with
      | ']' :: left => some (.array [], left)
      | _ => (readItems fuel rest).map fun (items, left) => (.array items, left)
    | '{' :: rest =>
      match skipSpace rest with
      | '}' :: left => some (.object [], left)
      | _ => (readMembers fuel rest).map fun (members, left) => (.object members, left)
    | other =>
      let spelling := other.takeWhile isNumberChar
      if isNumber spelling then some (.number (.ofList spelling), other.dropWhile isNumberChar)
      else none

/-- The values up to the closing bracket of an array that is not empty. -/
def readItems : Nat → List Char → Option (List Json × List Char)
  | 0, _ => none
  | fuel + 1, cs => do
    let (item, rest) ← readValue fuel cs
    match skipSpace rest with
    | ',' :: more =>
      let (items, left) ← readItems fuel more
      return (item :: items, left)
    | ']' :: left => return ([item], left)
    | _ => none

/-- The members up to the closing brace of an object that is not empty. -/
def readMembers : Nat → List Char → Option (List (String × Json) × List Char)
  | 0, _ => none
  | fuel + 1, cs => do
    match skipSpace cs with
    | '"' :: quoted =>
      let (key, rest) ← readText quoted
      match skipSpace rest with
      | ':' :: rest =>
        let (value, rest) ← readValue fuel rest
        match skipSpace rest with
        | ',' :: more =>
          let (members, left) ← readMembers fuel more
          return ((.ofList key, value) :: members, left)
        | '}' :: left => return ([(.ofList key, value)], left)
        | _ => none
      | _ => none
    | _ => none

end

/-- The value that a whole text spells. -/
def read? (s : String) : Option Json := do
  let cs := s.toList
  let (value, rest) ← readValue (cs.length + 1) cs
  if (skipSpace rest).isEmpty then return value else none

-- white space between the tokens counts for nothing
example : read? "[null, \x7b\"a\" : 10\x7d]\n" =
    some (.array [.null, .object [("a", .number "10")]]) := by cbv

end RouteDocs.Json
