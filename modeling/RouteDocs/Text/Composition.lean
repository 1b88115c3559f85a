import RouteDocs.Text.Composition.Table

namespace RouteDocs.Text

/-- A search in a table: the code and the entry that are being read, the entry backwards, and what
has been found. -/
structure EntrySearch (α : Type) where
  code : Nat
  entry : List Nat
  found : Option α

/-- The first thing that an entry of a table gives. -/
def findEntry? {α : Type} (p : List Nat → Option α) (table : String) : Option α :=
  (table.foldl step ⟨0, [], none⟩).found
where
  /-- The search after one more character. -/
  step (s : EntrySearch α) (c : Char) : EntrySearch α :=
    if s.found.isSome then s
    else if c = ' ' then ⟨0, s.code :: s.entry, none⟩
    else if c = ';' then ⟨0, [], p (s.code :: s.entry).reverse⟩
    else { s with code := s.code * 16 + (if c.isDigit then c.toNat - 48 else c.toNat - 55) }

/-- The place of a mark after its character; zero is that of a character which is no mark. -/
def combiningClass (c : Char) : Nat :=
  match combiningClasses.find? fun (first, last, _) => first ≤ c.toNat && c.toNat ≤ last with
  | some (_, _, place) => place
  | none => 0

/-- The first composed syllable of the Korean script, and how many there are. -/
def firstSyllable : Nat := 0xAC00

def syllableCount : Nat := 11172

/-- The letters that a composed syllable is made of. -/
def syllableLetters (n : Nat) : List Char :=
  let lead := Char.ofNat (0x1100 + n / 588)
  let vowel := Char.ofNat (0x1161 + n % 588 / 28)
  if n % 28 = 0 then [lead, vowel] else [lead, vowel, .ofNat (0x11A7 + n % 28)]

/-- What a character is made of, by form or by meaning. -/
def decompose (c : Char) : List Char :=
  let n := c.toNat
  if n < 0x80 then [c]
  else if firstSyllable ≤ n ∧ n < firstSyllable + syllableCount then
    syllableLetters (n - firstSyllable)
  else
    let parts? := decompositions |> findEntry? fun entry =>
      match entry with
      | first :: last :: parts =>
        if first ≤ n ∧ n ≤ last then some (parts.map fun p => Char.ofNat (p + (n - first))) else none
      | _ => none
    parts?.getD [c]

/-- Puts a mark among the marks before it, given backwards, behind those that do not come later. -/
def insertMark (mark : Char) : List Char → List Char
  | [] => [mark]
  | before :: rest =>
    if combiningClass mark < combiningClass before then before :: insertMark mark rest
    else mark :: before :: rest

/-- The characters with the marks after each in their order. `marks` are the last ones, backwards. -/
def orderMarks (marks : List Char) : List Char → List Char
  | [] => marks.reverse
  | c :: cs =>
    if combiningClass c = 0 then marks.reverse ++ c :: orderMarks [] cs
    else orderMarks (insertMark c marks) cs

/-- The character that two others compose. -/
def pair? (a b : Char) : Option Char :=
  let m := a.toNat
  let n := b.toNat
  if 0x1100 ≤ m ∧ m < 0x1113 ∧ 0x1161 ≤ n ∧ n < 0x1176 then
    some (.ofNat (firstSyllable + ((m - 0x1100) * 21 + (n - 0x1161)) * 28))
  else if firstSyllable ≤ m ∧ m < firstSyllable + syllableCount ∧ (m - firstSyllable) % 28 = 0 ∧
      0x11A7 < n ∧ n < 0x11C3 then
    some (.ofNat (m + (n - 0x11A7)))
  else if n < 0x80 then none
  else
    compositions |> findEntry? fun entry =>
      match entry with
      | [first, second, whole] => if first = m ∧ second = n then some (.ofNat whole) else none
      | _ => none

/-- The characters from `head` on, composed. `marks` stand behind it and do not compose with it,
given backwards; a mark of the same place or a later one keeps others from it. -/
def composeFrom (head : Char) (marks : List Char) : List Char → List Char
  | [] => head :: marks.reverse
  | c :: cs =>
    let place := combiningClass c
    let isKept := match marks with
      | [] => false
      | last :: _ => place ≤ combiningClass last
    match if isKept then none else pair? head c with
    | some whole => composeFrom whole marks cs
    | none =>
      if place = 0 then head :: (marks.reverse ++ composeFrom c [] cs)
      else composeFrom head (c :: marks) cs

/-- A text taken apart and composed again. -/
def composed (s : String) : String :=
  if s.toList.all (·.toNat < 0x80) then s
  else
    match orderMarks [] (s.toList.flatMap decompose) with
    | [] => s
    | head :: rest => .ofList (composeFrom head [] rest)

end RouteDocs.Text
