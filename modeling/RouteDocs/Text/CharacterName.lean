import RouteDocs.Text.CharacterName.Table

namespace RouteDocs.Text

/-- The value of a hexadecimal digit, in capitals. -/
def capitalHexValue? (c : Char) : Option Nat :=
  if c.isDigit then some (c.toNat - 48)
  else if 'A' ≤ c ∧ c ≤ 'F' then some (c.toNat - 55)
  else none

/-- The number that hexadecimal digits in capitals spell. -/
def capitalHexNumber? (cs : List Char) : Option Nat :=
  cs.foldlM (fun n c => (capitalHexValue? c).map (n * 16 + ·)) 0

/-- What the next character of a table belongs to. -/
inductive NamePart where
  | code
  | shared
  | rest
  deriving DecidableEq

/-- The search of a name in a table: the entry that is being read, with its code, the number of
characters it shares with the name before it, and its own name so far, read backwards; and the code
that has been found. -/
structure NameSearch where
  part : NamePart
  code : Nat
  shared : Nat
  name : List Char
  found : Option Nat

namespace NameSearch

def start : NameSearch := ⟨.rest, 0, 0, [], none⟩

/-- The search at the end of an entry. -/
def close (wanted : List Char) (s : NameSearch) : NameSearch :=
  if s.found.isNone && s.name == wanted then { s with found := some s.code } else s

/-- The search after a small letter that starts an entry or goes on with the number of shared
characters. The letter `z` stands for twenty-five and goes on. -/
def share (c : Char) (s : NameSearch) (sum : Nat) : NameSearch :=
  let sum := sum + (c.toNat - 97)
  if c = 'z' then { s with part := .shared, shared := sum }
  else { s with part := .rest, name := s.name.drop (s.name.length - sum), shared := 0 }

/-- The search after one more character of the table. `wanted` is the name, read backwards. -/
def step (wanted : List Char) (s : NameSearch) (c : Char) : NameSearch :=
  if s.found.isSome then s
  else
    match s.part with
    | .code =>
      match capitalHexValue? c with
      | some d => { s with code := s.code * 16 + d }
      | none => s.share c 0
    | .shared => s.share c s.shared
    | .rest =>
      if c = '!' then { s.close wanted with part := .code, code := 0 }
      else if c.isLower then
        let s := s.close wanted
        if s.found.isSome then s else { s with code := s.code + 1 }.share c 0
      else { s with name := c :: s.name }

/-- The code of a name in a table. -/
def run (table : String) (name : List Char) : Option Nat :=
  let wanted := name.reverse
  ((table.foldl (step wanted) start).close wanted).found

end NameSearch

/-- The ideographs whose names are made of their codes. -/
def ideographRanges : List (Nat × Nat) := [
  (0x3400, 0x4DBF), (0x4E00, 0x9FFF), (0x20000, 0x2A6DF), (0x2A700, 0x2B738), (0x2B740, 0x2B81D),
  (0x2B820, 0x2CEA1), (0x2CEB0, 0x2EBE0), (0x30000, 0x3134A)]

/-- What follows a text at the start of another. -/
def after? (start s : List Char) : Option (List Char) :=
  if start.isPrefixOf s then some (s.drop start.length) else none

/-- The code of the ideograph with a name. -/
def ideograph? (name : List Char) : Option Nat := do
  let digits ← after? "CJK UNIFIED IDEOGRAPH-".toList name
  let code ← capitalHexNumber? digits
  let isCode := (digits.length == 4 || digits.length == 5) &&
    ideographRanges.any fun (first, last) => first ≤ code && code ≤ last
  if isCode then some code else none

/-- The letters that can start a syllable, stand in its middle, and end it. -/
def syllableLeads : List String := [
  "G", "GG", "N", "D", "DD", "R", "M", "B", "BB", "S", "SS", "", "J", "JJ", "C", "K", "T", "P", "H"]

/-- The letters that can stand in the middle of a syllable. -/
def syllableVowels : List String := [
  "A", "AE", "YA", "YAE", "EO", "E", "YEO", "YE", "O", "WA", "WAE", "OE", "YO", "U", "WEO", "WE",
  "WI", "YU", "EU", "YI", "I"]

/-- The letters that can end a syllable. -/
def syllableEnds : List String := [
  "", "G", "GG", "GS", "N", "NJ", "NH", "D", "L", "LG", "LM", "LB", "LS", "LT", "LP", "LH", "M",
  "B", "BS", "S", "SS", "NG", "J", "C", "K", "T", "P", "H"]

/-- The place of the longest of some texts that starts another, and what follows it there. -/
def longest? (texts : List String) (cs : List Char) : Option (Nat × List Char) :=
  let fits := (texts.zipIdx.filter fun (t, _) => t.toList.isPrefixOf cs)
  let best := fits.foldl (fun (best : Option (String × Nat)) t =>
    match best with
    | some b => if b.1.length < t.1.length then some t else best
    | none => some t) none
  best.map fun (t, place) => (place, cs.drop t.length)

/-- The code of the syllable with a name, which is made of the names of its letters. -/
def syllable? (name : List Char) : Option Nat := do
  let letters ← after? "HANGUL SYLLABLE ".toList name
  let (lead, rest) ← longest? syllableLeads letters
  let (vowel, rest) ← longest? syllableVowels rest
  let (tail, rest) ← longest? syllableEnds rest
  if rest.isEmpty then some (0xAC00 + (lead * 21 + vowel) * 28 + tail) else none

/-- The character with a name. In the names of the tables, small letters are as good as capitals. -/
def characterNamed? (name : List Char) : Option Char :=
  let capitals := name.map Char.toUpper
  let code := (syllable? name).or ((ideograph? name).or ((NameSearch.run characterNames capitals).or
    (NameSearch.run characterAliases capitals)))
  code.map Char.ofNat

end RouteDocs.Text
