import RouteDocs.Text.Casing.Table

namespace RouteDocs.Text

def inRanges (ranges : List (Nat × Nat)) (n : Nat) : Bool :=
  ranges.any fun (first, last) => first ≤ n && n ≤ last

/-- The character that the first run holding `c` gives, or `c` itself. -/
def mapByRuns (runs : List CaseRun) (c : Char) : Char :=
  match runs.find? (·.holds c.toNat) with
  | some run => .ofNat ((c.toNat : Int) + run.shift).toNat
  | none => c

def upperChar (c : Char) : List Char :=
  match upperExpansions.lookup c.toNat with
  | some codes => codes.map .ofNat
  | none => [mapByRuns upperRuns c]

/-- The lower case of a character that stands alone. -/
def lowerChar (c : Char) : List Char :=
  if c.toNat = 0x130 then ['i', .ofNat 0x307] else [mapByRuns lowerRuns c]

/-- Whether the characters, read away from a letter, meet a cased one before any other that is
not case-ignorable. -/
def meetsCased (cs : List Char) : Bool :=
  match cs.find? fun c => ! inRanges caseIgnorableRanges c.toNat with
  | some c => inRanges casedRanges c.toNat
  | none => false

/-- The lower case of a capital sigma between `before`, read backwards, and `after`: the final
form at the end of a word of more than one letter. -/
def sigma (before after : List Char) : Char :=
  if meetsCased before && ! meetsCased after then .ofNat 0x3C2 else .ofNat 0x3C3

/-- The lower case of a text that `before` precedes, read backwards. -/
def lowerFrom (before : List Char) : List Char → List Char
  | [] => []
  | c :: cs =>
    (if c.toNat = 0x3A3 then [sigma before cs] else lowerChar c) ++ lowerFrom (c :: before) cs

def upper (s : String) : String := .ofList (s.toList.flatMap upperChar)

def lower (s : String) : String := .ofList (lowerFrom [] s.toList)

end RouteDocs.Text
