/-!
# Halves of surrogate pairs

* `ofCode`: the character with a code, or the stand-in for half a pair;
* `half?`: the code of the half that a character stands in for.

An escape can spell half of a surrogate pair, which is no character. A text holds it as one of the
2048 characters from U+109400 on, which are private. No text holds these for themselves: a text that
did would count as one with halves, which is not printed and has no encoding. What is said of texts
and documents is said of those in which these characters stand for halves only.
-/

namespace RouteDocs.Text

/-- The code of the character that stands in for the first half. -/
def firstHalf : Nat := 0x109400

def isHalfCode (code : Nat) : Bool := 0xD800 ≤ code && code < 0xE000

/-- The character with a code, or the stand-in for half a pair. -/
def ofCode (code : Nat) : Char :=
  if isHalfCode code then .ofNat (firstHalf + (code - 0xD800)) else .ofNat code

/-- The code of the half that a character stands in for. -/
def half? (c : Char) : Option Nat :=
  let n := c.toNat
  if firstHalf ≤ n ∧ n < firstHalf + 0x800 then some (0xD800 + (n - firstHalf)) else none

/-- The code of a character, or of the half that it stands in for. -/
def codeOf (c : Char) : Nat := (half? c).getD c.toNat

/-- Whether a text holds half of a pair, so that it has no encoding. The characters that stand in
for halves always count as such. -/
def hasHalves (s : String) : Bool := s.toList.any fun c => (half? c).isSome

end RouteDocs.Text
