import RouteDocs.Text.Half

namespace RouteDocs.Text

theorem half?_of_small {c : Char} (small : c.toNat < firstHalf) : half? c = none :=
  if_neg fun within => by omega

theorem half?_of_isDigit {c : Char} (digit : c.isDigit = true) : half? c = none := by
  have bound : c.toNat ≤ 57 := (Char.isDigit_iff_toNat.mp digit).2
  exact half?_of_small (Nat.lt_of_le_of_lt bound (by decide))

theorem hasHalves_append (s t : String) : hasHalves (s ++ t) = (hasHalves s || hasHalves t) := by
  simp [hasHalves, String.toList_append]

/-- The digits of a number are no halves of pairs. -/
theorem hasHalves_toString (n : Nat) : hasHalves (toString n) = false := by
  rw [hasHalves, List.any_eq_false]
  intro c hc
  have digits : (toString n).toList = Nat.toDigits 10 n := by
    simp [toString, Nat.repr]
  rw [digits] at hc
  simp [half?_of_isDigit (Nat.isDigit_of_mem_toDigits (by omega) (by omega) hc)]

end RouteDocs.Text
