import RouteDocs.FileTree
import Mathlib.Data.List.Induction

namespace RouteDocs
namespace FilePath

/-- The path of a name below `p`. -/
def within (p : FilePath) (name : String) : FilePath := { p with steps := p.steps ++ [name] }

/-- No name is too long for the file system, and neither is the whole path. -/
structure Fits (p : FilePath) : Prop where
  names : ∀ step ∈ p.steps, step.utf8ByteSize ≤ maxName
  text : p.text.utf8ByteSize < maxText

/-- Every step leads down, and the file system takes the path. -/
structure IsPlain (p : FilePath) : Prop where
  down : ".." ∉ p.steps
  names : ∀ step ∈ p.steps, step.utf8ByteSize ≤ maxName
  text : textTrouble? p.text = none

theorem steps_within (p : FilePath) (name : String) : (p.within name).steps = p.steps ++ [name] :=
  rfl

theorem isAbsolute_within (p : FilePath) (name : String) :
    (p.within name).isAbsolute = p.isAbsolute := rfl

theorem reverse_steps_within (p : FilePath) (name : String) :
    (p.within name).steps.reverse = name :: p.steps.reverse := by
  simp [within]

theorem dropLast_steps_within (p : FilePath) (name : String) :
    (p.within name).steps.dropLast = p.steps := by
  simp [within]

/-- Every path is made of one without steps, a name at a time. -/
@[elab_as_elim]
theorem within_induction {motive : FilePath → Prop} (start : ∀ p, p.steps = [] → motive p)
    (step : ∀ p name, motive p → motive (p.within name)) (p : FilePath) : motive p := by
  obtain ⟨isAbsolute, steps⟩ := p
  induction steps using List.reverseRecOn with
  | nil => exact start _ rfl
  | append_singleton outer last ih => exact step ⟨isAbsolute, outer⟩ last ih

/-- The text of a path goes on with a `/` after the text of the path around it. -/
theorem text_within (p : FilePath) (name : String) (h : p.steps ≠ []) :
    (p.within name).text = p.text ++ "/" ++ name := by
  have joined : "/".intercalate (p.steps ++ [name]) = "/".intercalate p.steps ++ "/" ++ name := by
    rw [String.intercalate_append_of_ne_nil h (by simp), String.intercalate_singleton]
  cases hp : p.isAbsolute
  · simp [text, within, hp, h, joined]
  · simp [text, within, hp, joined, String.append_assoc]

theorem text_of_no_steps (p : FilePath) (h : p.steps = []) : p.text = "/" ∨ p.text = "." := by
  cases hp : p.isAbsolute
  · exact .inr (by simp [text, hp, h])
  · exact .inl (by simp [text, hp, h])

theorem textTrouble?_eq_none_iff (s : String) :
    textTrouble? s = none ↔ (∀ c ∈ s.toList, c.toNat ≠ 0) ∧ s.utf8ByteSize < maxText := by
  unfold textTrouble?
  split
  · next h =>
    obtain ⟨c, hc, zero⟩ := List.any_eq_true.mp h
    simp only [reduceCtorEq, false_iff, not_and]
    exact fun none_zero => absurd (of_decide_eq_true zero) (none_zero c hc)
  · split <;> simp_all

theorem textTrouble?_eq_null_iff (s : String) :
    textTrouble? s = some .nullCharacter ↔ ∃ c ∈ s.toList, c.toNat = 0 := by
  unfold textTrouble?
  split
  · simp_all
  · split <;> simp_all

theorem textTrouble?_of_short {s : String} (short : s.utf8ByteSize < maxText)
    (h : textTrouble? s ≠ none) : textTrouble? s = some .nullCharacter := by
  rw [textTrouble?_eq_null_iff]
  by_contra clear
  exact h ((textTrouble?_eq_none_iff s).mpr ⟨fun c hc zero => clear ⟨c, hc, zero⟩, short⟩)

/-- A name without the character U+0000 does not bring it into a path. -/
theorem null_of_within {p : FilePath} {name : String} (hp : p.steps ≠ [])
    (hname : ∀ c ∈ name.toList, c.toNat ≠ 0)
    (h : textTrouble? (p.within name).text = some .nullCharacter) :
    textTrouble? p.text = some .nullCharacter := by
  rw [textTrouble?_eq_null_iff, text_within p name hp] at h
  rw [textTrouble?_eq_null_iff]
  obtain ⟨c, hc, zero⟩ := h
  rw [String.toList_append, String.toList_append, List.mem_append, List.mem_append] at hc
  rcases hc with (outer | slash) | last
  · exact ⟨c, outer, zero⟩
  · rw [List.mem_singleton.mp (slash : c ∈ ['/'])] at zero
    cases zero
  · exact absurd zero (hname c last)

theorem textTrouble?_within {p : FilePath} {name : String}
    (h : textTrouble? (p.within name).text = none) : textTrouble? p.text = none := by
  by_cases hp : p.steps = []
  · rcases text_of_no_steps p hp with h | h <;> rw [h] <;> decide +kernel
  · rw [text_within p name hp, textTrouble?_eq_none_iff] at h
    rw [textTrouble?_eq_none_iff]
    refine ⟨fun c hc => h.1 c (by simp [hc]), ?_⟩
    have size := h.2
    rw [String.utf8ByteSize_append, String.utf8ByteSize_append] at size
    omega

theorem size_within (p : FilePath) (name : String) (h : p.steps ≠ []) :
    (p.within name).text.utf8ByteSize = p.text.utf8ByteSize + 1 + name.utf8ByteSize := by
  rw [text_within p name h, String.utf8ByteSize_append, String.utf8ByteSize_append]
  rfl

/-- A path keeps without trouble if its next name has no U+0000 and the whole stays short. -/
theorem textTrouble?_within_of_short {p : FilePath} {name : String} (hp : p.steps ≠ [])
    (h : textTrouble? p.text = none) (hname : ∀ c ∈ name.toList, c.toNat ≠ 0)
    (short : p.text.utf8ByteSize + 1 + name.utf8ByteSize < maxText) :
    textTrouble? (p.within name).text = none := by
  by_contra trouble
  rw [← size_within p name hp] at short
  rw [null_of_within hp hname (textTrouble?_of_short short trouble)] at h
  cases h

theorem textTrouble?_within_of_long {p : FilePath} {name : String} (hp : p.steps ≠ [])
    (h : textTrouble? p.text = none) (hname : ∀ c ∈ name.toList, c.toNat ≠ 0)
    (long : maxText ≤ (p.within name).text.utf8ByteSize) :
    textTrouble? (p.within name).text = some .nameTooLong := by
  cases trouble : textTrouble? (p.within name).text with
  | none => exact absurd ((textTrouble?_eq_none_iff _).mp trouble).2 (Nat.not_lt.mpr long)
  | some t =>
    have clear : t ≠ .nullCharacter := by
      rintro rfl
      rw [null_of_within hp hname trouble] at h
      cases h
    rw [textTrouble?, if_pos long] at trouble
    split at trouble
    · exact absurd (Option.some.inj trouble).symm clear
    · exact trouble.symm

theorem IsPlain.of_within {p : FilePath} {name : String} (h : (p.within name).IsPlain) :
    p.IsPlain where
  down hp := h.down (List.mem_append_left _ hp)
  names step hs := h.names step (List.mem_append_left _ hs)
  text := textTrouble?_within h.text

theorem IsPlain.ne_up {p : FilePath} {name : String} (h : (p.within name).IsPlain) :
    name ≠ ".." := by
  rintro rfl
  exact h.down (by simp [within])

theorem IsPlain.name_fits {p : FilePath} {name : String} (h : (p.within name).IsPlain) :
    name.utf8ByteSize ≤ maxName := h.names name (by simp [within])

end FilePath
end RouteDocs
