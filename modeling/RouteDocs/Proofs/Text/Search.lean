import Mathlib.Data.List.Infix
import RouteDocs.Text.Cut

namespace RouteDocs.Text

/-- The text has the pattern somewhere in it. -/
def Contains (pattern s : String) : Prop := pattern.toList <:+: s.toList

instance (pattern s : String) : Decidable (Contains pattern s) :=
  inferInstanceAs (Decidable (pattern.toList <:+: s.toList))

theorem cutAt?_eq_none_iff (pattern cs : List Char) :
    cutAt? pattern cs = none ↔ ¬ pattern <:+: cs := by
  induction cs with
  | nil => cases pattern <;> simp [cutAt?]
  | cons c cs ih =>
    rw [cutAt?, List.infix_cons_iff]
    by_cases here : pattern <+: c :: cs
    · simp [here]
    · simp [here, ih]

theorem cutAt?_append (pattern rest : List Char) : cutAt? pattern (pattern ++ rest) =
    some ([], rest) := by
  cases whole : pattern ++ rest with
  | nil =>
    obtain ⟨rfl, rfl⟩ := List.append_eq_nil_iff.mp whole
    rfl
  | cons c cs =>
    have here : pattern.isPrefixOf (c :: cs) = true := by
      rw [List.isPrefixOf_iff_prefix, ← whole]
      exact List.prefix_append pattern rest
    rw [cutAt?, if_pos here, ← whole, List.drop_left]

/-- What a cut leaves is the text around an occurrence of the pattern. -/
theorem append_of_cutAt? {pattern cs before after : List Char}
    (h : cutAt? pattern cs = some (before, after)) : before ++ pattern ++ after = cs := by
  induction cs generalizing before with
  | nil =>
    rw [cutAt?] at h
    split at h
    · next none =>
      cases h
      simpa using none
    · cases h
  | cons c cs ih =>
    rw [cutAt?] at h
    split at h
    · next here =>
      cases h
      exact (List.prefix_append_drop (List.isPrefixOf_iff_prefix.mp here)).symm
    · obtain ⟨⟨inner, rest⟩, cut, same⟩ := Option.map_eq_some_iff.mp h
      cases same
      rw [← ih cut]
      simp

theorem cut?_eq_none_iff (pattern s : String) : cut? pattern s = none ↔ ¬ Contains pattern s := by
  rw [cut?, Option.map_eq_none_iff, cutAt?_eq_none_iff, Contains]

theorem cut?_append (pattern rest : String) :
    cut? pattern (pattern ++ rest) = some ("", rest) := by
  rw [cut?, String.toList_append, cutAt?_append]
  simp

theorem infix_of_cut? {pattern s before after : String}
    (h : cut? pattern s = some (before, after)) : after.toList <:+: s.toList := by
  obtain ⟨⟨lead, rest⟩, cut, same⟩ := Option.map_eq_some_iff.mp h
  cases same
  rw [String.toList_ofList, ← append_of_cutAt? cut]
  exact (List.suffix_append _ _).isInfix

/-- A pattern that starts with a character stands behind a part without that character. -/
theorem infix_of_append {c : Char} {pattern lead cs : List Char} (clear : c ∉ lead)
    (h : c :: pattern <:+: lead ++ cs) : c :: pattern <:+: cs := by
  induction lead with
  | nil => exact h
  | cons first lead ih =>
    have apart : c ≠ first := fun same => clear (same ▸ List.mem_cons_self)
    rcases List.infix_cons_iff.mp h with start | later
    · exact absurd (List.cons_prefix_cons.mp start).1 apart
    · exact ih (fun here => clear (List.mem_cons_of_mem first here)) later

section
variable {pattern : List Char}

/-- A pattern at the start of a text ends before a character that it has not. -/
theorem prefix_of_prefix_append {before rest : List Char} {mark : Char} (clear : mark ∉ pattern)
    (h : pattern <+: before ++ mark :: rest) : pattern <+: before := by
  obtain ⟨behind, whole⟩ := h
  rcases List.append_eq_append_iff.mp whole with ⟨more, rfl, -⟩ | ⟨more, rfl, after⟩
  · exact List.prefix_append pattern more
  · cases more with
    | nil => simp
    | cons c more =>
      obtain rfl : mark = c := (List.cons.inj after).1
      exact absurd (by simp) clear

variable (nonempty : pattern ≠ [])
include nonempty

theorem cutAt?_nil : cutAt? pattern [] = none := by
  simpa [cutAt?] using nonempty

/-- The first occurrence is before the character or, if there is none, after it. -/
theorem cutAt?_joined {mark : Char} (clear : mark ∉ pattern) (before rest : List Char) :
    cutAt? pattern (before ++ mark :: rest) =
      ((cutAt? pattern before).map fun x => (x.1, x.2 ++ mark :: rest)).or
        ((cutAt? pattern rest).map fun x => (before ++ mark :: x.1, x.2)) := by
  induction before with
  | nil =>
    have notHere : ¬ pattern.isPrefixOf (mark :: rest) = true := by
      rw [List.isPrefixOf_iff_prefix]
      intro start
      exact nonempty (List.prefix_nil.mp (prefix_of_prefix_append clear start))
    rw [List.nil_append, cutAt?_nil nonempty, cutAt?, if_neg notHere]
    rfl
  | cons c before ih =>
    rw [List.cons_append, cutAt?, cutAt?]
    simp only [List.isPrefixOf_iff_prefix]
    by_cases here : pattern <+: c :: before
    · have still : pattern <+: c :: (before ++ mark :: rest) := List.prefix_append_of_prefix here
      rw [if_pos here, if_pos still, ← List.cons_append,
        List.drop_append_of_le_length here.length_le]
      rfl
    · have still : ¬ pattern <+: c :: (before ++ mark :: rest) := fun start =>
        here (prefix_of_prefix_append clear start)
      rw [if_neg here, if_neg still, ih, Option.map_or, Option.map_map, Option.map_map,
        Option.map_map]
      rfl

variable {gap : List Char} (clear : ∀ c ∈ gap, c ∉ pattern)
include clear

theorem cutAt?_clear_append (cs : List Char) :
    cutAt? pattern (gap ++ cs) = (cutAt? pattern cs).map fun x => (gap ++ x.1, x.2) := by
  induction gap with
  | nil => simp
  | cons c gap ih =>
    obtain ⟨first, others⟩ := List.forall_mem_cons.mp clear
    have behind := cutAt?_joined nonempty first [] (gap ++ cs)
    rw [cutAt?_nil nonempty, ih others, Option.map_map] at behind
    exact behind

theorem cutAt?_append_clear (cs : List Char) :
    cutAt? pattern (cs ++ gap) = (cutAt? pattern cs).map fun x => (x.1, x.2 ++ gap) := by
  cases gap with
  | nil => simp
  | cons c gap =>
    obtain ⟨first, others⟩ := List.forall_mem_cons.mp clear
    have behind := cutAt?_clear_append nonempty others []
    rw [List.append_nil, cutAt?_nil nonempty] at behind
    rw [cutAt?_joined nonempty first, behind]
    exact Option.or_none

end

theorem cutAtChar_eq (sep : Char) (cs : List Char) :
    cutAtChar sep cs = (cutAt? [sep] cs).getD (cs, []) := by
  induction cs with
  | nil => rfl
  | cons c cs ih =>
    rw [cutAtChar, cutAt?, ih]
    by_cases here : c = sep
    · simp [here]
    · have differs : ([sep].isPrefixOf (c :: cs)) = false := by
        simpa [List.isPrefixOf] using Ne.symm here
      rw [if_neg here, differs, if_neg Bool.false_ne_true]
      cases cutAt? [sep] cs <;> rfl

theorem removeFrom_of_not_infix {pattern cs : List Char} (absent : ¬ pattern <:+: cs) :
    removeFrom pattern 0 cs = cs := by
  induction cs with
  | nil => rfl
  | cons c cs ih =>
    rw [List.infix_cons_iff, not_or] at absent
    obtain ⟨notHere, notLater⟩ := absent
    have differs : pattern.isPrefixOf (c :: cs) = false := by
      rw [← Bool.not_eq_true, List.isPrefixOf_iff_prefix]
      exact notHere
    rw [removeFrom, differs, if_neg Bool.false_ne_true, ih notLater]

/-- The characters that belong to an occurrence already found are passed over. -/
theorem removeFrom_length_append (pattern found rest : List Char) :
    removeFrom pattern found.length (found ++ rest) = removeFrom pattern 0 rest := by
  induction found with
  | nil => rfl
  | cons c found ih => exact ih

/-- The occurrence at the start is the first that is found, so the pattern may overlap itself or
the start of the rest. -/
theorem removeFrom_append {pattern rest : List Char} (nonempty : pattern ≠ [])
    (absent : ¬ pattern <:+: rest) : removeFrom pattern 0 (pattern ++ rest) = rest := by
  obtain ⟨c, found, rfl⟩ := List.exists_cons_of_ne_nil nonempty
  have here : (c :: found).isPrefixOf (c :: (found ++ rest)) = true := by
    rw [List.isPrefixOf_iff_prefix, ← List.cons_append]
    exact List.prefix_append (c :: found) rest
  rw [List.cons_append, removeFrom, if_pos here, List.length_cons, Nat.add_sub_cancel,
    removeFrom_length_append, removeFrom_of_not_infix absent]

theorem remove_append {pattern rest : String} (nonempty : pattern ≠ "")
    (absent : ¬ Contains pattern rest) : remove pattern (pattern ++ rest) = rest := by
  have some_pattern : pattern.toList ≠ [] := by simpa using nonempty
  have kept : pattern.isEmpty = false := by simpa using nonempty
  rw [remove, kept, if_neg Bool.false_ne_true, String.toList_append,
    removeFrom_append some_pattern absent, String.ofList_toList]

section
variable {mark : Char} {word : List Char}

/-- Before the mark there is nothing to remove. -/
theorem removeFrom_clear_append {lead : List Char} (clear : mark ∉ lead) (cs : List Char) :
    removeFrom (mark :: word) 0 (lead ++ cs) = lead ++ removeFrom (mark :: word) 0 cs := by
  induction lead with
  | nil => rfl
  | cons c lead ih =>
    have apart : mark ≠ c := fun same => clear (same ▸ List.mem_cons_self)
    have notHere : ¬ (mark :: word).isPrefixOf (c :: (lead ++ cs)) = true := by
      rw [List.isPrefixOf_iff_prefix]
      exact fun start => apart (List.cons_prefix_cons.mp start).1
    rw [List.cons_append, removeFrom, if_neg notHere, ih fun here =>
      clear (List.mem_cons_of_mem c here), List.cons_append]

variable (once : mark ∉ word)
include once

/-- A word that has no mark starts a part if it starts the part with what is set off behind it. -/
theorem prefix_append_flatMap_iff (part : List Char) (parts : List (List Char)) :
    word <+: part ++ parts.flatMap (mark :: ·) ↔ word <+: part := by
  refine ⟨fun start => ?_, List.prefix_append_of_prefix⟩
  cases parts with
  | nil => simpa using start
  | cons next parts =>
    rw [List.flatMap_cons, List.cons_append] at start
    exact prefix_of_prefix_append once start

/-- A part that starts with the word loses it and the mark before it, and any other part stays. -/
theorem removeFrom_marked {first : List Char} {parts : List (List Char)} (clear : mark ∉ first)
    (apart : ∀ part ∈ parts, mark ∉ part) :
    removeFrom (mark :: word) 0 (first ++ parts.flatMap (mark :: ·)) =
      first ++ parts.flatMap fun part =>
        if word <+: part then part.drop word.length else mark :: part := by
  rw [removeFrom_clear_append clear]
  congr 1
  clear clear
  induction parts with
  | nil => rfl
  | cons part parts ih =>
    obtain ⟨here, others⟩ := List.forall_mem_cons.mp apart
    rw [List.flatMap_cons, List.flatMap_cons, ← ih others, List.cons_append, removeFrom]
    by_cases start : word <+: part
    · obtain ⟨more, rfl⟩ := start
      have found : (mark :: word).isPrefixOf
          (mark :: (word ++ more ++ parts.flatMap (mark :: ·))) = true := by
        rw [List.isPrefixOf_iff_prefix, List.append_assoc]
        exact List.prefix_append (mark :: word) _
      have rest : mark ∉ more := fun inside => here (List.mem_append_right word inside)
      rw [if_pos found, List.length_cons, Nat.add_sub_cancel, List.append_assoc,
        removeFrom_length_append, removeFrom_clear_append rest, if_pos (List.prefix_append _ _),
        List.drop_left]
    · have notFound : ¬ (mark :: word).isPrefixOf
          (mark :: (part ++ parts.flatMap (mark :: ·))) = true := by
        rw [List.isPrefixOf_iff_prefix, List.cons_prefix_cons, prefix_append_flatMap_iff once]
        exact fun both => start both.2
      rw [if_neg notFound, removeFrom_clear_append here, if_neg start, List.cons_append]

end

end RouteDocs.Text
