import Mathlib.Data.List.DropRight
import RouteDocs.Text.Blank

namespace RouteDocs.Text

theorem trim_infix (cs : List Char) : trim cs <:+: cs :=
  (List.rdropWhile_prefix isBlank _).isInfix.trans (List.dropWhile_suffix isBlank).isInfix

theorem trim_cons_of_blank {c : Char} (blank : isBlank c = true) (cs : List Char) :
    trim (c :: cs) = trim cs := by
  rw [trim, trimStart, List.dropWhile_cons_of_pos blank]
  rfl

/-- Blanks before a text do not matter. -/
theorem trim_blanks_append {gap : List Char} (blank : ∀ c ∈ gap, isBlank c = true)
    (cs : List Char) : trim (gap ++ cs) = trim cs := by
  rw [trim, trimStart, List.dropWhile_append_of_pos blank]
  rfl

/-- Blanks after a text do not matter. -/
theorem trim_append_blanks {gap : List Char} (blank : ∀ c ∈ gap, isBlank c = true)
    (cs : List Char) : trim (cs ++ gap) = trim cs := by
  have ends (xs : List Char) : trimEnd (xs ++ gap) = trimEnd xs := by
    rw [trimEnd, List.reverse_append, List.dropWhile_append_of_pos (by simpa using blank)]
    rfl
  have all_gap : gap.dropWhile isBlank = [] := List.dropWhile_eq_nil_iff.mpr blank
  rw [trim, trimStart, List.dropWhile_append, all_gap]
  split
  · next none_left =>
    rw [trim, trimStart, List.isEmpty_iff.mp none_left]
  · exact ends _

/-- A text is what trimming leaves of it, between blanks. -/
theorem exists_trim (cs : List Char) : ∃ before after, cs = before ++ trim cs ++ after ∧
    (∀ c ∈ before, isBlank c = true) ∧ ∀ c ∈ after, isBlank c = true := by
  refine ⟨cs.takeWhile isBlank, (trimStart cs).rtakeWhile isBlank, ?_,
    fun c hc => List.mem_takeWhile_imp hc, fun c hc => List.mem_rtakeWhile_imp hc⟩
  have start : cs.takeWhile isBlank ++ trimStart cs = cs := List.takeWhile_append_dropWhile
  have finish : trim cs ++ (trimStart cs).rtakeWhile isBlank = trimStart cs :=
    List.rdropWhile_append_rtakeWhile
  rw [List.append_assoc, finish, start]

/-- The first character that trimming leaves is not blank. -/
theorem trimStart_trim (cs : List Char) : trimStart (trim cs) = trim cs := by
  apply (List.dropWhile_eq_self_iff (p := isBlank)).mpr
  intro nonempty
  have lead : trim cs <+: trimStart cs := List.rdropWhile_prefix isBlank _
  have longer : 0 < (trimStart cs).length := Nat.lt_of_lt_of_le nonempty lead.length_le
  rw [lead.getElem nonempty]
  exact List.dropWhile_get_zero_not isBlank cs longer

theorem trim_trim (cs : List Char) : trim (trim cs) = trim cs := by
  rw [trim, trimStart_trim]
  exact List.rdropWhile_idempotent isBlank (trimStart cs)

theorem trim_eq_self {cs : List Char} (solid : ∀ c ∈ cs, isBlank c = false) : trim cs = cs := by
  have start : trimStart cs = cs := by
    apply (List.dropWhile_eq_self_iff (p := isBlank)).mpr
    intro nonempty
    simp [solid _ (List.getElem_mem nonempty)]
  rw [trim, start]
  apply (List.rdropWhile_eq_self_iff (p := isBlank)).mpr
  intro nonempty
  simp [solid _ (List.getLast_mem nonempty)]

theorem strip_strip (s : String) : strip (strip s) = strip s := by
  simp only [strip, String.toList_ofList, trim_trim]

theorem strip_eq_self {s : String} (solid : ∀ c ∈ s.toList, isBlank c = false) : strip s = s := by
  rw [strip, trim_eq_self solid, String.ofList_toList]

/-- There is a first piece, which may be empty. -/
theorem exists_pieces (p : Char → Bool) (cs : List Char) : ∃ w ws, pieces p cs = w :: ws := by
  induction cs with
  | nil => exact ⟨[], [], rfl⟩
  | cons c cs ih =>
    obtain ⟨w, ws, first⟩ := ih
    rw [pieces, first]
    cases p c with
    | true => exact ⟨[], w :: ws, rfl⟩
    | false => exact ⟨c :: w, ws, rfl⟩

theorem pieces_cons_of_mark {p : Char → Bool} {c : Char} (marks : p c = true) (cs : List Char) :
    pieces p (c :: cs) = [] :: pieces p cs := by
  obtain ⟨w, ws, first⟩ := exists_pieces p cs
  rw [pieces, first]
  simp [marks]

theorem pieces_cons_of_clear {p : Char → Bool} {c : Char} (clear : p c = false) {cs w : List Char}
    {ws : List (List Char)} (first : pieces p cs = w :: ws) :
    pieces p (c :: cs) = (c :: w) :: ws := by
  rw [pieces, first]
  simp [clear]

theorem not_of_mem_pieces {p : Char → Bool} {cs piece : List Char} (here : piece ∈ pieces p cs) :
    ∀ c ∈ piece, p c = false := by
  induction cs generalizing piece with
  | nil =>
    rw [pieces, List.mem_singleton] at here
    simp [here]
  | cons c cs ih =>
    cases mark : p c with
    | true =>
      rw [pieces_cons_of_mark mark] at here
      rcases List.mem_cons.mp here with rfl | later
      · nofun
      · exact ih later
    | false =>
      obtain ⟨w, ws, first⟩ := exists_pieces p cs
      rw [pieces_cons_of_clear mark first] at here
      rw [first] at ih
      rcases List.mem_cons.mp here with rfl | later
      · exact List.forall_mem_cons.mpr ⟨mark, ih List.mem_cons_self⟩
      · exact ih (List.mem_cons_of_mem w later)

/-- The pieces of a text have its characters alone. -/
theorem mem_of_mem_pieces {p : Char → Bool} {cs piece : List Char} (here : piece ∈ pieces p cs) :
    ∀ c ∈ piece, c ∈ cs := by
  induction cs generalizing piece with
  | nil =>
    rw [pieces, List.mem_singleton] at here
    simp [here]
  | cons c cs ih =>
    cases mark : p c with
    | true =>
      rw [pieces_cons_of_mark mark] at here
      rcases List.mem_cons.mp here with rfl | later
      · nofun
      · exact fun d hd => List.mem_cons_of_mem c (ih later d hd)
    | false =>
      obtain ⟨w, ws, first⟩ := exists_pieces p cs
      rw [pieces_cons_of_clear mark first] at here
      rw [first] at ih
      rcases List.mem_cons.mp here with rfl | later
      · exact List.forall_mem_cons.mpr ⟨List.mem_cons_self, fun d hd =>
          List.mem_cons_of_mem c (ih List.mem_cons_self d hd)⟩
      · exact fun d hd => List.mem_cons_of_mem c (ih (List.mem_cons_of_mem w later) d hd)

theorem not_blank_of_mem_split {s word : String} (here : word ∈ split s) :
    word ≠ "" ∧ ∀ c ∈ word.toList, isBlank c = false := by
  obtain ⟨w, hw, rfl⟩ := List.mem_map.mp here
  obtain ⟨piece, nonempty⟩ := List.mem_filter.mp hw
  rw [String.toList_ofList]
  refine ⟨?_, not_of_mem_pieces piece⟩
  intro empty
  have none_left : w = [] := by simpa using congrArg String.toList empty
  simp [none_left] at nonempty

end RouteDocs.Text
