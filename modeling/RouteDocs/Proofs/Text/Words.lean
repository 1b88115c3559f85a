import RouteDocs.Proofs.Text.Search
import RouteDocs.Proofs.Text.Separator
import RouteDocs.Proofs.Text.Trimming

namespace RouteDocs.Text

theorem pieces_joined {p : Char → Bool} {mark : Char} (marks : p mark = true)
    (before after : List Char) :
    pieces p (before ++ mark :: after) = pieces p before ++ pieces p after := by
  induction before with
  | nil => exact pieces_cons_of_mark marks after
  | cons c before ih =>
    cases own : p c with
    | true => rw [List.cons_append, pieces_cons_of_mark own, pieces_cons_of_mark own, ih]; rfl
    | false =>
      obtain ⟨w, ws, first⟩ := exists_pieces p before
      rw [first] at ih
      rw [List.cons_append, pieces_cons_of_clear own ih, pieces_cons_of_clear own first]
      rfl

theorem words_append_blank {c : Char} (blank : isBlank c = true) (before after : List Char) :
    words (before ++ c :: after) = words before ++ words after := by
  rw [words, pieces_joined blank, List.filter_append]
  rfl

theorem words_cons_of_blank {c : Char} (blank : isBlank c = true) (cs : List Char) :
    words (c :: cs) = words cs :=
  words_append_blank blank [] cs

theorem words_blanks_append {gap : List Char} (blank : ∀ c ∈ gap, isBlank c = true)
    (cs : List Char) : words (gap ++ cs) = words cs := by
  induction gap with
  | nil => rfl
  | cons c gap ih =>
    obtain ⟨first, others⟩ := List.forall_mem_cons.mp blank
    rw [List.cons_append, words_cons_of_blank first, ih others]

theorem words_of_blank {cs : List Char} (blank : ∀ c ∈ cs, isBlank c = true) : words cs = [] := by
  have none_left := words_blanks_append blank []
  rwa [List.append_nil] at none_left

theorem words_append_blanks {gap : List Char} (blank : ∀ c ∈ gap, isBlank c = true)
    (cs : List Char) : words (cs ++ gap) = words cs := by
  cases gap with
  | nil => rw [List.append_nil]
  | cons c gap =>
    obtain ⟨first, others⟩ := List.forall_mem_cons.mp blank
    rw [words_append_blank first, words_of_blank others, List.append_nil]

theorem words_of_solid {cs : List Char} (solid : ∀ c ∈ cs, isBlank c = false) (full : cs ≠ []) :
    words cs = [cs] := by
  rw [words, pieces_eq_self solid, List.filter_cons_of_pos (by simpa using full)]
  rfl

theorem words_trim (cs : List Char) : words (trim cs) = words cs := by
  obtain ⟨before, after, whole, blankBefore, blankAfter⟩ := exists_trim cs
  conv_rhs => rw [whole]
  rw [words_append_blanks blankAfter, words_blanks_append blankBefore]

theorem blank_of_words_eq_nil {cs : List Char} (none_there : words cs = []) :
    ∀ c ∈ cs, isBlank c = true := by
  induction cs with
  | nil => nofun
  | cons c cs ih =>
    cases blank : isBlank c with
    | true =>
      rw [words_cons_of_blank blank] at none_there
      exact List.forall_mem_cons.mpr ⟨blank, ih none_there⟩
    | false =>
      obtain ⟨w, ws, first⟩ := exists_pieces isBlank cs
      simp [words, pieces_cons_of_clear blank first] at none_there

theorem trim_eq_nil_iff {cs : List Char} : trim cs = [] ↔ words cs = [] := by
  constructor
  · intro nothing
    rw [← words_trim, nothing]
    rfl
  · intro none_there
    have gone := trim_blanks_append (blank_of_words_eq_nil none_there) []
    rw [List.append_nil] at gone
    exact gone

/-- The characters of equal words are equal. -/
theorem words_eq_of_split {s s' : String} (same : split s = split s') :
    words s.toList = words s'.toList :=
  List.map_injective_iff.mpr (fun _ _ => String.ofList_inj.mp) same

theorem split_strip (s : String) : split (strip s) = split s := by
  rw [split, strip, String.toList_ofList, words_trim]
  rfl

theorem strip_eq_empty_iff {s : String} : strip s = "" ↔ split s = [] := by
  rw [split, List.map_eq_nil_iff, ← trim_eq_nil_iff, strip]
  simp

/-- A text of words that are not empty and have no blanks, with blanks between any two of them and
maybe before the first and after the last. -/
inductive Spaced : List String → String → Prop
  | blank {gap : String} (blank : ∀ c ∈ gap.toList, isBlank c = true) : Spaced [] gap
  | word {gap w rest : String} {ws : List String} (blank : ∀ c ∈ gap.toList, isBlank c = true)
      (full : w ≠ "") (solid : ∀ c ∈ w.toList, isBlank c = false)
      (apart : ∀ c ∈ rest.toList.head?, isBlank c = true) (more : Spaced ws rest) :
      Spaced (w :: ws) (gap ++ w ++ rest)

theorem split_of_spaced {ws : List String} {s : String} (h : Spaced ws s) : split s = ws := by
  induction h with
  | blank blank => rw [split, words_of_blank blank, List.map_nil]
  | @word gap w rest ws blank full solid apart more ih =>
    have first : words w.toList = [w.toList] := words_of_solid solid (by simpa using full)
    have parts : words (w.toList ++ rest.toList) = words w.toList ++ words rest.toList := by
      cases behind : rest.toList with
      | nil => simp [words_of_blank]
      | cons c cs =>
        have ends : isBlank c = true := apart c (by simp [behind])
        rw [words_append_blank ends, words_cons_of_blank ends]
    rw [split, String.toList_append, String.toList_append, List.append_assoc,
      words_blanks_append blank, parts, first, List.map_append]
    show String.ofList w.toList :: split rest = w :: ws
    rw [ih, String.ofList_toList]

theorem Spaced.blank_or_mem {ws : List String} {s : String} (h : Spaced ws s) :
    ∀ c ∈ s.toList, isBlank c = true ∨ ∃ w ∈ ws, c ∈ w.toList := by
  induction h with
  | blank blank => exact fun c hc => .inl (blank c hc)
  | @word gap w rest ws blank full solid apart more ih =>
    intro c hc
    simp only [String.toList_append, List.mem_append] at hc
    rcases hc with (before | here) | behind
    · exact .inl (blank c before)
    · exact .inr ⟨w, List.mem_cons_self, here⟩
    · rcases ih c behind with blank | ⟨w', listed, here⟩
      · exact .inl blank
      · exact .inr ⟨w', List.mem_cons_of_mem w listed, here⟩

/-- A blank before a text is one more blank before its first word, or at its end. -/
theorem Spaced.cons_blank {ws : List String} {s : String} (h : Spaced ws s) {c : Char}
    (blank : isBlank c = true) : Spaced ws (c.toString ++ s) := by
  cases h with
  | blank others => exact .blank (by simpa [blank] using others)
  | @word gap w rest ws others full solid apart more =>
    rw [← String.append_assoc, ← String.append_assoc]
    exact .word (by simpa [blank] using others) full solid apart more

/-- A character that is not blank starts a word of its own or belongs to the first word. -/
theorem Spaced.cons_solid {ws : List String} {s : String} (h : Spaced ws s) {c : Char}
    (solid : isBlank c = false) : ∃ ws', Spaced ws' (c.toString ++ s) := by
  by_cases apart : ∀ d ∈ s.toList.head?, isBlank d = true
  · have alone := @Spaced.word "" c.toString s ws (by simp) (by simp) (by simpa using solid) apart h
    exact ⟨_, by rwa [String.empty_append] at alone⟩
  · cases h with
    | @blank gap blank => exact absurd (fun d hd => blank d (List.mem_of_head? hd)) apart
    | @word gap w rest ws blank full solidRest apartRest more =>
      have nothing : gap = "" := by
        by_contra some_gap
        obtain ⟨d, ds, first⟩ :=
          List.exists_cons_of_ne_nil (mt String.toList_eq_nil_iff.mp some_gap)
        apply apart
        intro e he
        obtain rfl : d = e := by simpa [first] using he
        exact blank d (by simp [first])
      subst nothing
      have longer := @Spaced.word "" (c.toString ++ w) rest ws (by simp) (by simp)
        (by simpa [solid] using solidRest) apartRest more
      rw [String.empty_append, ← String.append_assoc]
      rw [String.empty_append] at longer
      exact ⟨_, longer⟩

theorem exists_spaced (cs : List Char) : ∃ ws, Spaced ws (.ofList cs) := by
  induction cs with
  | nil => exact ⟨[], .blank (by simp)⟩
  | cons c cs ih =>
    obtain ⟨ws, h⟩ := ih
    have joined : String.ofList (c :: cs) = c.toString ++ .ofList cs := by
      rw [← String.toList_inj]
      simp
    rw [joined]
    cases blank : isBlank c with
    | true => exact ⟨ws, h.cons_blank blank⟩
    | false => exact h.cons_solid blank

/-- A text has the words that it is made of, and no others. -/
theorem split_eq_iff {ws : List String} {s : String} : split s = ws ↔ Spaced ws s := by
  refine ⟨fun same => ?_, split_of_spaced⟩
  obtain ⟨ws', h⟩ := exists_spaced s.toList
  rw [String.ofList_toList] at h
  rw [← same, split_of_spaced h]
  exact h

/-- A list of words cut at the first occurrence of a pattern, which may leave two parts of the word
that it stands in. -/
def cutWords? (pattern : List Char) :
    List (List Char) → Option (List (List Char) × List (List Char))
  | [] => none
  | w :: ws =>
    ((cutAt? pattern w).map fun x => (words x.1, words x.2 ++ ws)).or
      ((cutWords? pattern ws).map fun x => (w :: x.1, x.2))

/-- A text is without blanks or has a part without blanks before its first blank. -/
theorem solid_or_joined (cs : List Char) : (∀ c ∈ cs, isBlank c = false) ∨
    ∃ before mark after, cs = before ++ mark :: after ∧ isBlank mark = true ∧
      ∀ c ∈ before, isBlank c = false := by
  induction cs with
  | nil => exact .inl nofun
  | cons c cs ih =>
    cases blank : isBlank c with
    | true => exact .inr ⟨[], c, cs, rfl, blank, nofun⟩
    | false =>
      rcases ih with solid | ⟨before, mark, after, rfl, marks, solid⟩
      · exact .inl (List.forall_mem_cons.mpr ⟨blank, solid⟩)
      · exact .inr ⟨c :: before, mark, after, rfl, marks, List.forall_mem_cons.mpr ⟨blank, solid⟩⟩

section
variable {pattern : List Char} (nonempty : pattern ≠ [])
  (solid : ∀ c ∈ pattern, isBlank c = false)
include nonempty solid

/-- The words before and after a pattern without blanks are told from the words of the text. -/
theorem words_cutAt? (cs : List Char) :
    (cutAt? pattern cs).map (fun x => (words x.1, words x.2)) =
      cutWords? pattern (words cs) := by
  -- by recursion on what stands behind the first blank, which the pattern cannot reach across
  rcases solid_or_joined cs with whole | ⟨before, mark, after, split, marks, whole⟩
  · by_cases full : cs = []
    · rw [full, cutAt?_nil nonempty]
      rfl
    · rw [words_of_solid whole full, cutWords?, cutWords?]
      simp
  · have clear : mark ∉ pattern := fun here => by
      rw [solid mark here] at marks
      cases marks
    have shorter : after.length < cs.length := by
      rw [split, List.length_append, List.length_cons]
      omega
    have ih := words_cutAt? after
    have parts : (cutAt? pattern cs).map (fun x => (words x.1, words x.2)) =
        ((cutAt? pattern before).map fun x => (words x.1, words x.2 ++ words after)).or
          ((cutWords? pattern (words after)).map fun x => (words before ++ x.1, x.2)) := by
      rw [split, cutAt?_joined nonempty clear, Option.map_or, ← ih]
      simp only [Option.map_map, Function.comp_def, words_append_blank marks]
    rw [parts, split, words_append_blank marks]
    by_cases full : before = []
    · rw [full, cutAt?_nil nonempty]
      simp [words_of_blank]
    · rw [words_of_solid whole full]
      rfl
termination_by cs.length

end

/-- The words before a separator that is no blank are told from the words of the text. -/
theorem words_cutAtChar {sep : Char} (solid : isBlank sep = false) {cs ds : List Char}
    (same : words cs = words ds) : words (cutAtChar sep cs).1 = words (cutAtChar sep ds).1 := by
  have told (xs : List Char) : words (cutAtChar sep xs).1 =
      ((cutWords? [sep] (words xs)).map Prod.fst).getD (words xs) := by
    rw [← words_cutAt? (List.cons_ne_nil sep []) (by simpa using solid), cutAtChar_eq]
    cases cutAt? [sep] xs <;> rfl
  rw [told, told, same]

end RouteDocs.Text
