import RouteDocs.Text.Lines

namespace RouteDocs.Text

theorem lines_cons {c : Char} (inner : isLineEnd c = false) (cs : List Char) :
    lines (c :: cs) = (lines cs).casesOn [[c]] fun l ls => (c :: l) :: ls := by
  have plain : c ≠ '\r' := by
    rintro rfl
    cases inner
  rw [lines]
  · rw [inner]
    cases lines cs <;> rfl
  · exact fun _ same => absurd same plain

theorem lines_inner_append {lead : List Char} (inner : ∀ c ∈ lead, isLineEnd c = false)
    (full : lead ≠ []) (cs : List Char) :
    lines (lead ++ cs) = (lines cs).casesOn [lead] fun l ls => (lead ++ l) :: ls := by
  induction lead with
  | nil => exact absurd rfl full
  | cons c lead ih =>
    obtain ⟨first, others⟩ := List.forall_mem_cons.mp inner
    rw [List.cons_append, lines_cons first]
    cases lead with
    | nil => rfl
    | cons d lead =>
      rw [ih others (List.cons_ne_nil d lead)]
      cases lines cs <;> rfl

/-- A carriage return that a line feed follows adds nothing to it. -/
theorem lines_of_pair (cs : List Char) : lines ('\r' :: '\n' :: cs) = lines ('\n' :: cs) := by
  rw [lines, lines]
  · rfl
  · exact fun _ same => absurd same (by decide)

/-- Any other line end ends a line. -/
theorem lines_of_end {c : Char} {cs : List Char} (ends : isLineEnd c = true)
    (alone : ¬ (c = '\r' ∧ cs.head? = some '\n')) : lines (c :: cs) = [] :: lines cs := by
  rw [lines]
  · rw [if_pos ends]
  · rintro rest rfl rfl
    exact alone ⟨rfl, rfl⟩

theorem lines_newline (cs : List Char) : lines ('\n' :: cs) = [] :: lines cs :=
  lines_of_end (by decide) fun pair => absurd pair.1 (by decide)

theorem lines_eq_nil_iff {cs : List Char} : lines cs = [] ↔ cs = [] := by
  constructor
  · intro none_there
    cases cs with
    | nil => rfl
    | cons c cs =>
      exfalso
      cases ends : isLineEnd c with
      | false =>
        rw [lines_cons ends] at none_there
        cases rest : lines cs <;> simp [rest] at none_there
      | true =>
        by_cases pair : c = '\r' ∧ cs.head? = some '\n'
        · obtain ⟨rfl, feed⟩ := pair
          obtain ⟨rest, rfl⟩ := List.head?_eq_some_iff.mp feed
          rw [lines_of_pair, lines_newline] at none_there
          cases none_there
        · rw [lines_of_end ends pair] at none_there
          cases none_there
  · rintro rfl
    rfl

/-- No line has a line end in it. -/
theorem not_isLineEnd_of_mem_lines {cs l : List Char} (h : l ∈ lines cs) :
    ∀ c ∈ l, isLineEnd c = false := by
  fun_induction lines cs generalizing l with
  | case1 => cases h
  | case2 cs ih =>
    rcases List.mem_cons.mp h with rfl | later
    · simp
    · exact ih later
  | case3 c cs notPair ends ih =>
    rcases List.mem_cons.mp h with rfl | later
    · simp
    · exact ih later
  | case4 c cs notPair inner rest ih =>
    rw [List.mem_singleton] at h
    simpa [h] using inner
  | case5 c cs notPair inner first ls rest ih =>
    rw [rest] at ih
    rcases List.mem_cons.mp h with rfl | later
    · have clear := ih List.mem_cons_self
      simpa [inner] using clear
    · exact ih (List.mem_cons_of_mem first later)

theorem lines_append_newline {l : List Char} (clear : ∀ c ∈ l, isLineEnd c = false)
    (rest : List Char) : lines (l ++ '\n' :: rest) = l :: lines rest := by
  induction l with
  | nil => exact lines_newline rest
  | cons c l ih =>
    have inner := clear c List.mem_cons_self
    rw [List.cons_append, lines_cons inner, ih fun d hd => clear d (List.mem_cons_of_mem c hd)]

/-- Only where the first of two texts is empty or ends with a line end is there an empty line
between the lines of the two. -/
theorem lines_joined (cs rest : List Char) : ∃ gap, (∀ l ∈ gap, l = []) ∧
    lines (cs ++ '\n' :: rest) = lines cs ++ gap ++ lines rest := by
  induction cs with
  | nil => exact ⟨[[]], by simp, lines_newline rest⟩
  | cons c cs ih =>
    obtain ⟨gap, empty, joined⟩ := ih
    cases ends : isLineEnd c with
    | true =>
      by_cases pair : c = '\r' ∧ cs.head? = some '\n'
      · obtain ⟨rfl, feed⟩ := pair
        obtain ⟨more, rfl⟩ := List.head?_eq_some_iff.mp feed
        rw [List.cons_append, List.cons_append, lines_of_pair, lines_of_pair]
        exact ⟨gap, empty, joined⟩
      · rw [lines_of_end ends pair]
        by_cases last : c = '\r' ∧ cs = []
        · -- the line feed between the texts belongs to this carriage return
          obtain ⟨rfl, rfl⟩ := last
          exact ⟨[], by simp, by simp [lines_of_pair, lines_newline, lines]⟩
        · have alone : ¬ (c = '\r' ∧ (cs ++ '\n' :: rest).head? = some '\n') := by
            rintro ⟨same, feed⟩
            cases cs with
            | nil => exact last ⟨same, rfl⟩
            | cons d cs => exact pair ⟨same, feed⟩
          rw [List.cons_append, lines_of_end ends alone, joined]
          exact ⟨gap, empty, rfl⟩
    | false =>
      rw [List.cons_append, lines_cons ends, lines_cons ends]
      cases cs with
      | nil =>
        rw [List.nil_append, lines_newline]
        exact ⟨[], by simp, rfl⟩
      | cons d cs =>
        obtain ⟨l, ls, first⟩ := List.exists_cons_of_ne_nil
          (mt lines_eq_nil_iff.mp (List.cons_ne_nil d cs))
        rw [joined, first]
        exact ⟨gap, empty, rfl⟩

theorem lines_eq_self {l : List Char} (clear : ∀ c ∈ l, isLineEnd c = false) (hl : l ≠ []) :
    lines l = [l] := by
  induction l with
  | nil => exact absurd rfl hl
  | cons c l ih =>
    rw [lines_cons (clear c List.mem_cons_self)]
    cases l with
    | nil => rfl
    | cons d l =>
      rw [ih (fun e he => clear e (List.mem_cons_of_mem c he)) (List.cons_ne_nil d l)]

theorem lines_intercalate {ls : List (List Char)}
    (clear : ∀ l ∈ ls, ∀ c ∈ l, isLineEnd c = false) (full : ∀ l ∈ ls, l ≠ []) :
    lines (['\n'].intercalate ls) = ls := by
  induction ls with
  | nil => rfl
  | cons l ls ih =>
    have first := clear l List.mem_cons_self
    cases ls with
    | nil =>
      rw [List.intercalate_singleton]
      exact lines_eq_self first (full l List.mem_cons_self)
    | cons next ls =>
      rw [List.intercalate_cons_cons, List.append_assoc, List.singleton_append,
        lines_append_newline first]
      exact congrArg (l :: ·) (ih (fun m hm => clear m (List.mem_cons_of_mem l hm))
        fun m hm => full m (List.mem_cons_of_mem l hm))

theorem not_isLineEnd_of_mem_splitLines {s line : String} (h : line ∈ splitLines s) :
    ∀ c ∈ line.toList, isLineEnd c = false := by
  obtain ⟨l, hl, rfl⟩ := List.mem_map.mp h
  rw [String.toList_ofList]
  exact not_isLineEnd_of_mem_lines hl

/-- Lines that are joined by line feeds are read back, if none is empty or has a line end in it. -/
theorem splitLines_intercalate {ls : List String}
    (clear : ∀ l ∈ ls, ∀ c ∈ l.toList, isLineEnd c = false) (full : ∀ l ∈ ls, l ≠ "") :
    splitLines ("\n".intercalate ls) = ls := by
  have read : lines (['\n'].intercalate (ls.map String.toList)) = ls.map String.toList := by
    apply lines_intercalate
    · intro l hl
      obtain ⟨s, hs, rfl⟩ := List.mem_map.mp hl
      exact clear s hs
    · intro l hl
      obtain ⟨s, hs, rfl⟩ := List.mem_map.mp hl
      simpa using full s hs
  rw [splitLines, String.toList_intercalate]
  show (lines (['\n'].intercalate (ls.map String.toList))).map String.ofList = ls
  rw [read, List.map_map]
  simp [Function.comp_def]

end RouteDocs.Text
