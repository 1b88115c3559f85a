import RouteDocs.Proofs.Text.Lines
import RouteDocs.Proofs.Text.Trimming

namespace RouteDocs.Text

/-- The lines of some characters that are not blank, trimmed. -/
def content (cs : List Char) : List (List Char) := ((lines cs).map trim).filter (· ≠ [])

/-- The lines of a text that are not blank, trimmed. -/
def contentLines (s : String) : List String := ((splitLines s).map strip).filter (· ≠ "")

theorem contentLines_eq (s : String) : contentLines s = (content s.toList).map .ofList := by
  have stripped : (splitLines s).map strip = ((lines s.toList).map trim).map .ofList := by
    simp [splitLines, strip, Function.comp_def]
  rw [contentLines, stripped, List.filter_map, content]
  apply congrArg (List.map _)
  apply List.filter_congr
  intro l _
  simp

theorem content_cons_of_blank {c : Char} (blank : isBlank c = true) (cs : List Char) :
    content (c :: cs) = content cs := by
  cases ends : isLineEnd c with
  | true =>
    by_cases pair : c = '\r' ∧ cs.head? = some '\n'
    · obtain ⟨rfl, feed⟩ := pair
      obtain ⟨rest, rfl⟩ := List.head?_eq_some_iff.mp feed
      rw [content, lines_of_pair, content]
    · rw [content, lines_of_end ends pair]
      rfl
  | false =>
    rw [content, lines_cons ends, content]
    cases lines cs with
    | nil =>
      have alone : trim [c] = [] := trim_cons_of_blank blank []
      simp [alone]
    | cons l ls => simp [trim_cons_of_blank blank]

theorem content_blanks_append {gap : List Char} (blank : ∀ c ∈ gap, isBlank c = true)
    (cs : List Char) : content (gap ++ cs) = content cs := by
  induction gap with
  | nil => rfl
  | cons c gap ih =>
    obtain ⟨first, others⟩ := List.forall_mem_cons.mp blank
    rw [List.cons_append, content_cons_of_blank first, ih others]

/-- The line feed between two texts can end the last line of the first or a line of its own. -/
theorem content_joined (cs rest : List Char) :
    content (cs ++ '\n' :: rest) = content cs ++ content rest := by
  obtain ⟨gap, empty, joined⟩ := lines_joined cs rest
  have nothing : (gap.map trim).filter (· ≠ []) = [] := by
    rw [List.filter_eq_nil_iff]
    intro l hl
    obtain ⟨l', hl', rfl⟩ := List.mem_map.mp hl
    rw [empty l' hl']
    decide
  simp only [content, joined, List.map_append, List.filter_append, nothing, List.append_nil]

theorem content_intercalate (parts : List (List Char)) :
    content (['\n'].intercalate parts) = parts.flatMap content := by
  induction parts with
  | nil => rfl
  | cons part parts ih =>
    cases parts with
    | nil => simp
    | cons next parts =>
      rw [List.intercalate_cons_cons, List.append_assoc, List.singleton_append, content_joined, ih,
        ← List.flatMap_cons]

theorem contentLines_joined (a b : String) :
    contentLines (a ++ "\n" ++ b) = contentLines a ++ contentLines b := by
  have split : (a ++ "\n" ++ b).toList = a.toList ++ '\n' :: b.toList := by simp
  rw [contentLines_eq, contentLines_eq, contentLines_eq, split, content_joined, List.map_append]

/-- Lines with content are read back where they are joined by line feeds. -/
theorem splitLines_contentLines (s : String) :
    splitLines ("\n".intercalate (contentLines s)) = contentLines s := by
  apply splitLines_intercalate
  · intro line here
    obtain ⟨whole, listed, rfl⟩ := List.mem_map.mp (List.mem_filter.mp here).1
    intro c hc
    rw [strip, String.toList_ofList] at hc
    have part := trim_infix whole.toList
    exact not_isLineEnd_of_mem_splitLines listed c (part.subset hc)
  · intro line here
    exact of_decide_eq_true (List.mem_filter.mp here).2

end RouteDocs.Text
