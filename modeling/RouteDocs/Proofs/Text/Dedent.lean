import Mathlib.Data.List.Forall2
import RouteDocs.Proofs.Text.Content
import RouteDocs.Proofs.Text.Words
import RouteDocs.Text.Dedent

namespace RouteDocs.Text

/-- The second text is the first with at least one space for every tab, but for tabs that stay. -/
inductive Expands : List Char → List Char → Prop
  | nil : Expands [] []
  | tab (n : Nat) {cs ds : List Char} (rest : Expands cs ds) :
      Expands ('\t' :: cs) (List.replicate (n + 1) ' ' ++ ds)
  | char (c : Char) {cs ds : List Char} (rest : Expands cs ds) : Expands (c :: cs) (c :: ds)

theorem expands_expandTabsFrom (column : Nat) (cs : List Char) :
    Expands cs (expandTabsFrom column cs) := by
  induction cs generalizing column with
  | nil => exact .nil
  | cons c cs ih =>
    rw [expandTabsFrom]
    split
    · next tab =>
      have width : 8 - column % 8 = (7 - column % 8) + 1 := by omega
      subst tab
      rw [width]
      exact .tab _ (ih _)
    · split <;> exact .char c (ih _)

theorem expandTabsFrom_of_clear {cs : List Char} (clear : '\t' ∉ cs) (column : Nat) :
    expandTabsFrom column cs = cs := by
  induction cs generalizing column with
  | nil => rfl
  | cons c cs ih =>
    obtain ⟨apart, rest⟩ := not_or.mp (mt List.mem_cons.mpr clear)
    rw [expandTabsFrom, if_neg (Ne.symm apart)]
    split <;> rw [ih rest]

namespace Expands
variable {cs ds : List Char}

theorem head?_eq_newline_iff (h : Expands cs ds) :
    cs.head? = some '\n' ↔ ds.head? = some '\n' := by
  cases h with
  | nil => rfl
  | tab n rest => simp [List.replicate_succ]
  | char c rest => rfl

/-- No line end is added or lost. -/
theorem lines (h : Expands cs ds) : List.Forall₂ Expands (Text.lines cs) (Text.lines ds) := by
  induction h with
  | nil => exact .nil
  | @tab n cs ds rest ih =>
    have inner : ∀ c ∈ List.replicate (n + 1) ' ', isLineEnd c = false := by
      intro c hc
      rw [List.eq_of_mem_replicate hc]
      rfl
    rw [lines_cons (by decide), lines_inner_append inner (by simp)]
    generalize Text.lines cs = ls, Text.lines ds = ls' at ih ⊢
    cases ih with
    | nil => simpa using tab n .nil
    | cons first others => exact .cons (.tab n first) others
  | @char c cs ds rest ih =>
    cases ends : isLineEnd c with
    | true =>
      by_cases pair : c = '\r' ∧ cs.head? = some '\n'
      · obtain ⟨more, rfl⟩ := List.head?_eq_some_iff.mp pair.2
        obtain ⟨more', rfl⟩ := List.head?_eq_some_iff.mp (rest.head?_eq_newline_iff.mp pair.2)
        rw [pair.1, lines_of_pair, lines_of_pair]
        exact ih
      · have pair' : ¬ (c = '\r' ∧ ds.head? = some '\n') := by
          rwa [← rest.head?_eq_newline_iff]
        rw [lines_of_end ends pair, lines_of_end ends pair']
        exact .cons .nil ih
    | false =>
      rw [lines_cons ends, lines_cons ends]
      generalize Text.lines cs = ls, Text.lines ds = ls' at ih ⊢
      cases ih with
      | nil => exact .cons (.char c .nil) .nil
      | cons first others => exact .cons (.char c first) others

/-- The characters before the first blank stay, and the words behind it. Equal words alone would not
do, as a character before the text can join its first word or stand apart from it. -/
theorem pieces_alike (h : Expands cs ds) : ∃ w ws ws', pieces isBlank cs = w :: ws ∧
    pieces isBlank ds = w :: ws' ∧ ws.filter (! ·.isEmpty) = ws'.filter (! ·.isEmpty) := by
  induction h with
  | nil => exact ⟨[], [], [], rfl, rfl, rfl⟩
  | @tab n cs ds rest ih =>
    obtain ⟨w, ws, ws', first, first', same⟩ := ih
    have blank : ∀ c ∈ List.replicate n ' ', isBlank c = true := by
      intro c hc
      rw [List.eq_of_mem_replicate hc]
      rfl
    refine ⟨[], pieces isBlank cs, pieces isBlank (List.replicate n ' ' ++ ds),
      pieces_cons_of_mark (by decide) cs, pieces_cons_of_mark (by decide) _, ?_⟩
    show words cs = words (List.replicate n ' ' ++ ds)
    rw [words_blanks_append blank, words, words, first, first', List.filter_cons, List.filter_cons,
      same]
  | @char c cs ds rest ih =>
    obtain ⟨w, ws, ws', first, first', same⟩ := ih
    cases blank : isBlank c with
    | true =>
      refine ⟨[], pieces isBlank cs, pieces isBlank ds, pieces_cons_of_mark blank cs,
        pieces_cons_of_mark blank ds, ?_⟩
      rw [first, first', List.filter_cons, List.filter_cons, same]
    | false =>
      exact ⟨c :: w, ws, ws', pieces_cons_of_clear blank first, pieces_cons_of_clear blank first',
        same⟩

theorem words_eq (h : Expands cs ds) : words cs = words ds := by
  obtain ⟨w, ws, ws', first, first', same⟩ := h.pieces_alike
  rw [words, words, first, first', List.filter_cons, List.filter_cons, same]

end Expands

/-- The words of the lines with content are those of the lines with words. -/
theorem map_words_content (cs : List Char) :
    (content cs).map words = ((lines cs).map words).filter (· ≠ []) := by
  rw [content]
  induction lines cs with
  | nil => rfl
  | cons l ls ih =>
    rw [List.map_cons, List.map_cons, List.filter_cons, List.filter_cons]
    simp only [ne_eq, trim_eq_nil_iff, decide_not] at ih ⊢
    split
    · rw [List.map_cons, words_trim, ih]
    · exact ih

theorem words_content_of_expands {cs ds : List Char} (h : Expands cs ds) :
    (content cs).map words = (content ds).map words := by
  have each : ∀ {ls ls' : List (List Char)}, List.Forall₂ Expands ls ls' →
      ls.map words = ls'.map words := by
    intro ls ls' alike
    induction alike with
    | nil => rfl
    | cons first _ ih => rw [List.map_cons, List.map_cons, first.words_eq, ih]
  rw [map_words_content, map_words_content, each h.lines]

theorem content_trimStart (cs : List Char) : content (trimStart cs) = content cs := by
  have blank : ∀ c ∈ cs.takeWhile isBlank, isBlank c = true := fun c hc =>
    List.mem_takeWhile_imp hc
  have rest := content_blanks_append blank (trimStart cs)
  rw [trimStart, List.takeWhile_append_dropWhile] at rest
  exact rest.symm

/-- A margin is no wider than the indentation of a line that is not blank. -/
theorem margin_le_indentation {ls : List (List Char)} {l : List Char} (listed : l ∈ ls)
    (full : l.all isBlank = false) : (margin? ls).getD 0 ≤ indentation l := by
  have here : indentation l ∈ (ls.filter (! ·.all isBlank)).map indentation :=
    List.mem_map_of_mem (List.mem_filter.mpr ⟨listed, by rw [full]; rfl⟩)
  rw [margin?]
  cases least : ((ls.filter (! ·.all isBlank)).map indentation).min? with
  | none => exact Nat.zero_le _
  | some n => exact (List.min?_eq_some_iff.mp least).2 _ here

theorem content_drop_margin {ls : List (List Char)} {l : List Char} (listed : l ∈ ls) :
    content (l.drop ((margin? ls).getD 0)) = content l := by
  have blank : ∀ c ∈ l.take ((margin? ls).getD 0), isBlank c = true := by
    intro c hc
    cases full : l.all isBlank with
    | true => exact List.all_eq_true.mp full c (List.mem_of_mem_take hc)
    | false =>
      have within := List.take_subset_take_left l (margin_le_indentation listed full)
      have lead : l.take (indentation l) = l.takeWhile isBlank :=
        (List.prefix_iff_eq_take.mp (List.takeWhile_prefix isBlank)).symm
      exact List.mem_takeWhile_imp (lead ▸ within hc)
  have rest := content_blanks_append blank (l.drop ((margin? ls).getD 0))
  rw [List.take_append_drop] at rest
  exact rest.symm

theorem flatMap_content_dedentLines (ls : List (List Char)) :
    (dedentLines ls).flatMap content = ls.flatMap content := by
  cases ls with
  | nil => rfl
  | cons first rest =>
    rw [dedentLines, List.flatMap_cons, List.flatMap_cons, content_trimStart, List.flatMap_map]
    exact congrArg _ (List.flatMap_congr fun l listed => content_drop_margin listed)

theorem flatMap_content_of_empty {ls : List (List Char)} (empty : ∀ l ∈ ls, l.isEmpty = true) :
    ls.flatMap content = [] := by
  rw [List.flatMap_eq_nil_iff]
  intro l listed
  rw [List.isEmpty_iff.mp (empty l listed)]
  rfl

theorem flatMap_content_dropEmptyEnds (ls : List (List Char)) :
    (dropEmptyEnds ls).flatMap content = ls.flatMap content := by
  have last : (ls.rdropWhile List.isEmpty).flatMap content = ls.flatMap content := by
    have whole := congrArg (List.flatMap content)
      (List.rdropWhile_append_rtakeWhile (p := List.isEmpty) (l := ls))
    rw [List.flatMap_append, flatMap_content_of_empty fun l hl => List.mem_rtakeWhile_imp hl,
      List.append_nil] at whole
    exact whole
  have first (ms : List (List Char)) :
      (ms.dropWhile List.isEmpty).flatMap content = ms.flatMap content := by
    have whole := congrArg (List.flatMap content)
      (List.takeWhile_append_dropWhile (p := List.isEmpty) (l := ms))
    rw [List.flatMap_append, flatMap_content_of_empty fun l hl => List.mem_takeWhile_imp hl,
      List.nil_append] at whole
    exact whole
  exact (first _).trans last

theorem content_dedent (s : String) :
    content (dedent s).toList = content (expandTabsFrom 0 s.toList) := by
  rw [dedent, String.toList_ofList, content_intercalate, flatMap_content_dropEmptyEnds,
    flatMap_content_dedentLines, ← content_intercalate, intercalate_pieces]

/-- Without tabs a text keeps its lines with content. -/
theorem contentLines_dedent {s : String} (clear : '\t' ∉ s.toList) :
    contentLines (dedent s) = contentLines s := by
  rw [contentLines_eq, contentLines_eq, content_dedent, expandTabsFrom_of_clear clear]

/-- The lines with content keep their words. -/
theorem split_contentLines_dedent (s : String) :
    (contentLines (dedent s)).map split = (contentLines s).map split := by
  have same := words_content_of_expands (expands_expandTabsFrom 0 s.toList)
  have told (t : String) : (contentLines t).map split =
      ((content t.toList).map words).map (List.map String.ofList) := by
    rw [contentLines_eq, List.map_map, List.map_map]
    apply List.map_congr_left
    intro l _
    simp [split]
  rw [told, told, content_dedent, same]

end RouteDocs.Text
