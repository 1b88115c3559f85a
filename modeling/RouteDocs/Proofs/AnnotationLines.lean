import RouteDocs.Proofs.Annotations
import RouteDocs.Proofs.Text.Content

/-!
# The annotations of a text are those of its lines

* `Marker.ofLine?_strip`: blanks around a line do not matter;
* `Block.ofText_eq`: the lines with content decide about the annotations of a text;
* `Block.join`: the annotations of one block and then those of another;
* `Block.ofText_joined`: a text that is joined of two has the annotations of both;
* `annotations_of_lines`: the same for all lines of a text, each of which adds at most one
  annotation.
-/

namespace RouteDocs

namespace Marker

theorem word_ne_nil (m : Marker) : m.word.toList ≠ [] := by
  obtain ⟨rest, spelled, -⟩ := m.word_eq
  rw [spelled]
  exact List.cons_ne_nil _ _

/-- No marker has a blank in it. -/
theorem not_blank_of_mem_word (m : Marker) : ∀ c ∈ m.word.toList, Text.isBlank c = false := by
  have solid : m.word.toList.any Text.isBlank = false := by cases m <;> decide
  simpa using solid

theorem not_mem_word_of_blank (m : Marker) {gap : List Char}
    (blank : ∀ c ∈ gap, Text.isBlank c = true) : ∀ c ∈ gap, c ∉ m.word.toList := by
  intro c hc here
  have solid := m.not_blank_of_mem_word c here
  rw [blank c hc] at solid
  cases solid

theorem strip_cut? (m : Marker) (line : String) :
    (Text.cut? m.word (Text.strip line)).map (Text.strip ·.2) =
      (Text.cut? m.word line).map (Text.strip ·.2) := by
  obtain ⟨before, after, whole, blankBefore, blankAfter⟩ := Text.exists_trim line.toList
  have cut : Text.cutAt? m.word.toList line.toList =
      (Text.cutAt? m.word.toList (Text.trim line.toList)).map
        fun x => (before ++ x.1, x.2 ++ after) := by
    conv_lhs => rw [whole]
    rw [Text.cutAt?_append_clear m.word_ne_nil (m.not_mem_word_of_blank blankAfter),
      Text.cutAt?_clear_append m.word_ne_nil (m.not_mem_word_of_blank blankBefore),
      Option.map_map]
    rfl
  rw [Text.cut?, Text.cut?, cut, Text.strip, String.toList_ofList]
  simp only [Option.map_map]
  apply Option.map_congr
  intro x _
  simp only [Function.comp_apply, Text.strip, String.toList_ofList,
    Text.trim_append_blanks blankAfter]

/-- Blanks around a line do not matter. -/
theorem ofLine?_strip (line : String) : ofLine? (Text.strip line) = ofLine? line := by
  have same (m : Marker) :
      ((Text.cut? m.word (Text.strip line)).map fun x => (m, Text.strip x.2)) =
        (Text.cut? m.word line).map fun x => (m, Text.strip x.2) := by
    have paired := congrArg (Option.map (m, ·)) (m.strip_cut? line)
    simpa only [Option.map_map, Function.comp_def] using paired
  exact congrArg all.findSome? (funext same)

end Marker

namespace Block

theorem addLine_strip (b : Block) (line : String) :
    b.addLine (Text.strip line) = b.addLine line := by
  rw [addLine, Marker.ofLine?_strip]
  rfl

theorem addLine_of_blank (b : Block) {line : String} (blank : Text.strip line = "") :
    b.addLine line = b := by
  rw [← addLine_strip, blank]
  rfl

theorem foldl_addLine_content (ls : List String) (b : Block) :
    ((ls.map Text.strip).filter (· ≠ "")).foldl addLine b = ls.foldl addLine b := by
  induction ls generalizing b with
  | nil => rfl
  | cons l ls ih =>
    rw [List.map_cons, List.foldl_cons]
    by_cases blank : Text.strip l = ""
    · rw [List.filter_cons_of_neg (by simpa using blank), ih, addLine_of_blank b blank]
    · rw [List.filter_cons_of_pos (by simpa using blank), List.foldl_cons, ih, addLine_strip]

/-- The lines with content decide. -/
theorem ofText_eq (doc : String) : ofText doc = (Text.contentLines doc).foldl addLine empty :=
  (foldl_addLine_content (Text.splitLines doc) empty).symm

/-- The annotations of one block and then those of another, whose description wins. -/
def join (a b : Block) : Block where
  description := b.description.or a.description
  params := a.params ++ b.params
  responses := a.responses ++ b.responses

theorem join_empty (b : Block) : b.join empty = b := by
  simp [join, empty]

theorem join_assoc (a b c : Block) : (a.join b).join c = a.join (b.join c) := by
  simp [join, Option.or_assoc]

/-- What a line adds does not depend on the lines before. -/
theorem addLine_eq_join (b : Block) (line : String) :
    b.addLine line = b.join (empty.addLine line) := by
  rw [addLine, addLine]
  cases Marker.ofLine? line with
  | none => exact (join_empty b).symm
  | some annotation =>
    obtain ⟨m, t⟩ := annotation
    dsimp only
    split
    · exact (join_empty b).symm
    · cases m <;> simp [add, join, empty]

theorem foldl_addLine_eq_join (ls : List String) (b : Block) :
    ls.foldl addLine b = b.join (ls.foldl addLine empty) := by
  induction ls generalizing b with
  | nil => exact (join_empty b).symm
  | cons l ls ih =>
    rw [List.foldl_cons, List.foldl_cons, ih (b.addLine l), ih (empty.addLine l),
      addLine_eq_join b, join_assoc]

/-- A text that is joined of two has the annotations of both. -/
theorem ofText_joined (a b : String) : ofText (a ++ "\n" ++ b) = (ofText a).join (ofText b) := by
  rw [ofText_eq, ofText_eq, ofText_eq, Text.contentLines_joined, List.foldl_append,
    foldl_addLine_eq_join]

theorem params_foldl_addLine (ls : List String) :
    (ls.foldl addLine empty).params = (ls.map empty.addLine).flatMap params := by
  induction ls with
  | nil => rfl
  | cons l ls ih =>
    rw [List.foldl_cons, foldl_addLine_eq_join, List.map_cons, List.flatMap_cons, ← ih, join]

theorem responses_foldl_addLine (ls : List String) :
    (ls.foldl addLine empty).responses = (ls.map empty.addLine).flatMap responses := by
  induction ls with
  | nil => rfl
  | cons l ls ih =>
    rw [List.foldl_cons, foldl_addLine_eq_join, List.map_cons, List.flatMap_cons, ← ih, join]

theorem description_foldl_addLine (ls : List String) :
    (ls.foldl addLine empty).description =
      ((ls.map empty.addLine).filterMap description).getLast? := by
  induction ls with
  | nil => rfl
  | cons l ls ih =>
    rw [List.foldl_cons, foldl_addLine_eq_join, List.map_cons, List.filterMap_cons, join, ih]
    cases (empty.addLine l).description with
    | none => exact Option.or_none
    | some t => rw [List.getLast?_cons, ← Option.or_some]

/-- A line adds at most one annotation. -/
theorem length_texts_addLine (line : String) : (empty.addLine line).texts.length ≤ 1 := by
  rw [addLine]
  split
  · next m t _ =>
    split
    · exact Nat.zero_le 1
    · cases m <;> exact Nat.le_refl 1
  · exact Nat.zero_le 1

end Block

/-- **The lines of a text decide about its annotations.** Only the lines that are not blank matter,
and of them only what trimming leaves. A text that is joined of two has the declarations and the
responses of the first and then those of the second, and the description of the second if it has
one. All annotations of a text are annotations of its lines, and no line has more than one. -/
theorem annotations_of_lines :
    (∀ doc, Block.ofText ("\n".intercalate (Text.contentLines doc)) = Block.ofText doc) ∧
    (∀ a b,
      (Block.ofText (a ++ "\n" ++ b)).params = (Block.ofText a).params ++ (Block.ofText b).params ∧
      (Block.ofText (a ++ "\n" ++ b)).responses =
        (Block.ofText a).responses ++ (Block.ofText b).responses ∧
      (Block.ofText (a ++ "\n" ++ b)).description =
        (Block.ofText b).description.or (Block.ofText a).description) ∧
    (∀ doc, let added := (Text.splitLines doc).map Block.empty.addLine
      (Block.ofText doc).params = added.flatMap Block.params ∧
      (Block.ofText doc).responses = added.flatMap Block.responses ∧
      (Block.ofText doc).description = (added.filterMap Block.description).getLast?) ∧
    ∀ line, (Block.empty.addLine line).texts.length ≤ 1 := by
  refine ⟨fun doc => ?_, fun a b => ?_, fun doc => ?_, Block.length_texts_addLine⟩
  · rw [Block.ofText, Text.splitLines_contentLines, Block.ofText_eq]
  · rw [Block.ofText_joined]
    exact ⟨rfl, rfl, rfl⟩
  · exact ⟨Block.params_foldl_addLine _, Block.responses_foldl_addLine _,
      Block.description_foldl_addLine _⟩

end RouteDocs
