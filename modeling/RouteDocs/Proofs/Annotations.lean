import RouteDocs.Block
import RouteDocs.Proofs.Text.Lines
import RouteDocs.Proofs.Text.Search
import RouteDocs.Proofs.Text.Trimming

/-!
# Annotations are read back from a text that is written for them

* `Marker.Carries`: the texts that a marker can have after it;
* `Marker.ofLine?_line`, `Marker.carries_of_ofLine?`: a line is read back exactly with such a text;
* `Block.Renderable`: the blocks all of whose texts can stand in their places;
* `annotations_round_trip`: a renderable block is read back, and only renderable blocks are read.
-/

namespace RouteDocs
namespace Marker

/-- The markers that a line is searched for before this one. -/
def earlier (m : Marker) : List Marker := all.takeWhile (· ≠ m)

/-- A line with the marker and the text after it has no other annotation: the text is trimmed and on
one line, and has no marker in it that is searched for before. -/
structure Carries (m : Marker) (t : String) : Prop where
  nonempty : t ≠ ""
  trimmed : Text.strip t = t
  oneLine : ∀ c ∈ t.toList, Text.isLineEnd c = false
  own : ∀ m' ∈ m.earlier, ¬ Text.Contains m'.word t

/-- The character that starts a marker stands nowhere else in it. -/
theorem word_eq (m : Marker) : ∃ rest : List Char, m.word.toList = '@' :: rest ∧ '@' ∉ rest := by
  cases m <;> exact ⟨_, rfl, by decide⟩

theorem not_isLineEnd_of_mem_word (m : Marker) :
    ∀ c ∈ m.word.toList, Text.isLineEnd c = false := by
  have clear : m.word.toList.any Text.isLineEnd = false := by cases m <;> decide
  simpa using clear

theorem word_not_start {m m' : Marker} (h : m' ∈ m.earlier) (t : String) :
    ¬ m'.word.toList <+: m.word.toList ++ ' ' :: t.toList := by
  cases m <;> cases m' <;> simp [earlier, all, List.takeWhile] at h <;>
    simp [word, List.cons_prefix_cons]

/-- A marker in a line of another stands in the text. -/
theorem contains_of_contains_line {m m' : Marker} {t : String} (h : m' ∈ m.earlier)
    (here : Text.Contains m'.word (Block.line m t)) : Text.Contains m'.word t := by
  obtain ⟨rest, spelled, clear⟩ := m.word_eq
  obtain ⟨rest', spelled', -⟩ := m'.word_eq
  have split : (Block.line m t).toList = m.word.toList ++ ' ' :: t.toList := by
    simp [Block.line]
  rw [Text.Contains, split] at here
  have start := word_not_start h t
  rw [spelled, List.cons_append] at here start
  rcases List.infix_cons_iff.mp here with first | later
  · exact absurd first start
  · have apart : '@' ∉ rest ++ [' '] := by simpa using clear
    rw [spelled'] at later
    rw [Text.Contains, spelled']
    exact Text.infix_of_append apart (by simpa using later)

theorem strip_blank_append (t : String) : Text.strip (" " ++ t) = Text.strip t := by
  rw [Text.strip, String.toList_append]
  show String.ofList (Text.trim (' ' :: t.toList)) = _
  rw [Text.trim_cons_of_blank (by decide), Text.strip]

/-- A line that is written for a marker is read back as its annotation. -/
theorem ofLine?_line {m : Marker} {t : String} (h : m.Carries t) :
    ofLine? (Block.line m t) = some (m, t) := by
  have skipped : ∀ m' ∈ m.earlier, Text.cut? m'.word (Block.line m t) = none := fun m' hm' =>
    (Text.cut?_eq_none_iff _ _).mpr fun here => h.own m' hm' (contains_of_contains_line hm' here)
  have found : Text.cut? m.word (Block.line m t) = some ("", " " ++ t) := by
    rw [Block.line, String.append_assoc]
    exact Text.cut?_append _ _
  have text : Text.strip (" " ++ t) = t := by rw [strip_blank_append, h.trimmed]
  cases m <;> simp_all [ofLine?, all, earlier, List.takeWhile]

/-- The annotation of a line follows its marker, and the line has no marker searched for before. -/
theorem cut?_of_ofLine? {line : String} {m : Marker} {t : String} (h : ofLine? line = some (m, t)) :
    (∃ before after, Text.cut? m.word line = some (before, after) ∧ Text.strip after = t) ∧
      ∀ m' ∈ m.earlier, Text.cut? m'.word line = none := by
  obtain ⟨skipped, found, later, whole, here, none⟩ := List.findSome?_eq_some_iff.mp h
  obtain ⟨⟨before, after⟩, cut, same⟩ := Option.map_eq_some_iff.mp here
  obtain ⟨rfl, strip⟩ := Prod.mk.inj same
  refine ⟨⟨before, after, cut, strip⟩, fun m' hm' => ?_⟩
  have before_found : m' ∈ skipped := by
    rw [earlier, whole, List.takeWhile_append] at hm'
    split at hm'
    · simpa using hm'
    · exact (List.takeWhile_prefix _).subset hm'
  exact Option.map_eq_none_iff.mp (none m' before_found)

/-- What is read of a line is a text that its marker can carry. -/
theorem carries_of_ofLine? {line : String} {m : Marker} {t : String}
    (clear : ∀ c ∈ line.toList, Text.isLineEnd c = false) (h : ofLine? line = some (m, t))
    (nonempty : t ≠ "") : m.Carries t := by
  obtain ⟨⟨before, after, cut, rfl⟩, skipped⟩ := cut?_of_ofLine? h
  have part : (Text.strip after).toList <:+: line.toList := by
    rw [Text.strip, String.toList_ofList]
    exact (Text.trim_infix _).trans (Text.infix_of_cut? cut)
  refine ⟨nonempty, Text.strip_strip after, fun c hc => clear c (part.subset hc), ?_⟩
  intro m' hm' here
  exact (Text.cut?_eq_none_iff _ _).mp (skipped m' hm') (here.trans part)

end Marker
namespace Block

/-- The annotations of a block, with the marker for a response where it is chosen. -/
def annotations (b : Block) (chosen : Nat → Bool) : List (Marker × String) :=
  (b.description.map (Marker.description, ·)).toList ++ b.params.map (Marker.parameter, ·) ++
    b.responses.mapIdx fun i r => (if chosen i then Marker.response else Marker.error, r)

/-- A documentation text with the annotations of a block, each on a line of its own. -/
def render (b : Block) (chosen : Nat → Bool) : String :=
  "\n".intercalate ((b.annotations chosen).map fun a => line a.1 a.2)

def texts (b : Block) : List String := b.description.toList ++ b.params ++ b.responses

/-- The blocks that can be read from a text. Every text is trimmed, on one line and not empty; no
declaration has the marker of descriptions in it, and no response that or the one of
declarations. -/
structure Renderable (b : Block) : Prop where
  texts : ∀ t ∈ b.texts, t ≠ "" ∧ Text.strip t = t ∧ ∀ c ∈ t.toList, Text.isLineEnd c = false
  params : ∀ p ∈ b.params, ¬ Text.Contains "@apiDesc" p
  responses : ∀ r ∈ b.responses, ¬ Text.Contains "@apiDesc" r ∧ ¬ Text.Contains "@apiParam" r

/-- The responses chosen to have the marker for a response have not the one for an error in them. -/
def CanChoose (b : Block) (chosen : Nat → Bool) : Prop :=
  ∀ i r, b.responses[i]? = some r → chosen i = true → ¬ Text.Contains "@apiErr" r

theorem carries_of_mem_annotations {b : Block} {chosen : Nat → Bool} (hb : b.Renderable)
    (can : b.CanChoose chosen) : ∀ a ∈ b.annotations chosen, a.1.Carries a.2 := by
  intro a ha
  rcases List.mem_append.mp ha with first | response
  · rcases List.mem_append.mp first with description | param
    · obtain ⟨t, ht, rfl⟩ := Option.map_eq_some_iff.mp (Option.mem_toList.mp description)
      obtain ⟨nonempty, trimmed, oneLine⟩ := hb.texts t (by simp [texts, ht])
      exact ⟨nonempty, trimmed, oneLine, by simp [Marker.earlier, Marker.all]⟩
    · obtain ⟨p, hp, rfl⟩ := List.mem_map.mp param
      obtain ⟨nonempty, trimmed, oneLine⟩ := hb.texts p (by simp [texts, hp])
      refine ⟨nonempty, trimmed, oneLine, ?_⟩
      simpa [Marker.earlier, Marker.all, Marker.word] using hb.params p hp
  · obtain ⟨i, hi, rfl⟩ := List.mem_mapIdx.mp response
    have here : b.responses[i] ∈ b.responses := List.getElem_mem hi
    obtain ⟨nonempty, trimmed, oneLine⟩ := hb.texts b.responses[i] (by simp [texts, here])
    obtain ⟨noDescription, noParameter⟩ := hb.responses _ here
    refine ⟨nonempty, trimmed, oneLine, ?_⟩
    by_cases choice : chosen i = true
    · have noError := can i _ (List.getElem?_eq_getElem hi) choice
      simp [choice, Marker.earlier, Marker.all, Marker.word, noDescription, noParameter, noError]
    · simp [choice, Marker.earlier, Marker.all, Marker.word, noDescription, noParameter]

theorem addLine_line {m : Marker} {t : String} (h : m.Carries t) (b : Block) :
    b.addLine (line m t) = b.add m t := by
  have full : t.isEmpty = false := by simpa using h.nonempty
  rw [addLine, Marker.ofLine?_line h]
  simp [full]

theorem not_isLineEnd_of_mem_line {m : Marker} {t : String} (h : m.Carries t) :
    ∀ c ∈ (line m t).toList, Text.isLineEnd c = false := by
  intro c hc
  rw [line, String.toList_append, String.toList_append] at hc
  rcases List.mem_append.mp hc with first | text
  · rcases List.mem_append.mp first with marker | blank
    · exact m.not_isLineEnd_of_mem_word c marker
    · rw [List.mem_singleton.mp (blank : c ∈ [' '])]
      rfl
  · exact h.oneLine c text

theorem foldl_addLine {as : List (Marker × String)} (h : ∀ a ∈ as, a.1.Carries a.2) (b : Block) :
    (as.map fun a => line a.1 a.2).foldl addLine b = as.foldl (fun b a => b.add a.1 a.2) b := by
  induction as generalizing b with
  | nil => rfl
  | cons a as ih =>
    rw [List.map_cons, List.foldl_cons, List.foldl_cons, addLine_line (h a List.mem_cons_self)]
    exact ih (fun a' ha' => h a' (List.mem_cons_of_mem a ha')) _

/-- Annotations on lines of their own are read in their order. -/
theorem ofText_intercalate {as : List (Marker × String)} (h : ∀ a ∈ as, a.1.Carries a.2) :
    ofText ("\n".intercalate (as.map fun a => line a.1 a.2)) =
      as.foldl (fun b a => b.add a.1 a.2) empty := by
  rw [ofText, Text.splitLines_intercalate, foldl_addLine h]
  · intro l hl
    obtain ⟨a, ha, rfl⟩ := List.mem_map.mp hl
    exact not_isLineEnd_of_mem_line (h a ha)
  · intro l hl
    obtain ⟨a, -, rfl⟩ := List.mem_map.mp hl
    simp [line]

theorem foldl_add_params (ps : List String) (b : Block) :
    (ps.map (Marker.parameter, ·)).foldl (fun b a => b.add a.1 a.2) b =
      { b with params := b.params ++ ps } := by
  induction ps generalizing b with
  | nil => simp
  | cons p ps ih =>
    rw [List.map_cons, List.foldl_cons, ih]
    simp [add]

theorem foldl_add_responses {as : List (Marker × String)}
    (h : ∀ a ∈ as, a.1 = .error ∨ a.1 = .response) (b : Block) :
    as.foldl (fun b a => b.add a.1 a.2) b =
      { b with responses := b.responses ++ as.map Prod.snd } := by
  induction as generalizing b with
  | nil => simp
  | cons a as ih =>
    have first : b.add a.1 a.2 = { b with responses := b.responses ++ [a.2] } := by
      rcases h a List.mem_cons_self with error | response
      · rw [error, add]
      · rw [response, add]
    rw [List.foldl_cons, first, ih fun a' ha' => h a' (List.mem_cons_of_mem a ha')]
    simp

theorem foldl_add_annotations (b : Block) (chosen : Nat → Bool) :
    (b.annotations chosen).foldl (fun b a => b.add a.1 a.2) empty = b := by
  have responses : ∀ a ∈ b.responses.mapIdx fun i r =>
      (if chosen i then Marker.response else Marker.error, r), a.1 = .error ∨ a.1 = .response := by
    intro a ha
    obtain ⟨i, hi, rfl⟩ := List.mem_mapIdx.mp ha
    cases chosen i <;> simp
  have texts : (b.responses.mapIdx fun i r =>
      (if chosen i then Marker.response else Marker.error, r)).map Prod.snd = b.responses := by
    apply List.ext_getElem?
    intro i
    rw [List.getElem?_map, List.getElem?_mapIdx]
    cases b.responses[i]? <;> rfl
  rw [annotations, List.foldl_append, List.foldl_append, foldl_add_responses responses,
    foldl_add_params, texts]
  obtain ⟨_ | description, params, responses⟩ := b <;> simp [empty, add]

/-- A block that can be read from a text is read from the text written for it. -/
theorem ofText_render {b : Block} {chosen : Nat → Bool} (hb : b.Renderable)
    (can : b.CanChoose chosen) : ofText (b.render chosen) = b := by
  rw [render, ofText_intercalate (carries_of_mem_annotations hb can), foldl_add_annotations]

theorem renderable_empty : empty.Renderable := by
  constructor <;> simp [empty, texts]

theorem mem_texts_add {b : Block} {m : Marker} {t u : String} (h : u ∈ (b.add m t).texts) :
    u = t ∨ u ∈ b.texts := by
  cases m <;> simp only [add, texts, List.mem_append, Option.mem_toList, List.mem_singleton,
    Option.some.injEq] at h ⊢ <;> grind

/-- An annotation that a marker can carry keeps a block renderable. -/
theorem Renderable.add {b : Block} {m : Marker} {t : String} (hb : b.Renderable)
    (h : m.Carries t) : (b.add m t).Renderable := by
  have texts : ∀ u ∈ (b.add m t).texts,
      u ≠ "" ∧ Text.strip u = u ∧ ∀ c ∈ u.toList, Text.isLineEnd c = false := by
    intro u hu
    rcases mem_texts_add hu with rfl | old
    · exact ⟨h.nonempty, h.trimmed, h.oneLine⟩
    · exact hb.texts u old
  have own := h.own
  refine ⟨texts, ?_, ?_⟩
  · intro p hp
    cases m with
    | parameter =>
      rcases List.mem_append.mp hp with old | new
      · exact hb.params p old
      · rw [List.mem_singleton.mp new]
        exact own .description (by decide)
    | description | error | response => exact hb.params p hp
  · intro r hr
    cases m with
    | error | response =>
      rcases List.mem_append.mp hr with old | new
      · exact hb.responses r old
      · rw [List.mem_singleton.mp new]
        exact ⟨own .description (by decide), own .parameter (by decide)⟩
    | description | parameter => exact hb.responses r hr

theorem Renderable.addLine {b : Block} {l : String} (hb : b.Renderable)
    (clear : ∀ c ∈ l.toList, Text.isLineEnd c = false) : (b.addLine l).Renderable := by
  rw [Block.addLine]
  split
  · next m t read =>
    split
    · exact hb
    · next full => exact hb.add (Marker.carries_of_ofLine? clear read (by simpa using full))
  · exact hb

theorem Renderable.foldl_addLine {b : Block} {ls : List String} (hb : b.Renderable)
    (clear : ∀ l ∈ ls, ∀ c ∈ l.toList, Text.isLineEnd c = false) :
    (ls.foldl Block.addLine b).Renderable := by
  induction ls generalizing b with
  | nil => exact hb
  | cons l ls ih =>
    exact ih (hb.addLine (clear l List.mem_cons_self))
      fun m hm => clear m (List.mem_cons_of_mem l hm)

/-- Whatever is read is renderable. -/
theorem renderable_ofText? (doc : Option String) : (ofText? doc).Renderable := by
  cases doc with
  | none => exact renderable_empty
  | some doc =>
    exact renderable_empty.foldl_addLine fun l hl => Text.not_isLineEnd_of_mem_splitLines hl

end Block
/-- **Annotations round-trip.** A renderable block is read back from every text that is written for
it; whatever a text has as annotations is renderable; so reading, writing and reading again gives
what the first reading gave. -/
theorem annotations_round_trip :
    (∀ (b : Block) (chosen : Nat → Bool), b.Renderable → b.CanChoose chosen →
      Block.ofText? (some (b.render chosen)) = b) ∧
    (∀ doc : Option String, (Block.ofText? doc).Renderable) ∧
    ∀ (doc : Option String) (chosen : Nat → Bool), (Block.ofText? doc).CanChoose chosen →
      Block.ofText? (some ((Block.ofText? doc).render chosen)) = Block.ofText? doc := by
  refine ⟨fun b chosen hb can => ?_, Block.renderable_ofText?, fun doc chosen can => ?_⟩
  · exact Block.ofText_render hb can
  · exact Block.ofText_render (Block.renderable_ofText? doc) can

/-- A block whose second response is written with the marker for a response. -/
def sampleBlock : Block where
  description := some "Show @apiErr"
  params := ["integer $id | @apiResp"]
  responses := ["404 | @apiErr", "200 | Fine"]

theorem sampleBlock_round_trip :
    sampleBlock.Renderable ∧ sampleBlock.CanChoose (· == 1) ∧
      sampleBlock.render (· == 1) =
        "@apiDesc Show @apiErr\n@apiParam integer $id | @apiResp\n" ++
          "@apiErr 404 | @apiErr\n@apiResp 200 | Fine" ∧
      Block.ofText? (some (sampleBlock.render (· == 1))) = sampleBlock := by
  have oneLine : ∀ t ∈ sampleBlock.texts, t ≠ "" ∧ Text.strip t = t ∧
      t.toList.any Text.isLineEnd = false := by decide +kernel
  have renderable : sampleBlock.Renderable := by
    refine ⟨fun t ht => ?_, by decide +kernel, by decide +kernel⟩
    simpa using oneLine t ht
  have can : sampleBlock.CanChoose (· == 1) := by
    intro i r hr chosen
    obtain rfl : i = 1 := by simpa using chosen
    obtain rfl := Option.some.inj hr
    decide +kernel
  exact ⟨renderable, can, by decide +kernel, annotations_round_trip.1 sampleBlock _ renderable can⟩

end RouteDocs
