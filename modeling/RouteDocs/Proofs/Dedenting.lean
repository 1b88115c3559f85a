import RouteDocs.Proofs.AnnotationLines
import RouteDocs.Proofs.DeclarationGrammar
import RouteDocs.Proofs.Parameters
import RouteDocs.Proofs.Text.Dedent

/-!
# Annotations of a text without its margin

* `Block.SameWords`: blocks whose texts have the same words;
* `Block.sameWords_ofText`: they are read from texts with the same words on their lines;
* `Param.all_agrees`: declarations of the same words declare parameters that agree, or have a fault;
* `dedenting_keeps_annotations`: taking the margin off a text changes blanks of its annotations
  only, and nothing where it has no tabs.
-/

namespace RouteDocs

namespace Marker

/-- The annotation of a line with the words of its text. -/
def wordsOfLine? (line : String) : Option (Marker × List String) :=
  (ofLine? line).map fun a => (a.1, Text.split a.2)

/-- It is told from the words of the line. -/
theorem wordsOfLine?_of_split {l l' : String} (same : Text.split l = Text.split l') :
    wordsOfLine? l = wordsOfLine? l' := by
  have told (line : String) (m : Marker) :
      (((Text.cut? m.word line).map fun x => (m, Text.strip x.2)).map
        fun a => (a.1, Text.split a.2)) =
      (Text.cutWords? m.word.toList (Text.words line.toList)).map
        fun x => (m, x.2.map String.ofList) := by
    rw [← Text.words_cutAt? m.word_ne_nil m.not_blank_of_mem_word, Text.cut?]
    simp only [Option.map_map]
    apply Option.map_congr
    intro x _
    rw [Function.comp_apply, Function.comp_apply, Function.comp_apply, Text.split_strip, Text.split,
      String.toList_ofList]
  rw [wordsOfLine?, wordsOfLine?, ofLine?, ofLine?, List.map_findSome?, List.map_findSome?]
  apply congrArg all.findSome?
  funext m
  exact (told l m).trans (Text.words_eq_of_split same ▸ (told l' m).symm)

theorem isEmpty_of_ofLine? {line t : String} {m : Marker} (h : ofLine? line = some (m, t)) :
    t.isEmpty = (Text.split t).isEmpty := by
  obtain ⟨⟨before, after, -, rfl⟩, -⟩ := cut?_of_ofLine? h
  rw [Bool.eq_iff_iff, String.isEmpty_iff, List.isEmpty_iff, Text.split_strip,
    Text.strip_eq_empty_iff]

end Marker

namespace Block

/-- Blocks with the same number of declarations and of responses, of which both have a description
or neither has, and all of whose texts have the same words. -/
structure SameWords (b c : Block) : Prop where
  description : b.description.map Text.split = c.description.map Text.split
  params : b.params.map Text.split = c.params.map Text.split
  responses : b.responses.map Text.split = c.responses.map Text.split

namespace SameWords
variable {b c : Block}

theorem refl (b : Block) : b.SameWords b := ⟨rfl, rfl, rfl⟩

theorem add (h : b.SameWords c) (m : Marker) {t t' : String} (same : Text.split t = Text.split t') :
    (b.add m t).SameWords (c.add m t') := by
  obtain ⟨description, params, responses⟩ := h
  cases m <;> constructor <;> simp [Block.add, description, params, responses, same]

/-- What a line adds is told from its words, but for the blanks of the text. -/
theorem addLine (h : b.SameWords c) {l l' : String} (same : Text.split l = Text.split l') :
    (b.addLine l).SameWords (c.addLine l') := by
  have read := Marker.wordsOfLine?_of_split same
  rw [Marker.wordsOfLine?, Marker.wordsOfLine?] at read
  rw [Block.addLine, Block.addLine]
  cases here : Marker.ofLine? l with
  | none =>
    rw [here, Option.map_none, eq_comm, Option.map_eq_none_iff] at read
    rw [read]
    exact h
  | some annotation =>
    obtain ⟨m, t⟩ := annotation
    rw [here, Option.map_some, eq_comm, Option.map_eq_some_iff] at read
    obtain ⟨⟨m', t'⟩, there, pair⟩ := read
    obtain ⟨rfl, words⟩ := Prod.mk.inj pair
    have empty : t.isEmpty = t'.isEmpty := by
      rw [Marker.isEmpty_of_ofLine? here, Marker.isEmpty_of_ofLine? there, words]
    rw [there]
    simp only [empty]
    split
    · exact h
    · exact h.add m' words.symm

theorem foldl_addLine {ls ls' : List String} (same : ls.map Text.split = ls'.map Text.split)
    (h : b.SameWords c) : (ls.foldl Block.addLine b).SameWords (ls'.foldl Block.addLine c) := by
  induction ls generalizing ls' b c with
  | nil =>
    obtain rfl := List.map_eq_nil_iff.mp same.symm
    exact h
  | cons l ls ih =>
    obtain ⟨l', rest, rfl, first, others⟩ := List.map_eq_cons_iff.mp same.symm
    rw [List.foldl_cons, List.foldl_cons]
    exact ih others.symm (h.addLine first.symm)

end SameWords

/-- Texts with the same words on their lines have blocks of the same words. -/
theorem sameWords_ofText {doc doc' : String} (same : (Text.contentLines doc).map Text.split =
    (Text.contentLines doc').map Text.split) : (ofText doc).SameWords (ofText doc') := by
  rw [ofText_eq, ofText_eq]
  exact (SameWords.refl empty).foldl_addLine same

end Block

/-- The words before the bar are told from all words. -/
theorem Declaration.words_of_split {d d' : String} (same : Text.split d = Text.split d') :
    Declaration.words d = Declaration.words d' := by
  have solid : Text.isBlank '|' = false := by decide
  have directive := Text.words_cutAtChar solid (Text.words_eq_of_split same)
  simp only [Declaration.words, Text.cut, Text.split, String.toList_ofList, directive]

namespace Param

/-- Declarations of the same words declare parameters that agree, or neither declares one. -/
theorem ofRoute_agrees {d d' : String} (same : Text.split d = Text.split d') (r : Route) :
    (∃ failure failure', ofRoute r d = .error failure ∧ ofRoute r d' = .error failure') ∨
      ∃ p p', ofRoute r d = .ok p ∧ ofRoute r d' = .ok p' ∧ p.Agrees p' := by
  have words := Declaration.words_of_split same
  have perm : (Declaration.words d).Perm (Declaration.words d') := by rw [words]
  rcases Declaration.ofDeclaration_alike perm (by rw [words]) with
    ⟨fault, left, right⟩ | ⟨t, name, left, right⟩
  · simp only [ofRoute, left, right]
    cases fault <;> exact .inl ⟨_, _, rfl, rfl⟩
  · simp only [ofRoute, left, right]
    exact .inr ⟨_, _, rfl, rfl, Declaration.param_agrees perm t name⟩

theorem mapM_ofRoute_agrees {ds ds' : List String} (same : ds.map Text.split = ds'.map Text.split)
    (r : Route) :
    (∃ failure failure', ds.mapM (ofRoute r) = .error failure ∧
      ds'.mapM (ofRoute r) = .error failure') ∨
    ∃ ps qs, ds.mapM (ofRoute r) = .ok ps ∧ ds'.mapM (ofRoute r) = .ok qs ∧
      List.Forall₂ Agrees ps qs := by
  induction ds generalizing ds' with
  | nil =>
    obtain rfl := List.map_eq_nil_iff.mp same.symm
    exact .inr ⟨[], [], rfl, rfl, .nil⟩
  | cons d ds ih =>
    obtain ⟨d', rest, rfl, first, others⟩ := List.map_eq_cons_iff.mp same.symm
    rw [List.mapM_cons, List.mapM_cons]
    rcases ofRoute_agrees first.symm r with ⟨f, f', left, right⟩ | ⟨p, p', left, right, agree⟩
    · rw [left, right]
      exact .inl ⟨f, f', rfl, rfl⟩
    · rw [left, right]
      rcases ih others.symm with ⟨f, f', behind, behind'⟩ | ⟨ps, qs, behind, behind', agrees⟩
      · rw [behind, behind']
        exact .inl ⟨f, f', rfl, rfl⟩
      · rw [behind, behind']
        exact .inr ⟨p :: ps, p' :: qs, rfl, rfl, .cons agree agrees⟩

theorem map_name_of_agrees {ps qs : List Param} (h : List.Forall₂ Agrees ps qs) :
    ps.map name = qs.map name := by
  induction h with
  | nil => rfl
  | cons first _ ih => rw [List.map_cons, List.map_cons, first.name, ih]

theorem lastOfEach_agrees {ps qs : List Param} (h : List.Forall₂ Agrees ps qs) :
    List.Forall₂ Agrees (lastOfEach ps) (lastOfEach qs) := by
  induction h with
  | nil => exact .nil
  | cons first rest ih =>
    rw [lastOfEach, lastOfEach, first.name, map_name_of_agrees rest]
    split
    · exact ih
    · exact .cons first ih

/-- The same for all declarations of a route. -/
theorem all_agrees {ds ds' : List String} (same : ds.map Text.split = ds'.map Text.split)
    (r : Route) :
    (∃ failure failure', all ds r = .error failure ∧ all ds' r = .error failure') ∨
      ∃ ps qs, all ds r = .ok ps ∧ all ds' r = .ok qs ∧ List.Forall₂ Agrees ps qs := by
  rw [all_eq, all_eq]
  rcases mapM_ofRoute_agrees same r with ⟨f, f', left, right⟩ | ⟨ps, qs, left, right, agree⟩
  · rw [left, right]
    exact .inl ⟨f, f', rfl, rfl⟩
  · rw [left, right]
    have inferred : List.Forall₂ Agrees (Placeholder.undeclared r.uri (ps.map name))
        (Placeholder.undeclared r.uri (qs.map name)) := by
      rw [map_name_of_agrees agree]
      exact List.forall₂_same.mpr fun p _ => Agrees.refl p
    exact .inr ⟨Placeholder.undeclared r.uri (ps.map name) ++ lastOfEach ps,
      Placeholder.undeclared r.uri (qs.map name) ++ lastOfEach qs, rfl, rfl,
      List.rel_append inferred (lastOfEach_agrees agree)⟩

end Param

/-- **Taking the margin off a text keeps its annotations.** As many declarations and responses are
read as before, a description exactly if there was one, and all of them with the words that they
had; of a text without tabs even the same block is read. For every route, therefore, the
declarations have a fault both times or declare parameters both times that differ in their
descriptions only. -/
theorem dedenting_keeps_annotations (doc : String) :
    (Block.ofText (Text.dedent doc)).SameWords (Block.ofText doc) ∧
    ('\t' ∉ doc.toList → Block.ofText (Text.dedent doc) = Block.ofText doc) ∧
    ∀ r : Route,
      (∃ failure failure', Param.all (Block.ofText (Text.dedent doc)).params r = .error failure ∧
        Param.all (Block.ofText doc).params r = .error failure') ∨
      ∃ ps qs, Param.all (Block.ofText (Text.dedent doc)).params r = .ok ps ∧
        Param.all (Block.ofText doc).params r = .ok qs ∧ List.Forall₂ Param.Agrees ps qs := by
  have same : (Block.ofText (Text.dedent doc)).SameWords (Block.ofText doc) :=
    Block.sameWords_ofText (Text.split_contentLines_dedent doc)
  refine ⟨same, ?_, ?_⟩
  · intro clear
    rw [Block.ofText_eq, Block.ofText_eq, Text.contentLines_dedent clear]
  · intro r
    exact Param.all_agrees same.params r

theorem dedenting_keeps_annotations_user :
    let doc := "User.\n\n  @apiParam file $id\n    @apiErr 404 | None\n  "
    '\t' ∉ doc.toList ∧
      Text.dedent doc = "User.\n\n@apiParam file $id\n  @apiErr 404 | None" ∧
      Block.ofText (Text.dedent doc) = Block.ofText doc ∧
      Block.ofText doc = ⟨none, ["file $id"], ["404 | None"]⟩ := by
  intro doc
  have clear : '\t' ∉ doc.toList := by decide
  exact ⟨clear, by decide +kernel, (dedenting_keeps_annotations doc).2.1 clear, by decide +kernel⟩

/-- A tab inside of an annotation does become spaces. -/
example : Block.ofText (Text.dedent "@apiDesc a\tb") = ⟨some "a      b", [], []⟩ := by
  decide +kernel

end RouteDocs
