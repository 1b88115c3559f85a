import RouteDocs.Proofs.Declaration
import RouteDocs.Proofs.Text.Separator
import RouteDocs.Proofs.Text.Words

/-!
# The grammar of declarations

* `Param.Agrees`: parameters that differ in the description only;
* `Declaration.grammar`: the words of a declaration, and words that mean nothing;
* `Declaration.IsExtra`: a word that means nothing;
* `Declaration.ofDeclaration_alike`, `Declaration.ofDeclaration_of_perm`: the order of the words
  does not matter, but for those with a dollar sign;
* `declarations_in_any_order`: what such words declare, in whatever order and with whatever blanks.
-/

namespace RouteDocs

namespace Param

/-- Parameters that differ in the description only. -/
structure Agrees (p q : Param) : Prop where
  name : p.name = q.name
  location : p.location = q.location
  required : p.required = q.required
  type : p.type = q.type
  format : p.format = q.format

theorem Agrees.refl (p : Param) : p.Agrees p := ⟨rfl, rfl, rfl, rfl, rfl⟩

theorem Agrees.eq {p q : Param} (h : p.Agrees q) (same : p.description = q.description) :
    p = q := by
  obtain ⟨name, location, required, type, format⟩ := h
  cases p
  cases q
  simp_all

end Param

namespace Declaration

theorem find?_of_mem_iff {ws ws' : List String}
    (same : ∀ t ∈ ParamType.all, t.word ∈ ws ↔ t.word ∈ ws') :
    ParamType.find? ws = ParamType.find? ws' := by
  have keep : ∀ ts : List ParamType, (∀ t ∈ ts, t.word ∈ ws ↔ t.word ∈ ws') →
      (ts.find? fun t => ws.contains t.word) = ts.find? fun t => ws'.contains t.word := by
    intro ts
    induction ts with
    | nil => intro _; rfl
    | cons t ts ih =>
      intro each
      obtain ⟨first, others⟩ := List.forall_mem_cons.mp each
      have equal : ws.contains t.word = ws'.contains t.word := by
        rw [Bool.eq_iff_iff, List.contains_iff_mem, List.contains_iff_mem]
        exact first
      rw [List.find?_cons, List.find?_cons, equal, ih others]
  exact keep ParamType.all same

section
variable {d d' : String} (perm : (words d).Perm (words d'))
include perm

theorem find?_of_perm : ParamType.find? (words d) = ParamType.find? (words d') :=
  find?_of_mem_iff fun _ _ => perm.mem_iff

/-- All but the description is told from the words. -/
theorem param_agrees (t : ParamType) (name : String) :
    (param d t name).Agrees (param d' t name) := by
  have left := perm.erase t.word
  refine ⟨rfl, ?_, ?_, rfl, rfl⟩
  · simp only [param, Param.locationIn, left.contains_eq]
  · simp only [param, left.contains_eq]

variable (dollars : (words d).filter isDollar = (words d').filter isDollar)
include dollars

/-- Two declarations with the same words in another order, and those with a dollar sign in the same
order, have the same fault or declare parameters of one type and name. -/
theorem ofDeclaration_alike :
    (∃ fault, Param.ofDeclaration d = .error fault ∧ Param.ofDeclaration d' = .error fault) ∨
      ∃ t name, Param.ofDeclaration d = .ok (param d t name) ∧
        Param.ofDeclaration d' = .ok (param d' t name) := by
  have names : Param.nameIn? (words d) = Param.nameIn? (words d') := by
    rw [nameIn?_eq, nameIn?_eq, ← List.head?_filter, ← List.head?_filter, dollars]
  have types := find?_of_perm perm
  cases chosen : ParamType.find? (words d) with
  | none =>
    have lacks := (find?_eq_none_iff d).mp chosen
    have lacks' := (find?_eq_none_iff d').mp (types ▸ chosen)
    refine .inl ⟨.missingType (Param.nameIn? (words d)), ofDeclaration_of_lacksType lacks, ?_⟩
    rw [ofDeclaration_of_lacksType lacks', names]
  | some t =>
    have chosen' : ParamType.find? (words d') = some t := types ▸ chosen
    by_cases noName : GivesNoName d
    · have noName' : GivesNoName d' := by rwa [givesNoName_iff, ← names, ← givesNoName_iff]
      rw [ofDeclaration_of_givesNoName chosen noName, ofDeclaration_of_givesNoName chosen' noName']
      split
      · exact .inr ⟨t, "file", rfl, rfl⟩
      · exact .inl ⟨_, rfl, rfl⟩
    · obtain ⟨name, named, nonempty⟩ :
          ∃ name, Param.nameIn? (words d) = some name ∧ name ≠ "" := by
        simpa [givesNoName_iff] using noName
      exact .inr ⟨t, name, ofDeclaration_of_name chosen named nonempty,
        ofDeclaration_of_name chosen' (names ▸ named) nonempty⟩

/-- With the same description they declare the same parameter. -/
theorem ofDeclaration_of_perm
    (same : Text.strip (Text.cut '|' d).2 = Text.strip (Text.cut '|' d').2) :
    Param.ofDeclaration d = Param.ofDeclaration d' := by
  rcases ofDeclaration_alike perm dollars with ⟨fault, left, right⟩ | ⟨t, name, left, right⟩
  · rw [left, right]
  · have described : (param d t name).description = (param d' t name).description := by
      simp only [param, same]
    rw [left, right, (param_agrees perm t name).eq described]

end

/-- The places where a parameter can be passed, with the words for each. -/
def places : List (Location × List String) :=
  [(.form, []), (.path, ["in_path"]), (.query, ["in_query"])]

def flag (required : Bool) : List String := if required then ["required"] else []

/-- The words of a declaration in the order in which they are usually written, and further words. -/
def grammar (t : ParamType) (required : Bool) (place : List String) (name : String)
    (extras : List String) : List String :=
  [t.word] ++ flag required ++ place ++ ["$" ++ name] ++ extras

/-- A word that means nothing in a declaration. -/
structure IsExtra (word : String) : Prop where
  notType : ∀ t ∈ ParamType.all, word ≠ t.word
  notRequired : word ≠ "required"
  notPath : word ≠ "in_path"
  notQuery : word ≠ "in_query"
  noDollar : isDollar word = false
  noBar : '|' ∉ word.toList

theorem isDollar_append (name : String) : isDollar ("$" ++ name) = true := by
  simp [isDollar]

/-- Type words are none of the other words with a meaning. -/
theorem word_apart {t : ParamType} (known : t ∈ ParamType.all) :
    t.word ≠ "required" ∧ t.word ≠ "in_path" ∧ t.word ≠ "in_query" ∧ isDollar t.word = false := by
  have apart : ∀ t ∈ ParamType.all, t.word ≠ "required" ∧ t.word ≠ "in_path" ∧
      t.word ≠ "in_query" ∧ isDollar t.word = false := by decide
  exact apart t known

theorem of_mem_place {place : Location × List String} (placed : place ∈ places) {w : String}
    (here : w ∈ place.2) : w = "in_path" ∨ w = "in_query" := by
  simp only [places, List.mem_cons, List.not_mem_nil, or_false] at placed
  rcases placed with rfl | rfl | rfl
  · cases here
  · exact .inl (List.mem_singleton.mp here)
  · exact .inr (List.mem_singleton.mp here)

theorem locationIn_of_place {place : Location × List String} (placed : place ∈ places)
    {ws : List String} (path : "in_path" ∈ ws ↔ "in_path" ∈ place.2)
    (query : "in_query" ∈ ws ↔ "in_query" ∈ place.2) : Param.locationIn ws = place.1 := by
  simp only [Param.locationIn, List.contains_iff_mem, path, query]
  simp only [places, List.mem_cons, List.not_mem_nil, or_false] at placed
  rcases placed with rfl | rfl | rfl <;> rfl

section
variable {t : ParamType} {required : Bool} {place : Location × List String} {name : String}
  {extras : List String}

theorem mem_grammar {w : String} : w ∈ grammar t required place.2 name extras ↔
    w = t.word ∨ required = true ∧ w = "required" ∨ w ∈ place.2 ∨ w = "$" ++ name ∨ w ∈ extras := by
  cases required <;> simp [grammar, flag]

/-- Without a dollar sign and without a meaning of its own a word is a type word or an extra. -/
theorem mem_grammar_of_plain {w : String} (plain : isDollar w = false) :
    w ∈ grammar t required place.2 name extras ↔
      w = t.word ∨ required = true ∧ w = "required" ∨ w ∈ place.2 ∨ w ∈ extras := by
  have apart : w ≠ "$" ++ name := by
    rintro rfl
    rw [isDollar_append] at plain
    cases plain
  simp only [mem_grammar, apart, false_or]

variable (known : t ∈ ParamType.all) (placed : place ∈ places) (extra : ∀ e ∈ extras, IsExtra e)
include known placed extra

theorem find?_grammar : ParamType.find? (grammar t required place.2 name extras) = some t := by
  have alone : ∀ t ∈ ParamType.all, ParamType.find? [t.word] = some t := by decide
  rw [← alone t known]
  apply find?_of_mem_iff
  intro t' known'
  obtain ⟨notRequired, notPath, notQuery, plain⟩ := word_apart known'
  have notPlace : t'.word ∉ place.2 := fun here => (of_mem_place placed here).elim notPath notQuery
  have notExtra : t'.word ∉ extras := fun here => (extra _ here).notType t' known' rfl
  rw [mem_grammar_of_plain plain, List.mem_singleton]
  simp only [notRequired, notPlace, notExtra, and_false, or_false]

theorem filter_isDollar_grammar :
    (grammar t required place.2 name extras).filter isDollar = ["$" ++ name] := by
  have flags : (flag required).filter isDollar = [] := by cases required <;> rfl
  have placeWords : place.2.filter isDollar = [] := by
    rw [List.filter_eq_nil_iff]
    intro w here
    rcases of_mem_place placed here with rfl | rfl <;> decide
  have extraWords : extras.filter isDollar = [] := by
    rw [List.filter_eq_nil_iff]
    intro w here
    rw [(extra w here).noDollar]
    exact Bool.false_ne_true
  have typeWord : [t.word].filter isDollar = [] := by
    rw [List.filter_cons_of_neg (by rw [(word_apart known).2.2.2]; exact Bool.false_ne_true)]
    rfl
  rw [grammar, List.filter_append, List.filter_append, List.filter_append, List.filter_append,
    flags, placeWords, extraWords, typeWord, List.filter_cons_of_pos (isDollar_append name)]
  rfl

theorem required_mem_grammar :
    "required" ∈ grammar t required place.2 name extras ↔ required = true := by
  have notType : "required" ≠ t.word := (word_apart known).1.symm
  have notPlace : "required" ∉ place.2 := fun here => by
    rcases of_mem_place placed here with same | same <;> exact absurd same (by decide)
  have notExtra : "required" ∉ extras := fun here => (extra _ here).notRequired rfl
  rw [mem_grammar_of_plain (by decide)]
  simp only [notType, notPlace, notExtra, and_true, false_or, or_false]

omit placed in
theorem place_mem_grammar {w : String} (word : w = "in_path" ∨ w = "in_query") :
    w ∈ grammar t required place.2 name extras ↔ w ∈ place.2 := by
  obtain ⟨-, notPath, notQuery, -⟩ := word_apart known
  have plain : isDollar w = false := by rcases word with rfl | rfl <;> decide
  have notType : w ≠ t.word := by
    rintro rfl
    exact word.elim notPath notQuery
  have notRequired : w ≠ "required" := by rcases word with rfl | rfl <;> decide
  have notExtra : w ∉ extras := fun here =>
    word.elim (extra w here).notPath (extra w here).notQuery
  rw [mem_grammar_of_plain plain]
  simp only [notType, notRequired, notExtra, and_false, false_or, or_false]

theorem not_bar_of_mem_grammar (clear : '|' ∉ name.toList) {w : String}
    (here : w ∈ grammar t required place.2 name extras) : '|' ∉ w.toList := by
  have typeWords : ∀ t ∈ ParamType.all, '|' ∉ t.word.toList := by decide
  rcases mem_grammar.mp here with rfl | ⟨-, rfl⟩ | isPlace | rfl | isExtra
  · exact typeWords t known
  · decide
  · rcases of_mem_place placed isPlace with rfl | rfl <;> decide
  · simpa using clear
  · exact (extra w isExtra).noBar

/-- A declaration of these words declares what each of them says. -/
theorem ofDeclaration_of_grammar {d : String}
    (written : (words d).Perm (grammar t required place.2 name extras)) (nonempty : name ≠ "") :
    Param.ofDeclaration d = .ok {
      name
      location := place.1
      description := Text.strip (Text.cut '|' d).2 ++ t.addition
      required
      type := t.type
      format := t.format } := by
  have chosen : ParamType.find? (words d) = some t := by
    rw [find?_of_mem_iff fun _ _ => written.mem_iff]
    exact find?_grammar known placed extra
  have dollars : (words d).filter isDollar = ["$" ++ name] := by
    have perm := written.filter isDollar
    rwa [filter_isDollar_grammar known placed extra, List.perm_singleton] at perm
  have named : Param.nameIn? (words d) = some name := by
    rw [nameIn?_words, ← List.head?_filter, dollars]
    rfl
  obtain ⟨notRequired, notPath, notQuery, -⟩ := word_apart known
  have left {w : String} (apart : t.word ≠ w) :
      w ∈ (words d).erase t.word ↔ w ∈ grammar t required place.2 name extras := by
    rw [List.mem_erase_of_ne apart.symm, written.mem_iff]
  have location : Param.locationIn ((words d).erase t.word) = place.1 :=
    locationIn_of_place placed
      ((left notPath).trans (place_mem_grammar known extra (.inl rfl)))
      ((left notQuery).trans (place_mem_grammar known extra (.inr rfl)))
  have isRequired : ((words d).erase t.word).contains "required" = required := by
    rw [Bool.eq_iff_iff, List.contains_iff_mem, left notRequired]
    exact required_mem_grammar known placed extra
  rw [ofDeclaration_of_name chosen named nonempty, param, location, isRequired]

end
end Declaration

/-- **The words of a declaration may stand in any order.** A type word, a name behind a dollar sign,
and maybe the words for a parameter that is required and for the place where it is passed, together
with words that mean nothing, declare a parameter with just this type, name, place and description,
whatever their order and the blanks around them. Two declarations of the same words, with those that
start with a dollar sign in the same order, and of the same description declare the same parameter
or have the same fault. -/
theorem declarations_in_any_order (r : Route) :
    (∀ (t : ParamType) (required : Bool) (place : Location × List String)
        (name description : String) (extras ws : List String) (directive before after : String),
      t ∈ ParamType.all → place ∈ Declaration.places → name ≠ "" → '|' ∉ name.toList →
      (∀ e ∈ extras, Declaration.IsExtra e) →
      ws.Perm (Declaration.grammar t required place.2 name extras) → Text.Spaced ws directive →
      Text.strip description = description →
      (∀ c ∈ before.toList ++ after.toList, Text.isBlank c = true) →
      Param.ofRoute r (directive ++ "|" ++ (before ++ description ++ after)) = .ok {
        name
        location := place.1
        description := description ++ t.addition
        required
        type := t.type
        format := t.format }) ∧
    ∀ d d' : String, (Declaration.words d).Perm (Declaration.words d') →
      (Declaration.words d).filter Declaration.isDollar =
        (Declaration.words d').filter Declaration.isDollar →
      Text.strip (Text.cut '|' d).2 = Text.strip (Text.cut '|' d').2 →
      (∀ p, Param.ofRoute r d = .ok p ↔ Param.ofRoute r d' = .ok p) ∧
      (∀ name, Param.ofRoute r d = .error (.missingType r.controller r.action name) ↔
        Param.ofRoute r d' = .error (.missingType r.controller r.action name)) ∧
      (Param.ofRoute r d = .error (.missingName r.controller r.action d) ↔
        Param.ofRoute r d' = .error (.missingName r.controller r.action d')) := by
  constructor
  · intro t required place name description extras ws directive before after known placed nonempty
      clear extra perm spaced trimmed blank
    have noBar : '|' ∉ directive.toList := by
      intro here
      rcases spaced.blank_or_mem '|' here with blank | ⟨w, listed, inWord⟩
      · exact absurd blank (by decide)
      · exact Declaration.not_bar_of_mem_grammar known placed extra clear
          (perm.mem_iff.mp listed) inWord
    have cut : Text.cut '|' (directive ++ "|" ++ (before ++ description ++ after)) =
        (directive, before ++ description ++ after) := Text.cut_append noBar _
    have written : (Declaration.words
        (directive ++ "|" ++ (before ++ description ++ after))).Perm
          (Declaration.grammar t required place.2 name extras) := by
      rw [Declaration.words, cut, Text.split_of_spaced spaced]
      exact perm
    obtain ⟨blankBefore, blankAfter⟩ := List.forall_mem_append.mp blank
    have stripped : Text.strip (before ++ description ++ after) = description := by
      rw [Text.strip, String.toList_append, String.toList_append,
        Text.trim_append_blanks blankAfter, Text.trim_blanks_append blankBefore]
      exact trimmed
    rw [Param.ofRoute, Declaration.ofDeclaration_of_grammar known placed extra written nonempty,
      cut, stripped]
  · intro d d' perm dollars same
    have alike := Declaration.ofDeclaration_of_perm perm dollars same
    simp only [Param.ofRoute, alike]
    cases Param.ofDeclaration d' with
    | ok p => simp
    | error fault => cases fault <;> simp

/-- A declaration with its words in an unusual order and with a word that means nothing, and one
with two words that could give the name. -/
theorem declarations_in_any_order_flag :
    Param.ofRoute default (" $of  whether\tin_query\n boolean required" ++ "|" ++
        ("  " ++ "Given as string | no" ++ "\n")) =
      .ok ⟨"of", .query, "Given as string | no | Boolean", true, "integer", none⟩ ∧
    Param.ofRoute default "$a file $b |\tTwo" = .ok ⟨"a", .form, "Two", false, "file", none⟩ := by
  constructor
  · have extra : ∀ e ∈ ["whether"], Declaration.IsExtra e := by
      intro e he
      obtain rfl := List.mem_singleton.mp he
      exact ⟨by decide, by decide, by decide, by decide, rfl, by decide⟩
    have spaced : Text.Spaced ["$of", "whether", "in_query", "boolean", "required"]
        " $of  whether\tin_query\n boolean required" :=
      Text.split_eq_iff.mp (by decide +kernel)
    have blank : ("  ".toList ++ "\n".toList).all Text.isBlank = true := by decide
    exact (declarations_in_any_order default).1 ⟨"boolean", "integer", none, " | Boolean"⟩ true
      (.query, ["in_query"]) "of" "Given as string | no" ["whether"] _ _ "  " "\n" (by decide)
      (by decide) (by decide) (by decide) extra (by decide +kernel) spaced (by decide +kernel)
      (List.all_eq_true.mp blank)
  · have alike := (declarations_in_any_order default).2 "file $a $b|Two" "$a file $b |\tTwo"
      (by decide +kernel) (by decide +kernel) (by decide +kernel)
    exact (alike.1 _).mp rfl

end RouteDocs
