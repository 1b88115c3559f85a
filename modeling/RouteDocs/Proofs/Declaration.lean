import RouteDocs.Param
import RouteDocs.Proofs.Text.Trimming

namespace RouteDocs

namespace Declaration

/-- The words before the first bar. -/
def words (declaration : String) : List String := Text.split (Text.cut '|' declaration).1

def LacksType (declaration : String) : Prop := ∀ t ∈ ParamType.all, t.word ∉ words declaration

instance (declaration : String) : Decidable (LacksType declaration) :=
  inferInstanceAs (Decidable (∀ t ∈ ParamType.all, t.word ∉ words declaration))

/-- Whether a word starts with a dollar sign. -/
def isDollar (word : String) : Bool := word.toList.head? == some '$'

/-- The first word with a dollar sign does not give a name. -/
def GivesNoName (declaration : String) : Prop :=
  ∀ name, name ≠ "" → (words declaration).find? isDollar ≠ some ("$" ++ name)

/-- There is no name, and the type that is chosen is not one that goes without. -/
def LacksName (declaration : String) : Prop :=
  GivesNoName declaration ∧
    ∀ t, ParamType.find? (words declaration) = some t → t.type ≠ "file"

/-- The declaration declares no parameter. -/
def IsFaulty (declaration : String) : Prop := LacksType declaration ∨ LacksName declaration

/-- What is told about a declaration at fault: that it has no type, whether or not it has a name,
and otherwise that it has no name. -/
def fault (r : Route) (declaration : String) : Failure :=
  if LacksType declaration then
    .missingType r.controller r.action (Param.nameIn? (words declaration))
  else .missingName r.controller r.action declaration

theorem find?_eq_none_iff (declaration : String) :
    ParamType.find? (words declaration) = none ↔ LacksType declaration := by
  simp [ParamType.find?, LacksType]

/-- No type word is a word with a dollar sign. -/
theorem isDollar_word {ws : List String} {t : ParamType} (chosen : ParamType.find? ws = some t) :
    isDollar t.word = false := by
  have known : ∀ t ∈ ParamType.all, isDollar t.word = false := by decide
  exact known t (List.mem_of_find?_eq_some chosen)

theorem find?_erase {α : Type} [DecidableEq α] {p : α → Bool} {x : α} (not_sought : p x = false)
    (xs : List α) : (xs.erase x).find? p = xs.find? p := by
  induction xs with
  | nil => rfl
  | cons y xs ih =>
    rw [List.erase_cons]
    by_cases same : y = x
    · subst same
      simp [not_sought]
    · simp [same, List.find?_cons, ih]

theorem nameIn?_eq (ws : List String) :
    Param.nameIn? ws =
      (ws.find? isDollar).map fun w => Text.strip (.ofList (w.toList.drop 1)) := rfl

/-- Taking a type word away does not change the name. -/
theorem nameIn?_erase {ws : List String} {t : ParamType} (chosen : ParamType.find? ws = some t) :
    Param.nameIn? (ws.erase t.word) = Param.nameIn? ws := by
  rw [nameIn?_eq, nameIn?_eq, find?_erase (isDollar_word chosen)]

theorem eq_dollar_append {word : String} (dollar : isDollar word = true) :
    word = "$" ++ .ofList (word.toList.drop 1) := by
  rw [← String.toList_inj]
  cases chars : word.toList with
  | nil => simp [isDollar, chars] at dollar
  | cons c cs =>
    obtain rfl : c = '$' := by simpa [isDollar, chars] using dollar
    simp

/-- Words have no blanks, so the name is all that stands behind the dollar sign. -/
theorem nameIn?_words (declaration name : String) :
    Param.nameIn? (words declaration) = some name ↔
      (words declaration).find? isDollar = some ("$" ++ name) := by
  rw [nameIn?_eq]
  cases found : (words declaration).find? isDollar with
  | none => simp
  | some w =>
    have solid := (Text.not_blank_of_mem_split (List.mem_of_find?_eq_some found)).2
    have whole := eq_dollar_append (List.find?_some found)
    have trimmed : Text.strip (.ofList (w.toList.drop 1)) = .ofList (w.toList.drop 1) := by
      apply Text.strip_eq_self
      intro c hc
      rw [String.toList_ofList] at hc
      exact solid c (List.mem_of_mem_drop hc)
    rw [Option.map_some, trimmed, Option.some_inj, Option.some_inj]
    constructor
    · rintro rfl; exact whole
    · intro same
      rw [same]
      simp

theorem givesNoName_iff (declaration : String) :
    GivesNoName declaration ↔
      ∀ name, Param.nameIn? (words declaration) = some name → name = "" := by
  simp only [GivesNoName, nameIn?_words]
  constructor
  · intro absent name given
    exact Classical.byContradiction fun nonempty => absent name nonempty given
  · intro empty name nonempty given
    exact nonempty (empty name given)

def param (declaration : String) (t : ParamType) (name : String) : Param where
  name := name
  location := Param.locationIn ((words declaration).erase t.word)
  description := Text.strip (Text.cut '|' declaration).2 ++ t.addition
  required := ((words declaration).erase t.word).contains "required"
  type := t.type
  format := t.format

theorem ofDeclaration_of_lacksType {declaration : String} (lacks : LacksType declaration) :
    Param.ofDeclaration declaration = .error (.missingType (Param.nameIn? (words declaration))) := by
  have none_chosen := (find?_eq_none_iff declaration).mpr lacks
  unfold words at none_chosen ⊢
  simp only [Param.ofDeclaration, none_chosen]

/-- With a type and a name a declaration declares a parameter. -/
theorem ofDeclaration_of_name {declaration name : String} {t : ParamType}
    (chosen : ParamType.find? (words declaration) = some t)
    (named : Param.nameIn? (words declaration) = some name) (nonempty : name ≠ "") :
    Param.ofDeclaration declaration = .ok (param declaration t name) := by
  rw [← nameIn?_erase chosen] at named
  unfold words at chosen named
  have kept : (! name.isEmpty) = true := by simpa using nonempty
  simp only [Param.ofDeclaration, chosen, named, kept, if_true]
  rfl

/-- Without a name a declaration declares a file, or nothing. -/
theorem ofDeclaration_of_givesNoName {declaration : String} {t : ParamType}
    (chosen : ParamType.find? (words declaration) = some t) (noName : GivesNoName declaration) :
    Param.ofDeclaration declaration =
      if t.type = "file" then .ok (param declaration t "file") else .error .missingName := by
  have empty := (givesNoName_iff declaration).mp noName
  rw [← nameIn?_erase chosen] at empty
  unfold words at chosen empty
  simp only [Param.ofDeclaration, chosen]
  cases named : Param.nameIn? ((Text.split (Text.cut '|' declaration).1).erase t.word) with
  | none => rfl
  | some name =>
    obtain rfl := empty name named
    rfl

theorem ofRoute_of_faulty {declaration : String} (faulty : IsFaulty declaration) (r : Route) :
    Param.ofRoute r declaration = .error (fault r declaration) := by
  by_cases lacks : LacksType declaration
  · simp only [Param.ofRoute, ofDeclaration_of_lacksType lacks, fault, lacks, if_true]
  · obtain ⟨noName, notFile⟩ := faulty.resolve_left lacks
    cases chosen : ParamType.find? (words declaration) with
    | none => exact absurd ((find?_eq_none_iff declaration).mp chosen) lacks
    | some t =>
      have missing := ofDeclaration_of_givesNoName chosen noName
      rw [if_neg (notFile t chosen)] at missing
      simp only [Param.ofRoute, missing, fault, lacks, if_false]

/-- A declaration that gives a name gives one that says something. -/
theorem exists_name {declaration : String} (gives : ¬ GivesNoName declaration) :
    ∃ name, Param.nameIn? (words declaration) = some name ∧ name ≠ "" := by
  simpa [givesNoName_iff] using gives

theorem exists_ofRoute {declaration : String} (sound : ¬ IsFaulty declaration) (r : Route) :
    ∃ p, Param.ofRoute r declaration = .ok p := by
  obtain ⟨hasType, hasName⟩ := not_or.mp sound
  cases chosen : ParamType.find? (words declaration) with
  | none => exact absurd ((find?_eq_none_iff declaration).mp chosen) hasType
  | some t =>
    by_cases noName : GivesNoName declaration
    · have file : t.type = "file" := by
        apply Classical.byContradiction
        intro notFile
        exact hasName ⟨noName, fun t' chosen' => by
          obtain rfl := Option.some_inj.mp (chosen.symm.trans chosen')
          exact notFile⟩
      have declared := ofDeclaration_of_givesNoName chosen noName
      rw [if_pos file] at declared
      exact ⟨param declaration t "file", by simp only [Param.ofRoute, declared]⟩
    · obtain ⟨name, named, nonempty⟩ := exists_name noName
      have declared := ofDeclaration_of_name chosen named nonempty
      exact ⟨param declaration t name, by simp only [Param.ofRoute, declared]⟩

end Declaration
end RouteDocs
