import RouteDocs.Proofs.Parameters

/-!
# The names of parameters

* `Declaration.name_ne_empty`: every declared parameter has a name;
* `Placeholder.name_eq_empty_iff`: which placeholders have none;
* `nameless_parameter_is_inferred`: when a route has a parameter without a name, and which one it is;
* `placeholder_can_be_nameless`: routes that have one.
-/

namespace RouteDocs

/-- A declaration gives a name that says something, or it declares a file, which has a name of its
own. -/
theorem Declaration.name_ne_empty {declaration : String} {p : Param}
    (declared : Param.ofDeclaration declaration = .ok p) : p.name ≠ "" := by
  cases chosen : ParamType.find? (words declaration) with
  | none =>
    rw [ofDeclaration_of_lacksType ((find?_eq_none_iff declaration).mp chosen)] at declared
    cases declared
  | some t =>
    by_cases noName : GivesNoName declaration
    · rw [ofDeclaration_of_givesNoName chosen noName] at declared
      split at declared
      · cases declared
        exact (by decide : "file" ≠ "")
      · cases declared
    · obtain ⟨name, named, nonempty⟩ := exists_name noName
      rw [ofDeclaration_of_name chosen named nonempty] at declared
      cases declared
      exact nonempty

namespace Param

theorem name_ne_empty_of_ofRoute {r : Route} {declaration : String} {p : Param}
    (declared : ofRoute r declaration = .ok p) : p.name ≠ "" := by
  rw [ofRoute] at declared
  split at declared
  · next q given =>
    cases declared
    exact Declaration.name_ne_empty given
  · cases declared
  · cases declared

/-- All declared parameters of a route have names. -/
theorem names_ne_empty {r : Route} {ds : List String} {ps : List Param}
    (declared : List.Forall₂ (fun d p => ofRoute r d = .ok p) ds ps) : ∀ p ∈ ps, p.name ≠ "" := by
  induction declared with
  | nil => exact nofun
  | cons first _ ih => exact List.forall_mem_cons.mpr ⟨name_ne_empty_of_ofRoute first, ih⟩

end Param

namespace Placeholder

/-- A placeholder has no name exactly if there is nothing in it but question marks. -/
theorem name_eq_empty_iff (placeholder : String) :
    name placeholder = "" ↔ ∀ c ∈ placeholder.toList, c = '?' := by
  rw [name, ← String.toList_eq_nil_iff, String.toList_ofList, List.filter_eq_nil_iff]
  simp

theorem mem_undeclared_iff {uri : String} {declared : List String} {p : Param} :
    p ∈ undeclared uri declared ↔ p.name ∉ declared ∧
      ∃ placeholder, last? uri p.name = some placeholder ∧ p = inferred p.name placeholder := by
  rw [undeclared, List.mem_filterMap]
  constructor
  · rintro ⟨n, here, told⟩
    obtain ⟨placeholder, last, rfl⟩ := Option.map_eq_some_iff.mp told
    exact ⟨of_decide_eq_true (List.mem_filter.mp here).2, placeholder, last, rfl⟩
  · rintro ⟨free, placeholder, last, told⟩
    refine ⟨p.name, List.mem_filter.mpr ⟨?_, decide_eq_true free⟩, ?_⟩
    · have here := List.mem_of_mem_filter (List.mem_of_getLast? last)
      rw [names, List.mem_eraseDups, ← name_of_last? last]
      exact List.mem_map_of_mem here
    · rw [last, Option.map_some, ← told]

end Placeholder

/-- **Only an inferred parameter can be without a name.** All declarations of a route for which there
are parameters declare one with a name. Among the parameters there is one without a name exactly if the
URI has a placeholder with nothing in it but question marks; it is then what the last of these infers. -/
theorem nameless_parameter_is_inferred {block : Block} {r : Route} {params : List Param}
    (built : Param.all block.params r = .ok params) :
    (∃ declared, List.Forall₂ (fun d p => Param.ofRoute r d = .ok p) block.params declared ∧
      ∀ p ∈ declared, p.name ≠ "") ∧
    ((∃ p ∈ params, p.name = "") ↔
      ∃ placeholder ∈ Placeholder.ofUri r.uri, ∀ c ∈ placeholder.toList, c = '?') ∧
    ∀ p ∈ params, p.name = "" → ∃ placeholder,
      Placeholder.last? r.uri "" = some placeholder ∧ p = Placeholder.inferred "" placeholder := by
  rw [Param.all_eq] at built
  cases each : block.params.mapM (Param.ofRoute r) with
  | error failure =>
    rw [each] at built
    cases built
  | ok declared =>
    rw [each] at built
    cases built
    have pairs := mapM_eq_ok_iff.mp each
    have named := Param.names_ne_empty pairs
    have free : "" ∉ declared.map Param.name := by
      rw [List.mem_map]
      rintro ⟨p, here, empty⟩
      exact named p here empty
    -- a declaration neither lacks a name nor replaces a parameter without one
    have inferred (p : Param) (empty : p.name = "") :
        p ∈ Placeholder.undeclared r.uri (declared.map Param.name) ++ Param.lastOfEach declared ↔
          ∃ placeholder, Placeholder.last? r.uri "" = some placeholder ∧
            p = Placeholder.inferred "" placeholder := by
      have notDeclared : p ∉ Param.lastOfEach declared := by
        intro here
        have name := Param.mem_names_lastOfEach.mp (List.mem_map_of_mem here)
        rw [empty] at name
        exact free name
      rw [List.mem_append, Placeholder.mem_undeclared_iff, empty]
      simp only [free, not_false_eq_true, true_and, notDeclared, or_false]
    refine ⟨⟨declared, pairs, named⟩, ?_, fun p here empty => (inferred p empty).mp here⟩
    constructor
    · rintro ⟨p, here, empty⟩
      obtain ⟨placeholder, last, -⟩ := (inferred p empty).mp here
      refine ⟨placeholder, List.mem_of_mem_filter (List.mem_of_getLast? last), ?_⟩
      exact (Placeholder.name_eq_empty_iff placeholder).mp (Placeholder.name_of_last? last)
    · rintro ⟨placeholder, here, marks⟩
      have empty := (Placeholder.name_eq_empty_iff placeholder).mpr marks
      have among : "" ∈ Placeholder.names r.uri := by
        rw [Placeholder.names, List.mem_eraseDups, ← empty]
        exact List.mem_map_of_mem here
      obtain ⟨last, found⟩ := Placeholder.exists_last? among
      exact ⟨Placeholder.inferred "" last, (inferred _ rfl).mpr ⟨last, found, rfl⟩, rfl⟩

/-- A route with two placeholders, one of them without a name. -/
def blankRoute : Route := { postsRoute with uri := "users/{id}/{?}" }

/-- A file without a name has one, and the placeholder `{?}` has none. -/
theorem nameless_parameter_is_inferred_blank :
    ∃ params, Param.all ["file", "string $id"] blankRoute = .ok params ∧
      params.map Param.name = ["", "file", "id"] ∧
      ∀ p ∈ params, p.name = "" →
        p = ⟨"", .path, "Param in path", false, "integer", none⟩ := by
  let block : Block := ⟨none, ["file", "string $id"], []⟩
  have built : Param.all block.params blankRoute = .ok
      [⟨"", .path, "Param in path", false, "integer", none⟩,
        ⟨"file", .form, "", false, "file", none⟩, ⟨"id", .form, "", false, "string", none⟩] := rfl
  obtain ⟨-, -, only⟩ := nameless_parameter_is_inferred built
  refine ⟨_, built, rfl, fun p here empty => ?_⟩
  obtain ⟨placeholder, last, told⟩ := only p here empty
  obtain rfl : "?" = placeholder :=
    Option.some.inj (Eq.trans (by decide +kernel) last)
  rw [told]
  decide

/-- Without any declaration, the route has a parameter without a name. -/
theorem placeholder_can_be_nameless :
    Param.all [] { blankRoute with uri := "users/{}" } =
      .ok [⟨"", .path, "Param in path", true, "integer", none⟩] := by
  rfl

end RouteDocs
