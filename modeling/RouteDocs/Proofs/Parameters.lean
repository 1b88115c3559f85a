import Mathlib.Data.List.Forall2
import RouteDocs.Block
import RouteDocs.Proofs.Declaration
import RouteDocs.Proofs.OrderedMap

/-!
# The parameters of a route

* `Placeholder.undeclared`: the parameters of a URI whose names no declaration uses;
* `Param.lastOfEach`: a list of parameters with only the last of each name;
* `Param.all_eq`: the parameters of a route are the first list and then the second;
* `Declaration.exists_all`, `Declaration.all_of_first_fault`: the first declaration at fault decides
  about them;
* `parameters_of_route`: the same with the names and the faults told.
-/

namespace RouteDocs

theorem mapM_eq_ok_iff {ε α β : Type} {f : α → Except ε β} {xs : List α} {ys : List β} :
    xs.mapM f = .ok ys ↔ List.Forall₂ (fun x y => f x = .ok y) xs ys := by
  induction xs generalizing ys with
  | nil =>
    rw [List.mapM_nil, List.forall₂_nil_left_iff]
    exact ⟨fun same => (Except.ok.inj same).symm, fun same => same ▸ rfl⟩
  | cons x xs ih =>
    rw [List.mapM_cons, List.forall₂_cons_left_iff]
    constructor
    · intro done
      cases first : f x with
      | error e => rw [first] at done; cases done
      | ok y =>
        cases rest : xs.mapM f with
        | error e => rw [first, rest] at done; cases done
        | ok zs =>
          rw [first, rest] at done
          exact ⟨y, zs, rfl, ih.mp rest, (Except.ok.inj done).symm⟩
    · rintro ⟨y, zs, first, rest, rfl⟩
      rw [first, ih.mpr rest]
      rfl

/-- The first step that fails decides. -/
theorem mapM_of_first_error {ε α β : Type} {f : α → Except ε β} {good rest : List α} {bad : α}
    {e : ε} (sound : ∀ x ∈ good, ∃ y, f x = .ok y) (fails : f bad = .error e) :
    (good ++ bad :: rest).mapM f = .error e := by
  induction good with
  | nil =>
    rw [List.nil_append, List.mapM_cons, fails]
    rfl
  | cons x good ih =>
    obtain ⟨⟨y, first⟩, others⟩ := List.forall_mem_cons.mp sound
    rw [List.cons_append, List.mapM_cons, first, ih others]
    rfl

theorem exists_forall₂ {α β : Type} {P : α → β → Prop} {xs : List α} (each : ∀ x ∈ xs, ∃ y, P x y) :
    ∃ ys, List.Forall₂ P xs ys := by
  induction xs with
  | nil => exact ⟨[], .nil⟩
  | cons x xs ih =>
    obtain ⟨⟨y, first⟩, others⟩ := List.forall_mem_cons.mp each
    obtain ⟨ys, rest⟩ := ih others
    exact ⟨y :: ys, .cons first rest⟩

namespace Placeholder

def names (uri : String) : List String := ((ofUri uri).map name).eraseDups

/-- The last placeholder of a URI with a name. -/
def last? (uri wanted : String) : Option String :=
  ((ofUri uri).filter (name · = wanted)).getLast?

/-- What is inferred about a name from its last placeholder. -/
def inferred (wanted placeholder : String) : Param where
  name := wanted
  location := .path
  description := "Param in path"
  required := '?' ∉ placeholder.toList
  type := "integer"
  format := none

/-- The parameters of a URI whose names are not declared: each name at its first place, with what
its last placeholder says. -/
def undeclared (uri : String) (declared : List String) : List Param :=
  ((names uri).filter (· ∉ declared)).filterMap fun n => (last? uri n).map (inferred n)

theorem name_of_last? {uri wanted placeholder : String}
    (here : last? uri wanted = some placeholder) : name placeholder = wanted :=
  of_decide_eq_true (List.mem_filter.mp (List.mem_of_getLast? here)).2

theorem exists_last? {uri wanted : String} (here : wanted ∈ names uri) :
    ∃ placeholder, last? uri wanted = some placeholder := by
  obtain ⟨placeholder, listed, named⟩ := List.mem_map.mp (List.mem_eraseDups.mp here)
  have found : placeholder ∈ (ofUri uri).filter (name · = wanted) :=
    List.mem_filter.mpr ⟨listed, decide_eq_true named⟩
  exact Option.isSome_iff_exists.mp (List.getLast?_isSome.mpr (List.ne_nil_of_mem found))

theorem param_eq_inferred (placeholder : String) :
    param placeholder = inferred (name placeholder) placeholder := by
  simp [param, inferred, isOptional]

theorem keys_params (uri : String) : (params uri).keys = names uri := by
  have keys := OrderedMap.keys_foldl_insert name param (ofUri uri) .empty
  rwa [OrderedMap.keys_empty, List.nil_append] at keys

theorem find?_params (uri wanted : String) :
    (params uri).find? wanted = (last? uri wanted).map (inferred wanted) := by
  have found := OrderedMap.find?_foldl_insert name param (ofUri uri) .empty wanted
  rw [OrderedMap.find?_empty, Option.or_none] at found
  rw [params, found, ← last?]
  cases here : last? uri wanted with
  | none => rfl
  | some placeholder =>
    rw [Option.map_some, Option.map_some, param_eq_inferred, name_of_last? here]

theorem nodup_names (uri : String) : (names uri).Nodup := keys_params uri ▸ (params uri).distinct

theorem undeclared_eq (uri : String) (declared : List String) :
    undeclared uri declared =
      ((params uri).entries.filter (·.1 ∉ declared)).map Prod.snd := by
  rw [← OrderedMap.filterMap_find? (params uri) fun n => decide (n ∉ declared), keys_params]
  exact List.filterMap_congr fun n _ => (find?_params uri n).symm

theorem names_undeclared (uri : String) (declared : List String) :
    (undeclared uri declared).map Param.name = (names uri).filter (· ∉ declared) := by
  rw [undeclared, List.map_filterMap]
  have named : ∀ n ∈ (names uri).filter (· ∉ declared),
      ((last? uri n).map (inferred n)).map Param.name = some n := by
    intro n hn
    obtain ⟨placeholder, last⟩ := exists_last? (List.mem_filter.mp hn).1
    rw [last]
    rfl
  rw [List.filterMap_congr named, List.filterMap_some]

end Placeholder

namespace Param

/-- The parameters without those that have a later one of their name. -/
def lastOfEach : List Param → List Param
  | [] => []
  | p :: ps => if p.name ∈ ps.map name then lastOfEach ps else p :: lastOfEach ps

theorem mem_names_lastOfEach {ps : List Param} {n : String} :
    n ∈ (lastOfEach ps).map name ↔ n ∈ ps.map name := by
  induction ps with
  | nil => rfl
  | cons p ps ih =>
    rw [lastOfEach]
    split
    · next later =>
      rw [ih, List.map_cons, List.mem_cons]
      exact ⟨.inr, fun here => here.elim (fun same => same ▸ later) id⟩
    · rw [List.map_cons, List.mem_cons, ih, List.map_cons, List.mem_cons]

theorem nodup_names_lastOfEach (ps : List Param) : ((lastOfEach ps).map name).Nodup := by
  induction ps with
  | nil => exact List.nodup_nil
  | cons p ps ih =>
    rw [lastOfEach]
    split
    · exact ih
    · next last =>
      rw [List.map_cons, List.nodup_cons]
      exact ⟨fun here => last (mem_names_lastOfEach.mp here), ih⟩

theorem entries_declare (params : OrderedMap String Param) (p : Param) :
    (declare params p).entries = params.entries.filter (·.1 ≠ p.name) ++ [(p.name, p)] := by
  apply OrderedMap.alterEntries_of_not_mem
  intro here
  obtain ⟨entry, kept, same⟩ := List.mem_map.mp here
  exact of_decide_eq_true (List.mem_filter.mp kept).2 same

/-- Declarations take the parameters of their names away and leave the last of each at the end. -/
theorem entries_foldl_declare (ps : List Param) (params : OrderedMap String Param) :
    (ps.foldl declare params).entries =
      params.entries.filter (·.1 ∉ ps.map name) ++ (lastOfEach ps).map fun p => (p.name, p) := by
  -- a declaration is lost again where a later one has its name, as are the parameters before
  induction ps generalizing params with
  | nil => simp [lastOfEach]
  | cons p ps ih =>
    have others : (params.entries.filter (·.1 ≠ p.name)).filter (·.1 ∉ ps.map name) =
        params.entries.filter (·.1 ∉ (p :: ps).map name) := by
      rw [List.filter_filter]
      apply List.filter_congr
      intro entry _
      rw [← Bool.decide_and, decide_eq_decide, List.map_cons, List.mem_cons, not_or, and_comm]
    rw [List.foldl_cons, ih, entries_declare, List.filter_append, others, List.append_assoc,
      lastOfEach]
    split
    · next later =>
      rw [List.filter_cons_of_neg (by simpa only [decide_eq_true_eq, not_not] using later)]
      rfl
    · next last =>
      rw [List.filter_cons_of_pos (by simpa only [decide_eq_true_eq] using last)]
      rfl

theorem foldlM_declare (r : Route) (ds : List String) (params : OrderedMap String Param) :
    ds.foldlM (fun params d => return declare params (← ofRoute r d)) params =
      (ds.mapM (ofRoute r)).map fun ps => ps.foldl declare params := by
  induction ds generalizing params with
  | nil => rfl
  | cons d ds ih =>
    rw [List.foldlM_cons, List.mapM_cons]
    cases ofRoute r d with
    | error e => rfl
    | ok p =>
      refine (ih (declare params p)).trans ?_
      cases ds.mapM (ofRoute r) <;> rfl

/-- The parameters of a route are those of its URI that no declaration names, and then the last
declared of each name. -/
theorem all_eq (ds : List String) (r : Route) :
    all ds r = (ds.mapM (ofRoute r)).map fun ps =>
      Placeholder.undeclared r.uri (ps.map name) ++ lastOfEach ps := by
  rw [all, foldlM_declare]
  cases ds.mapM (ofRoute r) with
  | error e => rfl
  | ok ps =>
    apply congrArg Except.ok
    show (ps.foldl declare (Placeholder.params r.uri)).entries.map Prod.snd = _
    rw [entries_foldl_declare, List.map_append, ← Placeholder.undeclared_eq, List.map_map]
    simp [Function.comp_def]

end Param

namespace Declaration

/-- Faultless declarations are all declared. -/
theorem exists_all {ds : List String} (sound : ∀ d ∈ ds, ¬ IsFaulty d) (r : Route) :
    ∃ ps, Param.all ds r = .ok ps := by
  obtain ⟨declared, each⟩ := exists_forall₂ fun d hd => exists_ofRoute (sound d hd) r
  rw [Param.all_eq, mapM_eq_ok_iff.mpr each]
  exact ⟨_, rfl⟩

/-- The first declaration at fault decides about the parameters of a route. -/
theorem all_of_first_fault {good rest : List String} {bad : String}
    (sound : ∀ d ∈ good, ¬ IsFaulty d) (faulty : IsFaulty bad) (r : Route) :
    Param.all (good ++ bad :: rest) r = .error (fault r bad) := by
  have declared : ∀ d ∈ good, ∃ p, Param.ofRoute r d = .ok p :=
    fun d hd => exists_ofRoute (sound d hd) r
  rw [Param.all_eq, mapM_of_first_error declared (ofRoute_of_faulty faulty r)]
  rfl

end Declaration

/-- **The parameters of a route.** If every declaration declares a parameter, the parameters are
those of the URI whose names are not declared, each at its first place with what its last
placeholder says, and then the last declared of each name, in the order of the declarations. Each
name of a placeholder or a declaration is then there exactly once. Otherwise the first declaration
at fault decides. -/
theorem parameters_of_route (block : Block) (r : Route) :
    ((∀ d ∈ block.params, ∃ p, Param.ofRoute r d = .ok p) →
      ∃ declared,
        List.Forall₂ (fun d p => Param.ofRoute r d = .ok p) block.params declared ∧
        let params := Placeholder.undeclared r.uri (declared.map Param.name) ++
          Param.lastOfEach declared
        Param.all block.params r = .ok params ∧
        (params.map Param.name).Nodup ∧
        ∀ n, n ∈ params.map Param.name ↔
          n ∈ (Placeholder.ofUri r.uri).map Placeholder.name ∨ n ∈ declared.map Param.name) ∧
    ∀ good bad rest failure, block.params = good ++ bad :: rest →
      (∀ d ∈ good, ∃ p, Param.ofRoute r d = .ok p) → Param.ofRoute r bad = .error failure →
      Param.all block.params r = .error failure := by
  constructor
  · intro sound
    obtain ⟨declared, each⟩ := exists_forall₂ sound
    refine ⟨declared, each, ?_, ?_, ?_⟩
    · rw [Param.all_eq, mapM_eq_ok_iff.mpr each]
      rfl
    · rw [List.map_append, Placeholder.names_undeclared, List.nodup_append]
      refine ⟨(Placeholder.nodup_names r.uri).filter _, Param.nodup_names_lastOfEach declared, ?_⟩
      rintro n inUri _ last rfl
      exact of_decide_eq_true (List.mem_filter.mp inUri).2 (Param.mem_names_lastOfEach.mp last)
    · intro n
      rw [List.map_append, List.mem_append, Placeholder.names_undeclared,
        Param.mem_names_lastOfEach, List.mem_filter, Placeholder.names, List.mem_eraseDups]
      by_cases here : n ∈ declared.map Param.name
      · exact ⟨fun _ => .inr here, fun _ => .inr here⟩
      · simp only [here, not_false_eq_true, decide_true, and_true, or_false]
  · intro good bad rest failure split sound faulty
    rw [Param.all_eq, split, mapM_of_first_error sound faulty]
    rfl

/-- A route with a placeholder that is repeated. -/
def postsRoute : Route where
  host := none
  methods := ["GET"]
  uri := "users/{id}/{post}/{id?}"
  name := none
  controller := "app.Posts"
  className := "Posts"
  action := "show"

/-- A name that is declared twice and a placeholder that is declared, with and without a
declaration at fault. -/
theorem parameters_of_route_posts :
    let declarations := ["string $name | Old", "integer in_path $post | Post", "bool $name"]
    (∃ params, Param.all declarations postsRoute = .ok params ∧
      params = [⟨"id", .path, "Param in path", false, "integer", none⟩,
        ⟨"post", .path, "Post", false, "integer", none⟩,
        ⟨"name", .form, " | Boolean", false, "integer", none⟩] ∧
      (params.map Param.name).Nodup) ∧
    Param.all (declarations ++ ["required $id", "string"]) postsRoute =
      .error (.missingType "app.Posts" "show" (some "id")) := by
  intro declarations
  have sound : ∀ d ∈ declarations, ∃ p, Param.ofRoute postsRoute d = .ok p := by
    intro d hd
    simp only [declarations, List.mem_cons, List.not_mem_nil, or_false] at hd
    rcases hd with rfl | rfl | rfl <;> exact ⟨_, rfl⟩
  constructor
  · obtain ⟨declared, -, all, distinct, -⟩ :=
      (parameters_of_route ⟨none, declarations, []⟩ postsRoute).1 sound
    exact ⟨_, all, Except.ok.inj (all.symm.trans rfl), distinct⟩
  · exact (parameters_of_route ⟨none, declarations ++ ["required $id", "string"], []⟩ postsRoute).2
      declarations "required $id" ["string"] _ rfl sound rfl

end RouteDocs
