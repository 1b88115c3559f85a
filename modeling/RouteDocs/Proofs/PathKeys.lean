import RouteDocs.Proofs.Inspection
import RouteDocs.Proofs.Text.Search

/-!
# Paths keep operations apart

* `Route.LedBy`: a URI that starts with the lead and has it nowhere else;
* `Route.path_of_ledBy`, `Route.path_injective`: the paths of such routes;
* `ApiDocument.operationCount`: the number of operations over all paths and verbs;
* `no_operation_is_lost`: a run over routes with distinct URIs and verbs keeps every operation.
-/

namespace RouteDocs

/-- The URI of the route is the lead followed by `rest`, and the lead does not occur in `rest`. -/
structure Route.LedBy (r : Route) (lead rest : String) : Prop where
  uri : r.uri = lead ++ rest
  once : ¬ Text.Contains lead rest

namespace Route
variable {settings : Settings} (nonempty : settings.uriLead ≠ "")
include nonempty

theorem path_of_ledBy {r : Route} {rest : String} (led : r.LedBy settings.uriLead rest) :
    r.path settings = rest := by
  rw [path, led.uri, Text.remove_append nonempty led.once]

/-- A URI with a lead is the lead followed by the path. -/
theorem uri_of_ledBy {r : Route} {rest : String} (led : r.LedBy settings.uriLead rest) :
    r.uri = settings.uriLead ++ r.path settings := by
  rw [path_of_ledBy nonempty led, led.uri]

/-- Distinct URIs with a lead have distinct paths. -/
theorem path_injective {r r' : Route} {rest rest' : String}
    (led : r.LedBy settings.uriLead rest) (led' : r'.LedBy settings.uriLead rest')
    (same : r.path settings = r'.path settings) : r.uri = r'.uri := by
  rw [uri_of_ledBy nonempty led, uri_of_ledBy nonempty led', same]

end Route

/-- The number of operations of a document, over all paths and verbs. -/
def ApiDocument.operationCount (d : ApiDocument) : Nat := d.paths.size

namespace ApiDocument
variable {d : ApiDocument} {settings : Settings} {found : List (Route × Option String)}

theorem length_operations (accepted : ∀ p ∈ found, p.1.refusal? settings p.2 = none) :
    (operations settings found).length = (documented found).length := by
  have routes := congrArg List.length (operations_routes settings accepted)
  rwa [List.length_map, List.length_map] at routes

/-- A documented route that is not refused has its operation among those that are recorded. -/
theorem mem_operations {p : Route × Option String}
    (accepted : ∀ p ∈ found, p.1.refusal? settings p.2 = none) (here : p ∈ documented found) :
    ∃ o, p.1.operation (Block.ofText? p.2) settings = .ok (some o) ∧
      (p.1, o) ∈ operations settings found := by
  obtain ⟨asked, annotated⟩ := List.mem_filter.mp here
  have annotated : (Block.ofText? p.2).isEmpty = false := by simpa using annotated
  obtain ⟨o, built⟩ := Route.exists_operation (accepted p asked) annotated
  exact ⟨o, built, List.mem_filterMap.mpr ⟨p, asked, by rw [built]⟩⟩

variable (fresh : d.paths = .empty)
  (accepted : ∀ p ∈ found, p.1.refusal? settings p.2 = none)
  (distinct : ((documented found).map fun p => (p.1.path settings, p.1.verb)).Nodup)
include fresh accepted distinct

/-- Documented routes with distinct paths and verbs are recorded side by side. -/
theorem recordAll_of_distinct :
    (d.recordAll settings found).operationCount = (documented found).length ∧
      ∀ p ∈ documented found, ∃ o, p.1.operation (Block.ofText? p.2) settings = .ok (some o) ∧
        (d.recordAll settings found).operation? (p.1.path settings) p.1.verb = some o := by
  have apart : ((operations settings found).map fun w => (w.1.path settings, w.1.verb)).Nodup := by
    have routes := congrArg (List.map fun r : Route => (r.path settings, r.verb))
      (operations_routes settings accepted)
    rw [List.map_map, List.map_map] at routes
    exact routes.symm ▸ distinct
  constructor
  · rw [operationCount, recordAll_nest fresh, OrderedMap.size_nest _ _ _ apart,
      length_operations accepted]
  · intro p hp
    obtain ⟨o, built, here⟩ := mem_operations accepted hp
    have kept := OrderedMap.find?_find?_nest_of_mem (·.1.path settings) (·.1.verb) Prod.snd apart here
    rw [← recordAll_nest fresh] at kept
    exact ⟨o, built, kept⟩

end ApiDocument

/-- **No documented operation is lost.** Let the URI of every documented route start with a lead
that occurs nowhere else in it, and let no two of these routes agree in URI and verb. A run without
a failure then leaves as many operations as there are documented routes, and what stands under the
rest of a route's URI and its verb is the operation of that very route. Routes with distinct URIs
of this form never share a path. -/
theorem no_operation_is_lost {σ : Type} (b : Builder σ) (nonempty : b.settings.uriLead ≠ "")
    {start : ApiDocument} (started : ApiDocument.start? b.settings = .ok start) (state : σ)
    (routes : List Route) (fine : (b.run routes ⟨start, state, .nothing⟩).2 = none)
    (led : ∀ p ∈ ApiDocument.documented (b.lookup.found state routes),
      ∃ rest, p.1.LedBy b.settings.uriLead rest)
    (distinct : ((ApiDocument.documented (b.lookup.found state routes)).map
      fun p => (p.1.uri, p.1.verb)).Nodup) :
    let documented := ApiDocument.documented (b.lookup.found state routes)
    let d := (b.run routes ⟨start, state, .nothing⟩).1.document
    d.operationCount = documented.length ∧
    (∀ p ∈ documented, ∀ rest, p.1.LedBy b.settings.uriLead rest →
      ∃ o, p.1.operation (Block.ofText? p.2) b.settings = .ok (some o) ∧
        d.operation? rest p.1.verb = some o) ∧
    ∀ r r' rest rest', Route.LedBy r b.settings.uriLead rest →
      Route.LedBy r' b.settings.uriLead rest' → r.uri ≠ r'.uri →
      r.path b.settings ≠ r'.path b.settings := by
  obtain ⟨_, noPaths⟩ := CommandLine.empty_of_start? started
  have alike := b.run_alike routes ⟨start, state, .nothing⟩
  obtain ⟨accepted, recorded⟩ := Builder.addAll_of_none (alike.failure.symm.trans fine)
  have apart : ((ApiDocument.documented (b.lookup.found state routes)).map
      fun p => (p.1.path b.settings, p.1.verb)).Nodup := by
    apply List.Nodup.of_map fun key : String × String => (b.settings.uriLead ++ key.1, key.2)
    rw [List.map_map]
    convert distinct using 1
    apply List.map_congr_left
    intro p hp
    obtain ⟨rest, ledBy⟩ := led p hp
    exact Prod.ext (Route.uri_of_ledBy nonempty ledBy).symm rfl
  obtain ⟨count, kept⟩ := ApiDocument.recordAll_of_distinct noPaths accepted apart
  dsimp only
  rw [alike.build.document, recorded]
  refine ⟨count, fun p hp rest ledBy => ?_, fun r r' rest rest' ledBy ledBy' differ same => ?_⟩
  · obtain ⟨o, built, here⟩ := kept p hp
    rw [Route.path_of_ledBy nonempty ledBy] at here
    exact ⟨o, built, here⟩
  · exact differ (Route.path_injective nonempty ledBy ledBy' same)

/-- A builder for the application of two actions, with a lead that overlaps itself. -/
def overlappingBuilder : Builder Unit :=
  { usersBuilder with settings := { usersBuilder.settings with uriLead := "aa" } }

/-- Two documented routes with that lead, and one without documentation. What follows the lead in
the first URI starts with the last character of the lead. -/
def overlappingRoutes : List Route :=
  [usersRoute "aaab" "show", usersRoute "x" "ping", usersRoute "aab" "find"]

theorem no_operation_is_lost_overlapping :
    ∃ start, ApiDocument.start? overlappingBuilder.settings = .ok start ∧
      let run := overlappingBuilder.run overlappingRoutes ⟨start, (), .nothing⟩
      run.2 = none ∧ run.1.document.operationCount = 2 ∧
      ∃ o, (usersRoute "aaab" "show").operation (Block.ofText? (some "@apiDesc Show"))
          overlappingBuilder.settings = .ok (some o) ∧
        run.1.document.operation? "ab" "get" = some o := by
  have url : overlappingBuilder.settings.appUrl = some "https://example.com" := rfl
  obtain ⟨start, started, -⟩ := ApiDocument.start?_of_url url (by decide)
  refine ⟨start, started, ?_⟩
  obtain rfl := Except.ok.inj started
  dsimp only
  have fine : (overlappingBuilder.run overlappingRoutes
      ⟨{ swagger := "2.0", info := ⟨"", "1", "Users"⟩, host := "example.com", basePath := "/api/v1",
         tags := [], paths := .empty }, (), .nothing⟩).2 = none := by decide +kernel
  have documented : ApiDocument.documented (overlappingBuilder.lookup.found () overlappingRoutes) =
      [(usersRoute "aaab" "show", some "@apiDesc Show"),
        (usersRoute "aab" "find", some "@apiDesc Find\n@apiErr 404 | No")] := by decide +kernel
  have first : (usersRoute "aaab" "show").LedBy "aa" "ab" := ⟨by decide, by decide⟩
  have second : (usersRoute "aab" "find").LedBy "aa" "b" := ⟨by decide, by decide⟩
  obtain ⟨count, kept, -⟩ := no_operation_is_lost overlappingBuilder (by decide) started ()
    overlappingRoutes fine
    (by rw [documented]; simpa using ⟨⟨_, first⟩, ⟨_, second⟩⟩)
    (by rw [documented]; decide)
  rw [documented] at count kept
  exact ⟨fine, count, kept _ List.mem_cons_self _ first⟩

end RouteDocs
