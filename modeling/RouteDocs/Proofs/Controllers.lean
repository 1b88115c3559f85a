import RouteDocs.Proofs.Grouping
import RouteDocs.Proofs.Recording

/-!
# Routes by controller

* `Printed.Continues`: what is printed later comes behind what is there;
* `Route.byController_eq`, `Route.length_byController`: the routes are grouped by their controllers,
  and there are as many groups as controllers;
* `Builder.continues_say`, `Builder.continues_add`, `Builder.continues_addAll`: a step only adds to
  what is printed;
* `Builder.run_of_verbose`: the line with the numbers of routes and controllers comes before anything
  that adding the routes prints;
* `Route.controllers_partition_routes`: which groups there are, and what a run tells about them.
-/

namespace RouteDocs

namespace Printed

theorem append_assoc (p q r : Printed) : p ++ q ++ r = p ++ (q ++ r) := by
  change mk (p.out ++ q.out ++ r.out) (p.errors ++ q.errors ++ r.errors) =
    mk (p.out ++ (q.out ++ r.out)) (p.errors ++ (q.errors ++ r.errors))
  rw [String.append_assoc, String.append_assoc]

theorem append_nothing (p : Printed) : p ++ nothing = p := by
  change mk (p.out ++ "") (p.errors ++ "") = p
  rw [String.append_empty, String.append_empty]

/-- What is printed later comes behind what was printed earlier, of which nothing is lost. -/
def Continues (later earlier : Printed) : Prop := ∃ more, later = earlier ++ more

namespace Continues
variable {p q r : Printed}

theorem refl (p : Printed) : p.Continues p := ⟨nothing, p.append_nothing.symm⟩

theorem append (h : q.Continues p) (more : Printed) : (q ++ more).Continues p := by
  obtain ⟨between, rfl⟩ := h
  exact ⟨between ++ more, append_assoc p between more⟩

theorem trans (h : r.Continues q) (k : q.Continues p) : r.Continues p := by
  obtain ⟨more, rfl⟩ := h
  exact k.append more

end Continues
end Printed

namespace Route

theorem byController_eq (routes : List Route) :
    byController routes = OrderedMap.group controller id routes := rfl

/-- There are as many groups as controllers. -/
theorem length_byController (routes : List Route) :
    (byController routes).entries.length = (routes.map controller).toFinset.card := by
  rw [byController_eq, ← OrderedMap.length_keys_group controller id, OrderedMap.keys, List.length_map]

end Route

namespace Builder
variable {σ : Type} (b : Builder σ)

theorem continues_say (line : String) (s : Build σ) :
    (b.say line s).1.printed.Continues s.printed := by
  unfold say
  split
  · exact .refl _
  · split
    · exact .refl _
    · exact (Printed.Continues.refl _).append _

theorem continues_add (r : Route) (s : Build σ) :
    (b.add r s).1.printed.Continues s.printed := by
  have said := b.continues_say r.handler s
  simp only [add]
  generalize b.say r.handler s = step at said
  obtain ⟨after, failure⟩ := step
  cases failure with
  | some failure => exact said
  | none =>
    -- the look-up prints whether or not it finds anything
    have answered := said.append (b.lookup after.state r.controller r.action).printed
    dsimp only
    split
    · exact answered
    · exact answered

theorem continues_addAll (rs : List Route) (s : Build σ) :
    (b.addAll rs s).1.printed.Continues s.printed := by
  induction rs generalizing s with
  | nil => exact .refl _
  | cons r rs ih =>
    have first := b.continues_add r s
    cases ended : (b.add r s).2 with
    | none =>
      rw [b.addAll_cons_of_none ended]
      exact (ih _).trans first
    | some failure =>
      rw [b.addAll_cons_of_some ended]
      exact first

theorem say_of_verbose (verbose : b.verbose = true) {line : String}
    (whole : Text.hasHalves line = false) (s : Build σ) :
    b.say line s = ({ s with printed := s.printed ++ .text (line ++ "\n") }, none) := by
  simp only [say, verbose, whole, Bool.not_true, Bool.false_eq_true, if_false]

/-- What a run prints first when it prints lines. -/
theorem run_of_verbose (verbose : b.verbose = true) (routes : List Route) (s : Build σ) :
    b.run routes s = b.addAll routes { s with
      printed := s.printed ++ .text ("Found " ++ toString routes.length ++ " routes in " ++
        toString (routes.map Route.controller).toFinset.card ++ " controllers.\n") } := by
  have whole := hasHalves_counts routes.length (routes.map Route.controller).toFinset.card
  have ended (counts : String) : counts ++ " controllers." ++ "\n" = counts ++ " controllers.\n" := by
    rw [String.append_assoc]
    rfl
  simp only [run, Route.length_byController, b.say_of_verbose verbose whole, ended]

end Builder

namespace Route

/-- **Controllers partition the routes.** For every list of routes, grouped by controller:

* each controller has one group, and the controllers stand in the order of their first routes;
* the group of a controller has the routes of this controller, in their order and with repetitions, and
  is not empty;
* one group behind the other, the routes are those of the list in some order, and as many.

A run that prints lines starts with the numbers of routes and of different controllers. Nothing is
printed before that line, and it stays if a route fails. -/
theorem controllers_partition_routes (routes : List Route) :
    (byController routes).keys = (routes.map controller).eraseDups ∧
    (byController routes).keys.Pairwise (fun c d =>
      (routes.map controller).idxOf c < (routes.map controller).idxOf d) ∧
    (byController routes).entries =
      (byController routes).keys.map (fun c => (c, routes.filter (·.controller = c))) ∧
    (∀ group ∈ (byController routes).values, group ≠ []) ∧
    (byController routes).values.flatten.Perm routes ∧
    (byController routes).values.flatten.length = routes.length ∧
    ∀ {σ : Type} (b : Builder σ) (s : Build σ), b.verbose = true →
      (b.run routes s).1.printed.Continues
        (s.printed ++ .text ("Found " ++ toString routes.length ++ " routes in " ++
          toString (routes.map controller).toFinset.card ++ " controllers.\n")) := by
  have keys := OrderedMap.keys_group controller id routes
  have filtered (c : String) : OrderedMap.valuesAt controller id routes c =
      routes.filter (·.controller = c) := List.map_id _
  have whole : (byController routes).values.flatten.Perm routes := by
    have all := OrderedMap.flatten_values_group controller id routes
    rwa [List.map_id] at all
  refine ⟨keys, OrderedMap.pairwise_keys_group controller id routes, ?_, ?_, whole,
    whole.length_eq, ?_⟩
  · rw [byController_eq, OrderedMap.entries_group, ← keys]
    exact List.map_congr_left fun c _ => congrArg (c, ·) (filtered c)
  · exact fun group here => OrderedMap.ne_nil_of_mem_values_group controller id here
  · intro σ b s verbose
    rw [b.run_of_verbose verbose]
    exact b.continues_addAll routes _

/-- Routes of two controllers in turn, one of them twice. -/
def mixedRoutes : List Route :=
  let ping := { usersRoute "ping" "ping" with controller := "app.Ping", className := "Ping" }
  [usersRoute "users" "show", ping, usersRoute "users" "show", usersRoute "users/me" "find"]

theorem controllers_partition_routes_mixed :
    ((byController mixedRoutes).entries.map fun (c, group) => (c, group.map uri)) =
        [("app.Users", ["users", "users", "users/me"]), ("app.Ping", ["ping"])] ∧
      (∃ group ∈ (byController mixedRoutes).values, group ≠ []) ∧
      usersBuilder.verbose = true ∧
      ∃ start later, ApiDocument.start? usersBuilder.settings = .ok start ∧
        (usersBuilder.run mixedRoutes ⟨start, (), ⟨"Ready\n", ""⟩⟩).1.printed =
          ⟨"Ready\nFound 4 routes in 2 controllers.\n", ""⟩ ++ later := by
  obtain ⟨keys, -, entries, some_route, -, -, told⟩ := controllers_partition_routes mixedRoutes
  obtain ⟨start, started⟩ : ∃ start, ApiDocument.start? usersBuilder.settings = .ok start :=
    ⟨_, rfl⟩
  obtain ⟨later, printed⟩ := told usersBuilder ⟨start, (), ⟨"Ready\n", ""⟩⟩ rfl
  have line : (⟨"Ready\n", ""⟩ ++ .text ("Found " ++ toString mixedRoutes.length ++ " routes in " ++
      toString (mixedRoutes.map controller).toFinset.card ++ " controllers.\n") : Printed) =
        ⟨"Ready\nFound 4 routes in 2 controllers.\n", ""⟩ := by
    decide +kernel
  have pings : mixedRoutes.filter (·.controller = "app.Ping") ∈ (byController mixedRoutes).values := by
    decide +kernel
  refine ⟨?_, ⟨_, pings, some_route _ pings⟩, rfl, start, later, started,
    printed.trans (congrArg (· ++ later) line)⟩
  rw [entries, keys]
  decide +kernel

end Route
end RouteDocs
