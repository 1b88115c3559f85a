import RouteDocs.Builder
import RouteDocs.Proofs.Text.Half

namespace RouteDocs

/-- A call on a builder. -/
inductive Call where
  | add (r : Route)
  | run (routes : List Route)

def Call.routes : Call → List Route
  | .add r => [r]
  | .run routes => routes

namespace Builder
variable {σ : Type}

/-- Whether a line is not printed at all, or can be. -/
def canSay (b : Builder σ) (line : String) : Bool := ! b.verbose || ! Text.hasHalves line

def perform (b : Builder σ) : Call → Build σ → Stepped σ
  | .add r => b.add r
  | .run routes => b.run routes

/-- Calls one after the other, with the failures of those that fail. The call after one that failed
goes on from what that one left. -/
def performAll (b : Builder σ) : List Call → Build σ → Build σ × List (Option Failure)
  | [], s => (s, [])
  | c :: cs, s =>
    let (after, failure) := b.perform c s
    let (last, failures) := b.performAll cs after
    (last, failure :: failures)

end Builder

/-- The builds differ at most in what has been printed. -/
structure Build.Alike {σ : Type} (s t : Build σ) : Prop where
  document : s.document = t.document
  state : s.state = t.state

/-- The steps fail alike and leave builds that differ at most in what has been printed. -/
structure Stepped.Alike {σ : Type} (p q : Stepped σ) : Prop where
  build : Build.Alike p.1 q.1
  failure : p.2 = q.2

namespace Build.Alike
variable {σ : Type} {s t u : Build σ}

theorem refl (s : Build σ) : s.Alike s := ⟨rfl, rfl⟩

theorem symm (h : s.Alike t) : t.Alike s := ⟨h.document.symm, h.state.symm⟩

theorem trans (h : s.Alike t) (k : t.Alike u) : s.Alike u :=
  ⟨h.document.trans k.document, h.state.trans k.state⟩

end Build.Alike

namespace Stepped.Alike
variable {σ : Type} {p q r : Stepped σ}

theorem symm (h : Stepped.Alike p q) : Stepped.Alike q p := ⟨h.build.symm, h.failure.symm⟩

theorem trans (h : Stepped.Alike p q) (k : Stepped.Alike q r) : Stepped.Alike p r :=
  ⟨h.build.trans k.build, h.failure.trans k.failure⟩

end Stepped.Alike

namespace Builder
variable {σ : Type} (b : Builder σ)

theorem say_of_canSay {line : String} (can : b.canSay line = true) (s : Build σ) :
    Stepped.Alike (b.say line s) (s, none) := by
  unfold say
  cases verbose : b.verbose with
  | false => exact ⟨.refl s, rfl⟩
  | true =>
    have whole : Text.hasHalves line = false := by simpa [canSay, verbose] using can
    simp only [whole, Bool.not_true, Bool.false_eq_true, if_false]
    exact ⟨⟨rfl, rfl⟩, rfl⟩

theorem say_of_not_canSay {line : String} (cannot : b.canSay line = false) (s : Build σ) :
    b.say line s = (s, some (.trouble .lineNotUnicode)) := by
  have both : b.verbose = true ∧ Text.hasHalves line = true := by simpa [canSay] using cannot
  simp [say, both.1, both.2]

/-- A handler that cannot be printed ends the step before anything is looked up. -/
theorem add_of_unprintable {r : Route} (cannot : b.canSay r.handler = false) (s : Build σ) :
    b.add r s = (s, some (.trouble .lineNotUnicode)) := by
  simp only [add, b.say_of_not_canSay cannot s]

/-- The step on a route whose handler can be printed: the look-up, and the record of its answer. -/
theorem add_of_printable {r : Route} (can : b.canSay r.handler = true) (s : Build σ) :
    let answer := b.lookup s.state r.controller r.action
    Stepped.Alike (b.add r s)
      (match answer.doc with
        | .error cause => ({ s with state := answer.state }, some (.trouble cause))
        | .ok doc =>
          ({ s with
              document := (s.document.record b.settings r doc).1
              state := answer.state },
            (s.document.record b.settings r doc).2)) := by
  obtain ⟨⟨documents, states⟩, fine⟩ := b.say_of_canSay can s
  dsimp only at documents states fine
  generalize said : b.say r.handler s = step at documents states fine
  obtain ⟨after, failure⟩ := step
  dsimp only at documents states fine
  subst fine
  simp only [add, said, states]
  cases (b.lookup s.state r.controller r.action).doc with
  | error cause => exact ⟨⟨documents, rfl⟩, rfl⟩
  | ok doc => exact ⟨⟨by rw [documents], rfl⟩, by rw [documents]⟩

/-- A look-up that fails leaves the document as it was. -/
theorem add_of_trouble {r : Route} (can : b.canSay r.handler = true) {s : Build σ} {cause : Trouble}
    (troubled : (b.lookup s.state r.controller r.action).doc = .error cause) :
    Stepped.Alike (b.add r s)
      ({ s with state := (b.lookup s.state r.controller r.action).state },
        some (.trouble cause)) := by
  simpa only [troubled] using b.add_of_printable can s

/-- A route with an answer is recorded. -/
theorem add_of_doc {r : Route} (can : b.canSay r.handler = true) {s : Build σ}
    {doc : Option String} (answered : (b.lookup s.state r.controller r.action).doc = .ok doc) :
    Stepped.Alike (b.add r s)
      ({ s with
          document := (s.document.record b.settings r doc).1
          state := (b.lookup s.state r.controller r.action).state },
        (s.document.record b.settings r doc).2) := by
  simpa only [answered] using b.add_of_printable can s

theorem add_alike (r : Route) {s t : Build σ} (alike : s.Alike t) :
    Stepped.Alike (b.add r s) (b.add r t) := by
  obtain ⟨document, state, printed⟩ := s
  obtain ⟨document', state', printed'⟩ := t
  obtain ⟨rfl, rfl⟩ : document = document' ∧ state = state' := ⟨alike.document, alike.state⟩
  cases can : b.canSay r.handler with
  | false =>
    rw [b.add_of_unprintable can, b.add_of_unprintable can]
    exact ⟨alike, rfl⟩
  | true =>
    refine (b.add_of_printable can _).trans (Stepped.Alike.trans ?_ (b.add_of_printable can _).symm)
    cases (b.lookup state r.controller r.action).doc with
    | error cause => exact ⟨⟨rfl, rfl⟩, rfl⟩
    | ok doc => exact ⟨⟨rfl, rfl⟩, rfl⟩

theorem addAll_alike (rs : List Route) {s t : Build σ} (alike : s.Alike t) :
    Stepped.Alike (b.addAll rs s) (b.addAll rs t) := by
  induction rs generalizing s t with
  | nil => exact ⟨alike, rfl⟩
  | cons r rs ih =>
    have step := b.add_alike r alike
    simp only [addAll]
    generalize b.add r s = p at step
    generalize b.add r t = q at step
    obtain ⟨s', f⟩ := p
    obtain ⟨t', g⟩ := q
    obtain ⟨alike', rfl⟩ : s'.Alike t' ∧ f = g := ⟨step.build, step.failure⟩
    cases f with
    | none => exact ih alike'
    | some failure => exact ⟨alike', rfl⟩

theorem addAll_append (xs ys : List Route) (s : Build σ) :
    b.addAll (xs ++ ys) s =
      match b.addAll xs s with
      | (s, none) => b.addAll ys s
      | (s, some failure) => (s, some failure) := by
  induction xs generalizing s with
  | nil => rfl
  | cons r xs ih =>
    simp only [List.cons_append, addAll]
    generalize b.add r s = p
    obtain ⟨s', f⟩ := p
    cases f with
    | none => exact ih s'
    | some failure => rfl

/-- After routes that are added without a failure, the ones behind them are added. -/
theorem addAll_append_of_none {xs : List Route} {s : Build σ} (fine : (b.addAll xs s).2 = none)
    (ys : List Route) : b.addAll (xs ++ ys) s = b.addAll ys (b.addAll xs s).1 := by
  rw [addAll_append]
  generalize b.addAll xs s = p at fine
  obtain ⟨s', f⟩ := p
  dsimp only at fine
  subst fine
  rfl

/-- Nothing is added behind a route that fails. -/
theorem addAll_append_of_some {xs : List Route} {s : Build σ} {failure : Failure}
    (failed : (b.addAll xs s).2 = some failure) (ys : List Route) :
    b.addAll (xs ++ ys) s = b.addAll xs s := by
  rw [addAll_append]
  generalize b.addAll xs s = p at failed
  obtain ⟨s', f⟩ := p
  dsimp only at failed
  subst failed
  rfl

theorem addAll_singleton (r : Route) (s : Build σ) : b.addAll [r] s = b.add r s := by
  simp only [addAll]
  generalize b.add r s = p
  obtain ⟨s', f⟩ := p
  cases f <;> rfl

theorem addAll_cons_of_none {r : Route} {s : Build σ} (fine : (b.add r s).2 = none)
    (rs : List Route) : b.addAll (r :: rs) s = b.addAll rs (b.add r s).1 := by
  rw [← addAll_singleton] at fine ⊢
  exact b.addAll_append_of_none fine rs

theorem addAll_cons_of_some {r : Route} {s : Build σ} {failure : Failure}
    (failed : (b.add r s).2 = some failure) (rs : List Route) :
    b.addAll (r :: rs) s = b.add r s := by
  rw [← addAll_singleton] at failed ⊢
  exact b.addAll_append_of_some failed rs

/-- The line that a run starts with can always be printed. -/
theorem hasHalves_counts (routes controllers : Nat) : Text.hasHalves ("Found " ++
    toString routes ++ " routes in " ++ toString controllers ++ " controllers.") = false := by
  have words : Text.hasHalves "Found " = false ∧ Text.hasHalves " routes in " = false ∧
      Text.hasHalves " controllers." = false := by decide
  simp only [Text.hasHalves_append, Text.hasHalves_toString, words, Bool.or_self]

theorem run_alike (rs : List Route) (s : Build σ) : Stepped.Alike (b.run rs s) (b.addAll rs s) := by
  have can (m n : Nat) : b.canSay ("Found " ++ toString m ++ " routes in " ++ toString n ++
      " controllers.") = true := by
    rw [canSay, hasHalves_counts, Bool.not_false, Bool.or_true]
  have said := b.say_of_canSay (can rs.length (Route.byController rs).entries.length) s
  simp only [run]
  generalize b.say _ s = p at said
  obtain ⟨s', f⟩ := p
  obtain ⟨alike, rfl⟩ : s'.Alike s ∧ f = none := ⟨said.build, said.failure⟩
  exact b.addAll_alike rs alike

theorem perform_alike (c : Call) (s : Build σ) :
    Stepped.Alike (b.perform c s) (b.addAll c.routes s) := by
  cases c with
  | add r =>
    rw [Call.routes, addAll_singleton]
    exact ⟨.refl _, rfl⟩
  | run rs => exact b.run_alike rs s

/-- A sequence of calls is free of failures exactly if adding all their routes is, and then both
leave the same. -/
theorem performAll_alike (cs : List Call) {s t : Build σ} (alike : s.Alike t) :
    ((∀ f ∈ (b.performAll cs s).2, f = none) ↔ (b.addAll (cs.flatMap Call.routes) t).2 = none) ∧
      ((b.addAll (cs.flatMap Call.routes) t).2 = none →
        (b.performAll cs s).1.Alike (b.addAll (cs.flatMap Call.routes) t).1) := by
  induction cs generalizing s t with
  | nil => exact ⟨by simp [performAll, addAll], fun _ => alike⟩
  | cons c cs ih =>
    have step := (b.perform_alike c s).trans (b.addAll_alike c.routes alike)
    simp only [performAll, List.flatMap_cons, List.forall_mem_cons]
    cases ended : (b.addAll c.routes t).2 with
    | none =>
      rw [b.addAll_append_of_none ended, step.failure, ended]
      simpa using ih step.build
    | some failure =>
      rw [b.addAll_append_of_some ended, step.failure, ended]
      simp

end Builder
end RouteDocs
