import RouteDocs.Proofs.Parameters
import RouteDocs.Proofs.Recording

/-!
# Runs that end at a declaration at fault

* `refusal?_eq_none_iff`, `refusal?_of_first_fault`: a route is refused exactly if one of its
  declarations is at fault, and the first such declaration is told;
* `addAll_of_first_refusal`: routes are added up to the first that is refused;
* `run_ends_at_first_fault`: when a run ends with a fault, with which one, and what it leaves;
* `unprintable_handler_hides_fault`: a handler that cannot be printed comes before any fault.
-/

namespace RouteDocs
open Declaration (IsFaulty fault)

/-- Whether a failure is told about a declaration. -/
def Failure.blamesDeclaration : Failure → Bool
  | .missingType .. => true
  | .missingName .. => true
  | _ => false

theorem blamesDeclaration_fault (r : Route) (declaration : String) :
    (fault r declaration).blamesDeclaration = true := by
  unfold fault
  split <;> rfl

/-- The first of the elements with a property. -/
theorem exists_first {α : Type} {P : α → Prop} {xs : List α} (some_has : ∃ x ∈ xs, P x) :
    ∃ before x behind, xs = before ++ x :: behind ∧ (∀ y ∈ before, ¬ P y) ∧ P x := by
  classical
  obtain ⟨x, hx, has⟩ := some_has
  cases first : xs.find? (decide <| P ·) with
  | none => exact absurd (decide_eq_true has) (List.find?_eq_none.mp first x hx)
  | some y =>
    obtain ⟨hasToo, before, behind, split, lack⟩ := List.find?_eq_some_iff_append.mp first
    exact ⟨before, y, behind, split, fun z hz => by simpa using lack z hz,
      of_decide_eq_true hasToo⟩

namespace Route
variable {r : Route} {settings : Settings} {doc : Option String}

theorem refusal?_of_first_fault {good rest : List String} {bad : String}
    (params : (Block.ofText? doc).params = good ++ bad :: rest)
    (sound : ∀ d ∈ good, ¬ IsFaulty d) (faulty : IsFaulty bad) :
    r.refusal? settings doc = some (fault r bad) := by
  have documented : (Block.ofText? doc).isEmpty = false := by
    simp [Block.isEmpty, params]
  have failed : Param.all (good ++ bad :: rest) r = .error (fault r bad) :=
    Declaration.all_of_first_fault sound faulty r
  simp only [refusal?, operation, documented, Bool.false_eq_true, if_false, params, failed, bind,
    Except.bind]

theorem refusal?_eq_none_iff :
    r.refusal? settings doc = none ↔ ∀ d ∈ (Block.ofText? doc).params, ¬ IsFaulty d := by
  constructor
  · intro accepted d hd faulty
    obtain ⟨good, bad, rest, params, sound, faultyToo⟩ := exists_first ⟨d, hd, faulty⟩
    rw [refusal?_of_first_fault params sound faultyToo] at accepted
    cases accepted
  · intro sound
    obtain ⟨ps, declared⟩ := Declaration.exists_all sound r
    cases empty : (Block.ofText? doc).isEmpty with
    | true => simp only [refusal?, operation_of_isEmpty empty]
    | false =>
      simp only [refusal?, operation, empty, Bool.false_eq_true, if_false, declared, bind,
        Except.bind, pure, Except.pure]

end Route

namespace Builder
variable {σ : Type} {b : Builder σ}

theorem refusal?_eq_none_iff {r : Route} {doc : Option String} :
    b.refusal? r doc = none ↔
      b.canSay r.handler = true ∧ ∀ d ∈ (Block.ofText? doc).params, ¬ IsFaulty d := by
  constructor
  · intro accepted
    obtain ⟨can, alone⟩ := canSay_of_accepted accepted
    exact ⟨can, Route.refusal?_eq_none_iff.mp alone⟩
  · rintro ⟨can, sound⟩
    rw [refusal?, if_pos can]
    exact Route.refusal?_eq_none_iff.mpr sound

/-- Where the handler can be printed, only a declaration at fault refuses a route. -/
theorem exists_faulty_of_refusal? {r : Route} {doc : Option String} {failure : Failure}
    (can : b.canSay r.handler = true) (refused : b.refusal? r doc = some failure) :
    ∃ d ∈ (Block.ofText? doc).params, IsFaulty d := by
  apply Classical.byContradiction
  intro sound
  have accepted := refusal?_eq_none_iff.mpr ⟨can, fun d hd faulty => sound ⟨d, hd, faulty⟩⟩
  rw [accepted] at refused
  cases refused

/-- Of a route whose handler can be printed a fault is told, or nothing. -/
theorem blames_of_refusal? {r : Route} {doc : Option String} {failure : Failure}
    (can : b.canSay r.handler = true) (refused : b.refusal? r doc = some failure) :
    failure.blamesDeclaration = true := by
  obtain ⟨good, bad, rest, params, sound, faulty⟩ :=
    exists_first (exists_faulty_of_refusal? can refused)
  rw [refusal?, if_pos can, Route.refusal?_of_first_fault params sound faulty] at refused
  exact Option.some_inj.mp refused ▸ blamesDeclaration_fault r bad

/-- A fault is told only of a route whose handler can be printed. -/
theorem faulty_of_blames {r : Route} {doc : Option String} {failure : Failure}
    (refused : b.refusal? r doc = some failure) (blames : failure.blamesDeclaration = true) :
    b.canSay r.handler = true ∧ ∃ d ∈ (Block.ofText? doc).params, IsFaulty d := by
  cases can : b.canSay r.handler with
  | false =>
    have unprintable : failure = .trouble .lineNotUnicode := by
      simpa [refusal?, can] using refused.symm
    rw [unprintable] at blames
    cases blames
  | true => exact ⟨rfl, exists_faulty_of_refusal? can refused⟩

variable (answers : b.lookup.Answers)
include answers

/-- Routes are added up to the first that is refused. -/
theorem addAll_of_first_refusal {rs : List Route} {s : Build σ}
    {before behind : List (Route × Option String)} {r : Route} {doc : Option String}
    {failure : Failure} (split : b.lookup.found s.state rs = before ++ (r, doc) :: behind)
    (accepted : ∀ p ∈ before, b.refusal? p.1 p.2 = none)
    (refused : b.refusal? r doc = some failure) :
    (b.addAll (before.map Prod.fst) s).2 = none ∧ (b.addAll rs s).2 = some failure ∧
      b.addAll rs s = b.add r (b.addAll (before.map Prod.fst) s).1 ∧
      (b.lookup (b.addAll (before.map Prod.fst) s).1.state r.controller r.action).doc = .ok doc := by
  have routes : rs = before.map Prod.fst ++ r :: behind.map Prod.fst := by
    simpa [b.lookup.found_routes] using congrArg (List.map Prod.fst) split
  obtain ⟨doc', answered, failure', -⟩ :=
    add_of_answers answers r (b.addAll (before.map Prod.fst) s).1
  have parts := b.lookup.found_append s.state (before.map Prod.fst) (r :: behind.map Prod.fst)
  rw [← routes, split] at parts
  have sameLength : before.length = (b.lookup.found s.state (before.map Prod.fst)).length := by
    simpa using (congrArg List.length (b.lookup.found_routes s.state (before.map Prod.fst))).symm
  obtain ⟨lead, tail⟩ := List.append_inj parts sameLength
  have fine : (b.addAll (before.map Prod.fst) s).2 = none := by
    rw [addAll_none_iff answers, ← lead]
    exact accepted
  rw [← (addAll_recordAll answers fine).2, Lookup.found_cons_of_doc answered] at tail
  obtain rfl : doc = doc' := congrArg Prod.snd (List.cons.inj tail).1
  rw [refused] at failure'
  have stopped : b.addAll rs s = b.add r (b.addAll (before.map Prod.fst) s).1 := by
    rw [routes, b.addAll_append_of_none fine, b.addAll_cons_of_some failure']
  exact ⟨fine, stopped ▸ failure', stopped, answered⟩

/-- A run ends with a fault exactly if there is one and every handler up to it can be printed. -/
theorem addAll_blames_iff (rs : List Route) (s : Build σ) :
    (∃ failure, (b.addAll rs s).2 = some failure ∧ failure.blamesDeclaration = true) ↔
      ∃ before r doc behind, b.lookup.found s.state rs = before ++ (r, doc) :: behind ∧
        (∃ d ∈ (Block.ofText? doc).params, IsFaulty d) ∧
        ∀ p ∈ before ++ [(r, doc)], b.canSay p.1.handler = true := by
  constructor
  · rintro ⟨failure, failed, blames⟩
    have some_refused : ∃ p ∈ b.lookup.found s.state rs, ¬ b.refusal? p.1 p.2 = none := by
      apply Classical.byContradiction
      intro all_accepted
      have fine := (addAll_none_iff answers rs s).mpr fun p hp =>
        Classical.byContradiction fun refused => all_accepted ⟨p, hp, refused⟩
      rw [fine] at failed
      cases failed
    obtain ⟨before, ⟨r, doc⟩, behind, split, earlier, refused⟩ := exists_first some_refused
    have accepted : ∀ p ∈ before, b.refusal? p.1 p.2 = none := fun p hp =>
      Classical.byContradiction (earlier p hp)
    obtain ⟨cause, told⟩ := Option.ne_none_iff_exists'.mp refused
    have ended := (addAll_of_first_refusal answers split accepted told).2.1
    obtain rfl : cause = failure := Option.some_inj.mp (ended.symm.trans failed)
    obtain ⟨can, faulty⟩ := faulty_of_blames told blames
    refine ⟨before, r, doc, behind, split, faulty, ?_⟩
    simp only [List.forall_mem_append, List.forall_mem_singleton]
    exact ⟨fun p hp => (canSay_of_accepted (accepted p hp)).1, can⟩
  · rintro ⟨before, r, doc, behind, split, ⟨d, hd, faulty⟩, can⟩
    -- the first refusal stands at this route or before it, where every handler can be printed
    have some_refused : ∃ p ∈ before ++ [(r, doc)], ¬ b.refusal? p.1 p.2 = none :=
      ⟨(r, doc), by simp, fun accepted => (refusal?_eq_none_iff.mp accepted).2 d hd faulty⟩
    obtain ⟨before', ⟨r', doc'⟩, between, split', earlier, refused⟩ := exists_first some_refused
    have whole : b.lookup.found s.state rs = before' ++ (r', doc') :: (between ++ behind) := by
      have longer := congrArg (· ++ behind) split'
      simpa [split] using longer
    have can' : b.canSay r'.handler = true := by
      have here : (r', doc') ∈ before ++ [(r, doc)] := by rw [split']; simp
      exact can (r', doc') here
    obtain ⟨cause, told⟩ := Option.ne_none_iff_exists'.mp refused
    have ended := addAll_of_first_refusal answers whole
      (fun p hp => Classical.byContradiction (earlier p hp)) told
    exact ⟨cause, ended.2.1, blames_of_refusal? can' told⟩

end Builder

/-- **The first fault ends a run.** A run is ended by a fault exactly if a declaration of one of the
routes is at fault and the handlers up to this route's can be printed. The fault that is told is the
first of the first such route. The document is then the one after the routes before, with the tag
of this route and nothing else of it, and calls that follow go on from there. A handler that cannot
be printed and a look-up that fails leave the document as it was after the routes before. -/
theorem run_ends_at_first_fault {σ : Type} (b : Builder σ) (s : Build σ) (routes : List Route) :
    (b.lookup.Answers →
      ((∃ failure, (b.run routes s).2 = some failure ∧ failure.blamesDeclaration = true) ↔
        ∃ before r doc behind,
          b.lookup.found s.state routes = before ++ (r, doc) :: behind ∧
          (∃ d ∈ (Block.ofText? doc).params, IsFaulty d) ∧
          ∀ p ∈ before ++ [(r, doc)], b.canSay p.1.handler = true) ∧
      ∀ before r doc behind good bad rest,
        b.lookup.found s.state routes = before ++ (r, doc) :: behind →
        (∀ p ∈ before, ∀ d ∈ (Block.ofText? p.2).params, ¬ IsFaulty d) →
        (∀ p ∈ before ++ [(r, doc)], b.canSay p.1.handler = true) →
        (Block.ofText? doc).params = good ++ bad :: rest →
        (∀ d ∈ good, ¬ IsFaulty d) → IsFaulty bad →
        let earlier := b.run (before.map Prod.fst) s
        let ended := b.run routes s
        earlier.2 = none ∧
        ended.2 = some (fault r bad) ∧
        ended.1.document =
          { earlier.1.document with tags := earlier.1.document.tags ++ [r.tag b.settings] } ∧
        ∀ calls : List Call,
          (∀ p ∈ b.lookup.found ended.1.state (calls.flatMap Call.routes),
            b.refusal? p.1 p.2 = none) →
          (∀ f ∈ (b.performAll calls ended.1).2, f = none) ∧
          (b.performAll calls ended.1).1.document =
            ended.1.document.recordAll b.settings
              (b.lookup.found ended.1.state (calls.flatMap Call.routes))) ∧
    ∀ before r behind, routes = before ++ r :: behind → (b.run before s).2 = none →
      (b.canSay r.handler = false →
        (b.run routes s).2 = some (.trouble .lineNotUnicode) ∧
        (b.run routes s).1.document = (b.run before s).1.document) ∧
      ∀ cause, b.canSay r.handler = true →
        (b.lookup (b.run before s).1.state r.controller r.action).doc = .error cause →
        (b.run routes s).2 = some (.trouble cause) ∧
        (b.run routes s).1.document = (b.run before s).1.document := by
  have run_all (rs : List Route) := b.run_alike rs s
  refine ⟨fun answers => ⟨?_, ?_⟩, ?_⟩
  · rw [(run_all routes).failure]
    exact Builder.addAll_blames_iff answers routes s
  · intro before r doc behind good bad rest split sound can params soundDeclarations faulty
    have accepted : ∀ p ∈ before, b.refusal? p.1 p.2 = none := fun p hp =>
      Builder.refusal?_eq_none_iff.mpr ⟨can p (List.mem_append_left _ hp), sound p hp⟩
    have canLast : b.canSay r.handler = true := can (r, doc) (by simp)
    have refusedAlone : r.refusal? b.settings doc = some (fault r bad) :=
      Route.refusal?_of_first_fault params soundDeclarations faulty
    have refused : b.refusal? r doc = some (fault r bad) := by
      rw [Builder.refusal?, if_pos canLast, refusedAlone]
    obtain ⟨fine, told, stopped, answered⟩ :=
      Builder.addAll_of_first_refusal answers split accepted refused
    dsimp only
    refine ⟨(run_all _).failure.trans fine, (run_all _).failure.trans told, ?_,
      fun calls accepted => Builder.performAll_recordAll answers calls _ accepted⟩
    rw [(run_all routes).build.document, (run_all _).build.document, stopped,
      (b.add_of_doc canLast answered).build.document]
    exact ApiDocument.record_of_refusal _ _ refusedAlone
  · rintro before r behind rfl fine
    have fineAll : (b.addAll before s).2 = none := (run_all before).failure.symm.trans fine
    have state := (run_all before).build.state
    have document := (run_all before).build.document
    have together := run_all (before ++ r :: behind)
    rw [b.addAll_append_of_none fineAll] at together
    constructor
    · intro cannot
      have step := b.add_of_unprintable cannot (b.addAll before s).1
      have failed : (b.add r (b.addAll before s).1).2 = some (.trouble .lineNotUnicode) := by
        rw [step]
      rw [b.addAll_cons_of_some failed, step] at together
      exact ⟨together.failure, together.build.document.trans document.symm⟩
    · intro cause can troubled
      rw [state] at troubled
      have step := b.add_of_trouble can troubled
      rw [b.addAll_cons_of_some step.failure] at together
      exact ⟨together.failure.trans step.failure,
        together.build.document.trans (step.build.document.trans document.symm)⟩

/-- A builder for an application with an action whose declarations have no type and no name. -/
def saveBuilder : Builder Unit :=
  { usersBuilder with
    lookup := DocTable.lookup (.ofList [("app.Users@save", "@apiParam $id\n@apiParam string")]) }

theorem run_ends_at_first_fault_save :
    let routes := [usersRoute "users" "show", usersRoute "users/{id}" "save",
      usersRoute "users" "list"]
    (saveBuilder.run routes ⟨default, (), .nothing⟩).2 =
        some (.missingType "app.Users" "save" (some "id")) ∧
      (saveBuilder.run routes ⟨default, (), .nothing⟩).1.document.tags.length = 2 := by
  have answers : saveBuilder.lookup.Answers := fun _ _ _ => ⟨_, rfl⟩
  obtain ⟨-, told, left, -⟩ :=
    ((run_ends_at_first_fault saveBuilder ⟨default, (), .nothing⟩
      [usersRoute "users" "show", usersRoute "users/{id}" "save", usersRoute "users" "list"]).1
      answers).2 [(usersRoute "users" "show", none)] (usersRoute "users/{id}" "save")
      (some "@apiParam $id\n@apiParam string") [(usersRoute "users" "list", none)]
      [] "$id" ["string"] (by decide +kernel) (by simp [Block.ofText?, Block.empty])
      (by decide +kernel) (by decide +kernel) nofun (.inl (by decide +kernel))
  refine ⟨told.trans (by decide +kernel), ?_⟩
  rw [left]
  decide +kernel

/-- A handler that cannot be printed ends a run before the declarations of a later route are read,
so that a run need not be ended by a fault although there is one. -/
theorem unprintable_handler_hides_fault :
    let broken : Route :=
      { usersRoute "users" "show" with className := .ofList [Text.ofCode 0xD800] }
    let routes := [broken, usersRoute "users/{id}" "save"]
    saveBuilder.lookup.Answers ∧
      (∃ p ∈ saveBuilder.lookup.found () routes, ∃ d ∈ (Block.ofText? p.2).params, IsFaulty d) ∧
      ¬ ∃ failure, (saveBuilder.run routes ⟨default, (), .nothing⟩).2 = some failure ∧
        failure.blamesDeclaration = true := by
  refine ⟨fun _ _ _ => ⟨_, rfl⟩, ?_, ?_⟩
  · refine ⟨(usersRoute "users/{id}" "save", some "@apiParam $id\n@apiParam string"),
      by decide +kernel, "$id", by decide +kernel, .inl (by decide +kernel)⟩
  · rintro ⟨failure, ended, blames⟩
    have printing : (saveBuilder.run [{ usersRoute "users" "show" with
        className := .ofList [Text.ofCode 0xD800] }, usersRoute "users/{id}" "save"]
        ⟨default, (), .nothing⟩).2 = some (.trouble .lineNotUnicode) := by decide +kernel
    obtain rfl := Option.some_inj.mp (printing.symm.trans ended)
    cases blames

end RouteDocs
