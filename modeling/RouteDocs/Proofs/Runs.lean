import RouteDocs.Proofs.Faults
import RouteDocs.Proofs.Generation
import RouteDocs.Proofs.ReadBack

namespace RouteDocs

namespace Lookup
variable {σ : Type}

/-- Asked about routes one after the other, the look-up finds for each the text of its action. -/
def Finds (lookup : Lookup σ) (texts : String → String → Option String) : σ → List Route → Prop
  | _, [] => True
  | state, r :: rs =>
    (lookup state r.controller r.action).doc = .ok (texts r.controller r.action) ∧
      lookup.Finds texts (lookup state r.controller r.action).state rs

theorem found_of_finds {lookup : Lookup σ} {texts : String → String → Option String} {state : σ}
    {rs : List Route} (h : lookup.Finds texts state rs) :
    lookup.found state rs = rs.map fun r => (r, texts r.controller r.action) := by
  induction rs generalizing state with
  | nil => rfl
  | cons r rs ih =>
    obtain ⟨answered, later⟩ := h
    rw [found_cons_of_doc answered, ih later, List.map_cons]

/-- Asked about routes one after the other, the look-up fails for one of them with what a controller
module raises. -/
def Raises (lookup : Lookup σ) (start : σ) (routes : List Route) (raised : Raised) : Prop :=
  ∃ before r behind, routes = before ++ r :: behind ∧
    (lookup (lookup.after start before) r.controller r.action).doc = .error (.module raised)

theorem raises_cons {lookup : Lookup σ} {start : σ} {r : Route} {rs : List Route} {raised : Raised}
    (h : lookup.Raises (lookup start r.controller r.action).state rs raised) :
    lookup.Raises start (r :: rs) raised := by
  obtain ⟨before, r', behind, rfl, raises⟩ := h
  exact ⟨r :: before, r', behind, rfl, raises⟩

end Lookup

namespace Builder
variable {σ : Type} {b : Builder σ} {r : Route} {rs : List Route} {s : Build σ}

/-- All that adding a route can do: its handler cannot be printed, its documentation is not found,
or it is recorded. -/
theorem add_cases (b : Builder σ) (r : Route) (s : Build σ) :
    b.add r s = (s, some (.trouble .lineNotUnicode)) ∨
    (∃ cause, (b.lookup s.state r.controller r.action).doc = .error cause ∧
      Stepped.Alike (b.add r s)
        ({ s with state := (b.lookup s.state r.controller r.action).state },
          some (.trouble cause))) ∨
    ∃ doc, (b.lookup s.state r.controller r.action).doc = .ok doc ∧
      b.canSay r.handler = true ∧
      Stepped.Alike (b.add r s)
        ({ s with
            document := (s.document.record b.settings r doc).1
            state := (b.lookup s.state r.controller r.action).state },
          (s.document.record b.settings r doc).2) := by
  cases can : b.canSay r.handler with
  | false => exact .inl (b.add_of_unprintable can s)
  | true =>
    cases answered : (b.lookup s.state r.controller r.action).doc with
    | error cause => exact .inr (.inl ⟨cause, rfl, b.add_of_trouble can answered⟩)
    | ok doc => exact .inr (.inr ⟨doc, rfl, rfl, b.add_of_doc can answered⟩)

/-- A route that is added without a failure had its documentation found, and is recorded. -/
theorem add_of_none (fine : (b.add r s).2 = none) :
    ∃ doc, (b.lookup s.state r.controller r.action).doc = .ok doc ∧
      r.refusal? b.settings doc = none ∧
      (b.add r s).1.document = (s.document.record b.settings r doc).1 ∧
      (b.add r s).1.state = (b.lookup s.state r.controller r.action).state := by
  rcases b.add_cases r s with step | ⟨cause, -, step⟩ | ⟨doc, answered, -, step⟩
  · rw [step] at fine
    cases fine
  · cases fine.symm.trans step.failure
  · refine ⟨doc, answered, ?_, step.build.document, step.build.state⟩
    rw [← s.document.record_failure, ← fine]
    exact step.failure.symm

/-- Routes that are added without a failure are recorded with what was found for them. -/
theorem addAll_of_none (fine : (b.addAll rs s).2 = none) :
    (∀ p ∈ b.lookup.found s.state rs, p.1.refusal? b.settings p.2 = none) ∧
      (b.addAll rs s).1.document =
        s.document.recordAll b.settings (b.lookup.found s.state rs) := by
  induction rs generalizing s with
  | nil => exact ⟨nofun, rfl⟩
  | cons r rs ih =>
    cases added : (b.add r s).2 with
    | some failure =>
      rw [b.addAll_cons_of_some added, added] at fine
      cases fine
    | none =>
      rw [b.addAll_cons_of_none added] at fine ⊢
      obtain ⟨doc, answered, accepted, document, state⟩ := add_of_none added
      obtain ⟨others, recorded⟩ := ih fine
      rw [state] at others recorded
      rw [Lookup.found_cons_of_doc answered]
      refine ⟨List.forall_mem_cons.mpr ⟨accepted, others⟩, ?_⟩
      rw [recorded, document]
      rfl

theorem add_heading (b : Builder σ) (r : Route) (s : Build σ) :
    (b.add r s).1.document.heading = s.document.heading := by
  rcases b.add_cases r s with step | ⟨cause, -, step⟩ | ⟨doc, -, -, step⟩
  · rw [step]
  · rw [step.build.document]
  · rw [step.build.document]
    exact s.document.record_heading b.settings r doc

theorem addAll_heading (b : Builder σ) (rs : List Route) (s : Build σ) :
    (b.addAll rs s).1.document.heading = s.document.heading := by
  induction rs generalizing s with
  | nil => rfl
  | cons r rs ih =>
    cases added : (b.add r s).2 with
    | some failure => rw [b.addAll_cons_of_some added, b.add_heading]
    | none => rw [b.addAll_cons_of_none added, ih, b.add_heading]

/-- A run records nothing but tags and operations. -/
theorem run_heading (b : Builder σ) (rs : List Route) (s : Build σ) :
    (b.run rs s).1.document.heading = s.document.heading := by
  rw [(b.run_alike rs s).build.document, b.addAll_heading]

theorem run_host (b : Builder σ) (rs : List Route) (s : Build σ) :
    (b.run rs s).1.document.host = s.document.host := by
  have host {d d' : ApiDocument} (same : d.heading = d'.heading) : d.host = d'.host :=
    (congrArg ApiDocument.host same :)
  exact host (b.run_heading rs s)

theorem add_of_module {raised : Raised} (h : (b.add r s).2 = some (.trouble (.module raised))) :
    (b.lookup s.state r.controller r.action).doc = .error (.module raised) := by
  rcases b.add_cases r s with step | ⟨cause, answered, step⟩ | ⟨doc, -, can, step⟩
  · rw [step] at h
    cases h
  · cases h.symm.trans step.failure
    exact answered
  · -- what refuses a route blames one of its declarations
    rw [step.failure, s.document.record_failure] at h
    have refused : b.refusal? r doc = some (.trouble (.module raised)) := by
      rw [refusal?, if_pos can, h]
    cases blames_of_refusal? can refused

theorem addAll_of_module {raised : Raised}
    (h : (b.addAll rs s).2 = some (.trouble (.module raised))) :
    b.lookup.Raises s.state rs raised := by
  induction rs generalizing s with
  | nil => cases h
  | cons r rs ih =>
    cases added : (b.add r s).2 with
    | some failure =>
      rw [b.addAll_cons_of_some added] at h
      exact ⟨[], r, rs, rfl, add_of_module h⟩
    | none =>
      rw [b.addAll_cons_of_none added] at h
      obtain ⟨_, -, -, -, state⟩ := add_of_none added
      exact Lookup.raises_cons (state ▸ ih h)

/-- Only a look-up brings in what a controller module raises. -/
theorem run_of_module {raised : Raised}
    (h : (b.run rs s).2 = some (.trouble (.module raised))) :
    b.lookup.Raises s.state rs raised := by
  rw [(b.run_alike rs s).failure] at h
  exact addAll_of_module h

end Builder

/-- Writing a document runs no controller module. -/
theorem Disk.not_module_of_writeDocument {disk after : Disk} {storage : FilePath}
    {document : ApiDocument} {cause : Trouble}
    (h : disk.writeDocument storage document = (after, some cause)) :
    ∀ raised, cause ≠ .module raised := by
  rintro raised rfl
  rw [writeDocument] at h
  split at h
  · cases h
  · next fresh _ =>
    rcases fresh.writeFresh_cases storage document with
      ⟨_, _, failed⟩ | ⟨_, failed⟩ | ⟨_, _, done, -⟩
    · cases failed.symm.trans h
    · cases failed.symm.trans h
    · cases done.symm.trans h

variable {σ : Type} {b : Builder σ} {state : σ} {routes : List Route} {storage : FilePath}
variable {disk : Disk}

/-- A call that gives a file ran without a failure, and its document is read back there. -/
theorem generate_of_ok {path : FilePath}
    (h : (generate b state routes storage disk).result = .ok path) :
    path = outputFile storage ∧ ∃ start, ApiDocument.start? b.settings = .ok start ∧
      (b.run routes ⟨start, state, .nothing⟩).2 = none ∧
      (generate b state routes storage disk).disk.readBytes (outputFile storage) =
        .ok (b.run routes ⟨start, state, .nothing⟩).1.document.text.toUTF8 := by
  obtain ⟨named, document, built, written⟩ := Generation.written_of_perform
    (g := ⟨b, state, routes⟩) h
  refine ⟨named, ?_⟩
  rw [Generation.document?] at built
  cases started : ApiDocument.start? b.settings with
  | error failure => simp [started] at built
  | ok start =>
    rcases ran : b.run routes ⟨start, state, .nothing⟩ with ⟨s, _ | failure⟩
    · simp only [started, ran, Option.some.injEq] at built
      subst built
      exact ⟨start, rfl, by rw [ran], by rw [ran]; exact Disk.readBytes_of_writeDocument written⟩
    · simp [started, ran] at built

/-- A call that a controller module ended wrote nothing. -/
theorem generate_of_module {raised : Raised}
    (h : (generate b state routes storage disk).result = .error (.trouble (.module raised))) :
    (generate b state routes storage disk).disk = disk ∧
      b.lookup.Raises state routes raised := by
  rw [generate] at h ⊢
  cases started : ApiDocument.start? b.settings with
  | error failure =>
    rw [started] at h
    rw [ApiDocument.start?] at started
    split at started <;> cases started
    cases h
  | ok start =>
    rw [started] at h
    rcases ran : b.run routes ⟨start, state, .nothing⟩ with ⟨s, _ | failure⟩
    · simp only [ran] at h
      rcases writing : disk.writeDocument storage s.document with ⟨after, _ | cause⟩
      · simp [writing] at h
      · simp only [writing] at h
        have cause_eq : cause = .module raised := Failure.trouble.inj (Except.error.inj h)
        exact absurd cause_eq (Disk.not_module_of_writeDocument writing raised)
    · simp only [ran] at h ⊢
      cases h
      exact ⟨trivial, Builder.run_of_module (s := ⟨start, state, .nothing⟩) (by rw [ran])⟩

end RouteDocs
