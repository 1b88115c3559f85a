import RouteDocs.Proofs.Generation

/-!
# What the limits of paths and texts leave behind

A limit can be met after the disk has changed:

* `Disk.writeDocument_of_long_name`: a name that is too long, below a directory that was missing;
* `Disk.writeDocument_of_long_path`: a file whose path is too long, in a directory whose is not;
* `Disk.writeDocument_of_halves`: a text without an encoding, when the old files are gone;
* `limits_change_the_disk`: a call of each kind.
-/

namespace RouteDocs
namespace Disk

variable {d : Disk} {p storage : FilePath} {name : String}

/-- The directories before a name that is too long are made, and stay. -/
theorem writeDocument_of_long_name (document : ApiDocument) (hp : p.IsPlain)
    (hstart : d.node? (d.start p) = some .directory) (clear : ¬ d.Blocked (d.spot p))
    (missing : d.node? (d.spot p) = none) (long : FilePath.maxName < name.utf8ByteSize)
    (text : FilePath.textTrouble? (outputDirectory (p.within name)).text = none) :
    ∃ made, d.writeDocument (p.within name) document = (made, some (.file .nameTooLong)) ∧
      d.HasMade (d.spot p) made := by
  rw [outputDirectory_eq] at text
  have outer := FilePath.textTrouble?_within text
  have around : d.node? (d.spot p) ≠ some .directory := by simp [missing]
  have inner : d.locate (p.within name) = .error .notFound := by
    rcases locate_within_error hp outer around with ⟨-, blocked⟩ | ⟨located, -⟩
    · exact absurd blocked clear
    · exact located
  have output : d.locate ((p.within name).within "appDoc") = .error .notFound := by
    rw [locate_eq_bind text, inner]
    rfl
  obtain ⟨made, hmade, has⟩ : ∃ made, d.makeWay p = (made, none) ∧
      d.HasMade (d.spot p) made := by
    rcases makeWay_cases hp hstart with made | ⟨-, blocked⟩
    · exact made
    · exact absurd blocked clear
  have refused : made.locate (p.within name) = .error .nameTooLong := by
    have there : made.node? (made.spot p) = some .directory := by
      rw [has.spot_eq]
      exact has.on_way _ (List.prefix_refl _)
    obtain ⟨entries, he⟩ := (FileTree.node?_eq_directory_iff _ _).mp there
    rw [locate_eq_bind outer, locate_of_directory hp there]
    simp [Except.bind, follow, he, long]
  have making : d.makeWay (p.within name) = (made, some .nameTooLong) := by
    rw [makeWay_within]
    simp [makeDirectory_of_error inner, hmade, makeDirectory_of_error refused,
      isDirectory_of_error refused]
  refine ⟨made, ?_, has⟩
  rw [writeDocument_of_missing, writeFresh]
  · rw [outputDirectory_eq, makeDirectories_within, makeDirectory_of_error output, making]
  · rw [outputDirectory_eq]
    exact find?_of_error output (by decide)

/-- The output directory is made and stays, though its file cannot be named. -/
theorem writeDocument_of_long_path {document : ApiDocument}
    (hp : (outputDirectory storage).IsPlain)
    (hstart : d.node? (d.start storage) = some .directory)
    (missing : d.node? (d.spot (outputDirectory storage)) = none)
    (clear : ¬ d.Blocked (d.spot (outputDirectory storage)))
    (long : FilePath.maxText ≤ (outputFile storage).text.utf8ByteSize)
    (unicode : Text.hasHalves document.text = false) :
    ∃ made, d.writeDocument storage document = (made, some (.file .nameTooLong)) ∧
      d.HasMade (d.spot (outputDirectory storage)) made := by
  have absent := find?_of_missing (d := d) (outputDirectory_eq storage ▸ hp)
  rw [← outputDirectory_eq] at absent
  obtain ⟨made, hmade, has, -⟩ :=
    makeDirectories_output (outputDirectory_eq storage ▸ hp) hstart missing clear
  have refused : made.locate (outputFile storage) = .error .nameTooLong := by
    rw [outputFile_eq] at long ⊢
    have steps : (outputDirectory storage).steps ≠ [] := by
      rw [outputDirectory_eq, FilePath.steps_within]
      simp
    rw [locate, FilePath.textTrouble?_within_of_long steps hp.text (by simp) long]
  refine ⟨made, ?_, has⟩
  rw [writeDocument_of_missing (absent missing), writeFresh, hmade]
  simp [ApiDocument.serialize_of_unicode unicode, writeFile, refused, bind, Except.bind]

end Disk
/-- A name of this many characters. -/
def longName (n : Nat) : String := String.ofList (List.replicate n 'n')

theorem size_longName (n : Nat) : (longName n).utf8ByteSize = n := by
  induction n with
  | zero => rfl
  | succ n ih =>
    rw [longName, List.replicate_succ, String.ofList_cons, String.utf8ByteSize_append]
    rw [longName] at ih
    rw [ih, String.utf8ByteSize_singleton, Nat.add_comm]
    rfl

theorem toNat_ne_zero_of_mem_longName (n : Nat) : ∀ c ∈ (longName n).toList, c.toNat ≠ 0 := by
  intro c hc
  rw [longName, String.toList_ofList] at hc
  rw [List.eq_of_mem_replicate hc]
  decide

theorem up_ne_longName {n : Nat} (h : 2 < n) : ".." ≠ longName n := by
  intro same
  have size := congrArg String.utf8ByteSize same
  rw [size_longName] at size
  exact absurd size (Nat.ne_of_lt h)

/-- A path of names of 254 bytes. -/
def longPath (n : Nat) : FilePath := ⟨false, List.replicate n (longName 254)⟩

theorem longPath_succ (n : Nat) : longPath (n + 1) = (longPath n).within (longName 254) := by
  rw [longPath, List.replicate_succ', longPath, FilePath.within]

theorem steps_longPath_ne_nil (n : Nat) : (longPath (n + 1)).steps ≠ [] := by
  simp [longPath]

theorem size_longPath (n : Nat) : (longPath (n + 1)).text.utf8ByteSize = 255 * n + 254 := by
  induction n with
  | zero =>
    have one : (longPath 1).text = longName 254 := by
      simp [FilePath.text, longPath]
    rw [one, size_longName]
  | succ n ih =>
    rw [longPath_succ, FilePath.size_within _ _ (steps_longPath_ne_nil n), ih, size_longName]
    omega

theorem textTrouble?_longPath (n : Nat) (h : n < 16) :
    FilePath.textTrouble? (longPath (n + 1)).text = none := by
  induction n with
  | zero =>
    have one : (longPath 1).text = longName 254 := by
      simp [FilePath.text, longPath]
    rw [one, FilePath.textTrouble?_eq_none_iff]
    exact ⟨toNat_ne_zero_of_mem_longName 254, by rw [size_longName]; decide⟩
  | succ n ih =>
    rw [longPath_succ]
    refine FilePath.textTrouble?_within_of_short (steps_longPath_ne_nil n) (ih (by omega))
      (toNat_ne_zero_of_mem_longName 254) ?_
    rw [size_longPath, size_longName, FilePath.maxText]
    omega

theorem isPlain_longPath : (outputDirectory (longPath 16)).IsPlain := by
  have names : ∀ step ∈ ((longPath 16).within "appDoc").steps,
      step = longName 254 ∨ step = "appDoc" := by
    intro step hstep
    rcases List.mem_append.mp hstep with inner | last
    · exact .inl (List.eq_of_mem_replicate inner)
    · exact .inr (List.mem_singleton.mp last)
  rw [outputDirectory_eq]
  refine ⟨fun up => ?_, fun step hstep => ?_, ?_⟩
  · rcases names _ up with same | same
    · exact up_ne_longName (by decide) same
    · exact absurd same (by decide)
  · rcases names step hstep with rfl | rfl
    · rw [size_longName]
      decide
    · decide
  · refine FilePath.textTrouble?_within_of_short (steps_longPath_ne_nil 15)
      (textTrouble?_longPath 15 (by decide)) (by simp) ?_
    rw [size_longPath]
    decide

def emptyDisk : Disk where
  root := .directory []
  working := []

theorem emptyDisk_not_blocked (place : Place) : ¬ emptyDisk.Blocked place := by
  rintro ⟨q, content, -, file⟩
  cases q <;> cases file

/-- An action with half of a surrogate pair in its documentation. -/
def halfGeneration : Generation where
  builder := { usersBuilder with
    lookup := fun state _ _ =>
      ⟨.ok (some ("@apiDesc " ++ String.singleton (Text.ofCode 0xD83D))), .nothing, state⟩ }
  state := ()
  routes := [usersRoute "api/v1/users" "show"]

theorem perform_long_name :
    (∃ failure, (usersGeneration.perform (.within ⟨false, ["a"]⟩ (longName 300))
      emptyDisk).result = .error failure) ∧
    (usersGeneration.perform (.within ⟨false, ["a"]⟩ (longName 300)) emptyDisk).disk.node? ["a"] =
      some .directory := by
  obtain ⟨document, built, -⟩ := usersGeneration_unicode
  have plain : (⟨false, ["a"]⟩ : FilePath).IsPlain := ⟨by decide, by decide, by decide +kernel⟩
  have outer : FilePath.textTrouble? (FilePath.within ⟨false, ["a"]⟩ (longName 300)).text =
      none := by
    refine FilePath.textTrouble?_within_of_short (List.cons_ne_nil _ _) plain.text
      (toNat_ne_zero_of_mem_longName 300) ?_
    rw [size_longName]
    decide +kernel
  have text : FilePath.textTrouble?
      (outputDirectory (.within ⟨false, ["a"]⟩ (longName 300))).text = none := by
    rw [outputDirectory_eq]
    refine FilePath.textTrouble?_within_of_short (List.cons_ne_nil _ _) outer (by simp) ?_
    rw [FilePath.size_within _ _ (List.cons_ne_nil _ _), size_longName]
    decide +kernel
  obtain ⟨made, written, has⟩ := Disk.writeDocument_of_long_name (d := emptyDisk) document plain rfl
    (emptyDisk_not_blocked _) rfl (by rw [size_longName]; decide) text
  obtain ⟨left, failed⟩ := Generation.perform_of_document_some built written
  refine ⟨⟨_, failed⟩, ?_⟩
  rw [left]
  exact has.on_way _ (List.prefix_refl _)

theorem perform_long_path :
    (∃ failure, (usersGeneration.perform (longPath 16) emptyDisk).result = .error failure) ∧
    (usersGeneration.perform (longPath 16) emptyDisk).disk.node? [longName 254] =
      some .directory := by
  obtain ⟨document, built, unicode⟩ := usersGeneration_unicode
  have long : FilePath.maxText ≤ (outputFile (longPath 16)).text.utf8ByteSize := by
    rw [outputFile_eq, outputDirectory_eq, FilePath.size_within _ _ (by simp [FilePath.within]),
      FilePath.size_within _ _ (steps_longPath_ne_nil 15), size_longPath]
    decide
  obtain ⟨made, written, has⟩ := Disk.writeDocument_of_long_path (d := emptyDisk) isPlain_longPath
    rfl (by rw [outputDirectory_eq]; rfl) (emptyDisk_not_blocked _) long unicode
  obtain ⟨left, failed⟩ := Generation.perform_of_document_some built written
  refine ⟨⟨_, failed⟩, ?_⟩
  rw [left]
  refine has.on_way _ ⟨List.replicate 15 (longName 254) ++ ["appDoc"], ?_⟩
  rw [outputDirectory_eq]
  rfl

theorem perform_half :
    (∃ failure, (halfGeneration.perform usersStorage staleDisk).result = .error failure) ∧
    (halfGeneration.perform usersStorage staleDisk).disk.node? ["out", "appDoc", "old.txt"] =
      none := by
  have halves : halfGeneration.document?.map (fun document =>
      document.json.writeChars.any fun c => (Text.half? c).isSome) = some true := by
    decide +kernel
  obtain ⟨document, built, half⟩ := Option.map_eq_some_iff.mp halves
  have spot : staleDisk.spot (outputDirectory usersStorage) = ["out", "appDoc"] := by
    rw [outputDirectory_eq]
    rfl
  have old : staleDisk.node? (staleDisk.spot (outputDirectory usersStorage)) =
      some .directory := by
    rw [spot]
    rfl
  obtain ⟨after, written, empty⟩ := Disk.writeDocument_of_halves isPlain_usersStorage
    ((Json.hasHalves_write _).trans half) old
  obtain ⟨left, failed⟩ := Generation.perform_of_document_some built written
  refine ⟨⟨_, failed⟩, ?_⟩
  rw [spot] at empty
  have below := FileTree.get?_append after.root ["out", "appDoc"] ["old.txt"]
  rw [empty] at below
  rw [left, Disk.node?, FileTree.node?_eq_none_iff]
  exact below

end RouteDocs
