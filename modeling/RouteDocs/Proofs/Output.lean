import RouteDocs.Builder
import RouteDocs.Proofs.Disk

namespace RouteDocs

theorem outputDirectory_eq (storage : FilePath) :
    outputDirectory storage = storage.within "appDoc" := by
  have name : FilePath.ofText "appDoc" = ⟨false, ["appDoc"]⟩ := by decide +kernel
  rw [outputDirectory, FilePath.child, name]
  rfl

theorem outputFile_eq (storage : FilePath) :
    outputFile storage = (outputDirectory storage).within "resource.json" := by
  have name : FilePath.ofText "resource.json" = ⟨false, ["resource.json"]⟩ := by decide +kernel
  rw [outputFile, FilePath.child, name]
  rfl

namespace Disk

variable {d : Disk} {p storage : FilePath} {name : String} {document : ApiDocument}

/-- The file of a document is alone in the output directory. The directories around it are there,
none of them in place of a file, and no other place changed. -/
structure Published (d : Disk) (storage : FilePath) (content : ByteArray) (after : Disk) :
    Prop where
  working : after.working = d.working
  output : after.root.get? (d.spot (outputDirectory storage)) =
    some (.directory [("resource.json", .file content)])
  clear : ¬ d.Blocked (d.spot (outputDirectory storage))
  on_way : ∀ q, q <+: d.spot (outputDirectory storage) → after.node? q = some .directory
  elsewhere : ∀ q, ¬ q <+: d.spot (outputDirectory storage) →
    ¬ d.spot (outputDirectory storage) <+: q → after.node? q = d.node? q

/-! ### What a path names -/

theorem find?_of_present {t : FileTree} (hp : (p.within name).IsPlain)
    (h : d.root.get? (d.spot (p.within name)) = some t) :
    d.find? (p.within name) = .ok (some t) := by
  have around : d.node? (d.spot p) = some .directory := by
    refine node?_of_append (List.cons_ne_nil name []) ?_
    rw [← spot_within, node?, ne_eq, FileTree.node?_eq_none_iff, h]
    simp
  simp [find?, find, locate_within hp around, bind, Except.bind, h]

theorem find?_of_error {trouble : FileTrouble} (h : d.locate p = .error trouble)
    (other : trouble ≠ .nameTooLong) : d.find? p = .ok none := by
  cases trouble <;> simp_all [find?, find, bind, Except.bind]

theorem find?_of_missing (hp : (p.within name).IsPlain)
    (h : d.node? (d.spot (p.within name)) = none) : d.find? (p.within name) = .ok none := by
  have nothing := (FileTree.node?_eq_none_iff _ _).mp h
  by_cases around : d.node? (d.spot p) = some .directory
  · simp [find?, find, locate_within hp around, bind, Except.bind, nothing]
  · rcases locate_within_error hp.of_within hp.text around with ⟨located, -⟩ | ⟨located, -⟩ <;>
      exact find?_of_error located (by decide)

/-- A directory without entries is all that is left of one with nothing below it. -/
theorem get?_of_nothing_below {place : Place} (h : d.node? place = some .directory)
    (nothing : ∀ m, d.node? (place ++ [m]) = none) : d.root.get? place = some (.directory []) := by
  obtain ⟨entries, he⟩ := (FileTree.node?_eq_directory_iff _ _).mp h
  cases entries with
  | nil => exact he
  | cons entry rest =>
    have missing := (FileTree.node?_eq_none_iff _ _).mp (nothing entry.1)
    rw [FileTree.get?_append, he] at missing
    simp [FileTree.get?, FileTree.entry?] at missing

/-! ### Writing on a disk without the directory -/

theorem writeDocument_of_missing (h : d.find? (outputDirectory storage) = .ok none) :
    d.writeDocument storage document = d.writeFresh storage document := by
  simp only [writeDocument, h, bind, Except.bind, pure, Except.pure]
  rfl

theorem writeDocument_of_cleared {t : FileTree} {cleared : Disk}
    (h : d.find? (outputDirectory storage) = .ok (some t))
    (removed : d.removeDirectory (outputDirectory storage) = .ok cleared) :
    d.writeDocument storage document = cleared.writeFresh storage document := by
  simp only [writeDocument, h, bind, Except.bind, removed]
  rfl

theorem writeDocument_of_file {t : FileTree} {trouble : FileTrouble}
    (h : d.find? (outputDirectory storage) = .ok (some t))
    (kept : d.removeDirectory (outputDirectory storage) = .error trouble) :
    d.writeDocument storage document = (d, some (.file trouble)) := by
  simp only [writeDocument, h, bind, Except.bind, kept]
  rfl

/-- All that writing into a fresh directory can do: the file system refuses something, the document
has no text, or its text is written. -/
theorem writeFresh_cases (d : Disk) (storage : FilePath) (document : ApiDocument) :
    (∃ after trouble, d.writeFresh storage document = (after, some (.file trouble))) ∨
    (∃ after, d.writeFresh storage document = (after, some .documentNotUnicode)) ∨
    ∃ made after : Disk, d.writeFresh storage document = (after, none) ∧
      Text.hasHalves document.text = false ∧
      made.writeFile (outputFile storage) document.text.toUTF8 = .ok after := by
  rw [writeFresh]
  rcases d.makeDirectories (outputDirectory storage) with ⟨made, _ | trouble⟩
  · cases unicode : Text.hasHalves document.text with
    | true =>
      rw [ApiDocument.serialize_of_halves unicode]
      exact .inr (.inl ⟨made, rfl⟩)
    | false =>
      rw [ApiDocument.serialize_of_unicode unicode]
      cases writing : made.writeFile (outputFile storage) document.text.toUTF8 with
      | error trouble =>
        refine .inl ⟨made, trouble, ?_⟩
        simp only [writing]
      | ok after =>
        refine .inr (.inr ⟨made, after, ?_, rfl, writing⟩)
        simp only [writing]
  · exact .inl ⟨made, trouble, rfl⟩

/-- What is made where nothing was has nothing below it. -/
theorem HasMade.nothing_below {place rest : Place} {made : Disk} (has : d.HasMade place made)
    (missing : d.node? place = none) (hr : rest ≠ []) : made.node? (place ++ rest) = none := by
  rw [has.elsewhere _ fun short => ?_]
  · by_contra something
    rw [node?_of_append hr something] at missing
    cases missing
  · have length := short.length_le
    rw [List.length_append] at length
    have := List.length_pos_iff.mpr hr
    omega

theorem isPlain_directory (hp : (outputFile storage).IsPlain) :
    (storage.within "appDoc").IsPlain := by
  rw [outputFile_eq, outputDirectory_eq] at hp
  exact hp.of_within

/-- The output directory is made, empty, unless a file is in the way. -/
theorem makeDirectories_output (hp : (storage.within "appDoc").IsPlain)
    (hstart : d.node? (d.start storage) = some .directory)
    (missing : d.node? (d.spot (outputDirectory storage)) = none)
    (clear : ¬ d.Blocked (d.spot (outputDirectory storage))) :
    ∃ made, d.makeDirectories (outputDirectory storage) = (made, none) ∧
      d.HasMade (d.spot (outputDirectory storage)) made ∧
      made.root.get? (made.spot (outputDirectory storage)) = some (.directory []) := by
  have made_or_not := makeDirectories_cases (d := d) hp hstart
  rw [← outputDirectory_eq] at made_or_not
  rcases made_or_not missing with ⟨made, hmade, has⟩ | ⟨-, blocked⟩
  · refine ⟨made, hmade, has, ?_⟩
    rw [has.spot_eq]
    exact get?_of_nothing_below (has.on_way _ (List.prefix_refl _))
      fun m => has.nothing_below missing (List.cons_ne_nil m [])
  · refine absurd (blocked.mono ⟨["appDoc"], ?_⟩) clear
    rw [outputDirectory_eq, spot_within]

theorem writeFresh_of_clear (hp : (outputFile storage).IsPlain)
    (hstart : d.node? (d.start storage) = some .directory)
    (missing : d.node? (d.spot (outputDirectory storage)) = none)
    (clear : ¬ d.Blocked (d.spot (outputDirectory storage)))
    (unicode : Text.hasHalves document.text = false) :
    ∃ after, d.writeFresh storage document = (after, none) ∧
      d.Published storage document.text.toUTF8 after := by
  obtain ⟨made, hmade, has, empty⟩ :=
    makeDirectories_output (isPlain_directory hp) hstart missing clear
  rw [outputFile_eq] at hp
  have absent := has.nothing_below missing (List.cons_ne_nil "resource.json" [])
  rw [← spot_within, ← has.spot_eq] at absent
  obtain ⟨written, hwritten, working, output, same⟩ :=
    writeFile_of_missing hp document.text.toUTF8 empty absent
  rw [spot_within, has.spot_eq] at same
  have apart {q : Place} (hq : ¬ d.spot (outputDirectory storage) <+: q) :
      written.node? q = made.node? q :=
    same q fun short => hq ((List.prefix_append _ _).trans short)
  refine ⟨written, ?_, working.trans has.working, ?_, clear, fun q hq => ?_,
    fun q hq hbelow => (apart hbelow).trans (has.elsewhere q hq)⟩
  · rw [← outputFile_eq] at hwritten
    simp only [writeFresh, hmade, ApiDocument.serialize_of_unicode unicode, hwritten]
  · rw [← has.spot_eq]
    exact output
  · rw [same q fun short => ?_]
    · exact has.on_way q hq
    · have length := (short.trans hq).length_le
      rw [List.length_append, List.length_singleton] at length
      omega

theorem writeFresh_of_halves (hp : (outputFile storage).IsPlain)
    (hstart : d.node? (d.start storage) = some .directory)
    (missing : d.node? (d.spot (outputDirectory storage)) = none)
    (clear : ¬ d.Blocked (d.spot (outputDirectory storage)))
    (halves : Text.hasHalves document.text = true) :
    ∃ after, d.writeFresh storage document = (after, some .documentNotUnicode) ∧
      after.root.get? (d.spot (outputDirectory storage)) = some (.directory []) := by
  obtain ⟨made, hmade, has, empty⟩ :=
    makeDirectories_output (isPlain_directory hp) hstart missing clear
  refine ⟨made, by simp only [writeFresh, hmade, ApiDocument.serialize_of_halves halves], ?_⟩
  rw [← has.spot_eq]
  exact empty

theorem writeFresh_of_blocked (hp : (outputFile storage).IsPlain)
    (hstart : d.node? (d.start storage) = some .directory)
    (missing : d.node? (d.spot (outputDirectory storage)) = none)
    (blocked : d.Blocked (d.spot (outputDirectory storage))) :
    ∃ cause, d.writeFresh storage document = (d, some cause) := by
  have made_or_not := makeDirectories_cases (d := d) (isPlain_directory hp) hstart
  rw [← outputDirectory_eq] at made_or_not
  rcases made_or_not missing with ⟨made, -, has⟩ | ⟨⟨trouble, failed⟩, -⟩
  · exact absurd blocked has.clear
  · exact ⟨.file trouble, by rw [writeFresh, failed]⟩

/-! ### Writing on any disk -/

/-- The output directory is gone with all it held, and no other place changed. -/
structure Cleared (d : Disk) (storage : FilePath) (cleared : Disk) : Prop where
  working : cleared.working = d.working
  gone : ∀ q, d.spot (outputDirectory storage) <+: q → cleared.node? q = none
  same : ∀ q, ¬ d.spot (outputDirectory storage) <+: q → cleared.node? q = d.node? q

theorem Cleared.missing {cleared : Disk} (h : d.Cleared storage cleared) :
    cleared.node? (cleared.spot (outputDirectory storage)) = none := by
  rw [spot_of_working h.working]
  exact h.gone _ (List.prefix_refl _)

theorem Cleared.start_directory {cleared : Disk} (h : d.Cleared storage cleared)
    (old : d.node? (d.spot (outputDirectory storage)) = some .directory) :
    cleared.node? (cleared.start storage) = some .directory := by
  have out : d.spot (outputDirectory storage) =
      d.start storage ++ (storage.steps ++ ["appDoc"]) := by
    rw [outputDirectory_eq, spot_within, Disk.spot, List.append_assoc]
  rw [start, h.working, ← start, h.same _ fun short => ?_]
  · exact node?_on_way old (out ▸ List.prefix_append _ _)
  · have length := short.length_le
    rw [out] at length
    simp only [List.length_append, List.length_singleton] at length
    omega

theorem Cleared.not_blocked {cleared : Disk} (h : d.Cleared storage cleared)
    (old : d.node? (d.spot (outputDirectory storage)) = some .directory) :
    ¬ cleared.Blocked (cleared.spot (outputDirectory storage)) := by
  rintro ⟨q, content, hq, file⟩
  rw [spot_of_working h.working] at hq
  by_cases whole : d.spot (outputDirectory storage) <+: q
  · rw [h.gone q whole] at file
    cases file
  · rw [h.same q whole, node?_on_way old hq] at file
    cases file

/-- What is published on the cleared disk is published on the disk before. -/
theorem Cleared.published {content : ByteArray} {cleared after : Disk}
    (h : d.Cleared storage cleared) (published : cleared.Published storage content after)
    (old : d.node? (d.spot (outputDirectory storage)) = some .directory) :
    d.Published storage content after := by
  have output := published.output
  have on_way := published.on_way
  have elsewhere := published.elsewhere
  rw [spot_of_working h.working] at output on_way elsewhere
  exact ⟨published.working.trans h.working, output, not_blocked_of_directory old, on_way,
    fun q hq hbelow => (elsewhere q hq hbelow).trans (h.same q hbelow)⟩

/-- An output directory that is there is cleared before the document is written. -/
theorem writeDocument_clears (hp : (outputFile storage).IsPlain)
    (old : d.node? (d.spot (outputDirectory storage)) = some .directory) :
    ∃ cleared, d.Cleared storage cleared ∧ ∀ document : ApiDocument,
      d.writeDocument storage document = cleared.writeFresh storage document := by
  obtain ⟨entries, held⟩ := (FileTree.node?_eq_directory_iff _ _).mp old
  have present := find?_of_present (d := d) (t := .directory entries) (isPlain_directory hp)
  have removing := removeDirectory_of_directory (d := d) (isPlain_directory hp)
  rw [← outputDirectory_eq] at present removing
  obtain ⟨cleared, removed, working, gone, same⟩ := removing old
  exact ⟨cleared, ⟨working, gone, same⟩,
    fun document => writeDocument_of_cleared (present held) removed⟩

theorem writeDocument_of_directory (hp : (outputFile storage).IsPlain)
    (unicode : Text.hasHalves document.text = false)
    (old : d.node? (d.spot (outputDirectory storage)) = some .directory) :
    ∃ after, d.writeDocument storage document = (after, none) ∧
      d.Published storage document.text.toUTF8 after := by
  obtain ⟨cleared, h, writing⟩ := writeDocument_clears hp old
  obtain ⟨after, written, published⟩ := writeFresh_of_clear hp (h.start_directory old) h.missing
    (h.not_blocked old) unicode
  exact ⟨after, (writing document).trans written, h.published published old⟩

/-- A document that is not Unicode costs what the output directory held. -/
theorem writeDocument_of_halves (hp : (outputFile storage).IsPlain)
    (halves : Text.hasHalves document.text = true)
    (old : d.node? (d.spot (outputDirectory storage)) = some .directory) :
    ∃ after, d.writeDocument storage document = (after, some .documentNotUnicode) ∧
      after.root.get? (d.spot (outputDirectory storage)) = some (.directory []) := by
  obtain ⟨cleared, h, writing⟩ := writeDocument_clears hp old
  obtain ⟨after, failed, empty⟩ := writeFresh_of_halves hp (h.start_directory old) h.missing
    (h.not_blocked old) halves
  rw [spot_of_working h.working] at empty
  exact ⟨after, (writing document).trans failed, empty⟩

/-- The document is published, or a file is in the way and the disk stays as it is. -/
theorem writeDocument_cases (hp : (outputFile storage).IsPlain)
    (hstart : d.node? (d.start storage) = some .directory)
    (unicode : Text.hasHalves document.text = false) :
    (∃ after, d.writeDocument storage document = (after, none) ∧
        d.Published storage document.text.toUTF8 after) ∨
      (∃ cause, d.writeDocument storage document = (d, some cause)) ∧
        d.Blocked (d.spot (outputDirectory storage)) := by
  cases old : d.node? (d.spot (outputDirectory storage)) with
  | none =>
    have missing := find?_of_missing (d := d) (isPlain_directory hp)
    rw [← outputDirectory_eq] at missing
    rw [writeDocument_of_missing (missing old)]
    by_cases blocked : d.Blocked (d.spot (outputDirectory storage))
    · exact .inr ⟨writeFresh_of_blocked hp hstart old blocked, blocked⟩
    · exact .inl (writeFresh_of_clear hp hstart old blocked unicode)
  | some node =>
    cases node with
    | directory => exact .inl (writeDocument_of_directory hp unicode old)
    | file content =>
      have held := (FileTree.node?_eq_file_iff _ _ _).mp old
      rw [outputDirectory_eq] at held old
      have present := find?_of_present (isPlain_directory hp) held
      have kept := removeDirectory_of_file (isPlain_directory hp) old
      rw [← outputDirectory_eq] at present kept old
      exact .inr ⟨⟨_, writeDocument_of_file present kept⟩, _, content, List.prefix_refl _, old⟩

theorem writeDocument_of_no_start (document : ApiDocument)
    (hp : (outputDirectory storage).IsPlain)
    (hstart : d.node? (d.start storage) ≠ some .directory) :
    ∃ cause, d.writeDocument storage document = (d, some cause) := by
  rw [outputDirectory_eq] at hp
  have nothing : d.node? (d.spot (storage.within "appDoc")) = none := by
    by_contra something
    rw [spot_within, Disk.spot, List.append_assoc] at something
    exact hstart (node?_of_append (by simp) something)
  have missing := find?_of_missing hp nothing
  obtain ⟨trouble, failed⟩ := makeDirectories_of_no_start hp hstart
  rw [← outputDirectory_eq] at missing failed
  refine ⟨.file trouble, ?_⟩
  rw [writeDocument_of_missing missing, writeFresh, failed]

/-- A path with the character U+0000 is never written, nor is anything on the way to it. -/
theorem writeDocument_of_null (document : ApiDocument)
    (h : FilePath.textTrouble? (outputDirectory storage).text = some .nullCharacter) :
    ∃ cause, d.writeDocument storage document = (d, some cause) := by
  have located : d.locate (outputDirectory storage) = .error .nullCharacter := by
    rw [locate, h]
  refine ⟨.file .nullCharacter, ?_⟩
  rw [writeDocument_of_missing (find?_of_error located (by decide)), writeFresh,
    makeDirectories_of_error located (by decide)]

/-- A path that leads somewhere is one that the file system takes. -/
theorem names_of_locate {here : Place} (h : d.locate p = .ok here) :
    FilePath.textTrouble? p.text = none ∧
      ∀ step ∈ p.steps, step.utf8ByteSize ≤ FilePath.maxName := by
  have text : FilePath.textTrouble? p.text = none := by
    cases trouble : FilePath.textTrouble? p.text with
    | none => rfl
    | some t => simp [locate, trouble] at h
  refine ⟨text, ?_⟩
  induction p using FilePath.within_induction generalizing here with
  | start p none => simp [none]
  | step outer last ih =>
    rw [locate_eq_bind text] at h
    cases around : d.locate outer with
    | error t => simp [around, Except.bind] at h
    | ok place =>
      have followed : d.follow place last = .ok here := by simpa [around, Except.bind] using h
      intro step hstep
      rcases List.mem_append.mp hstep with inner | final
      · exact ih around (FilePath.textTrouble?_within text) step inner
      · rw [List.mem_singleton.mp final]
        rw [follow] at followed
        split at followed <;> try cases followed
        split at followed
        · cases followed
        · omega

theorem down_outputFile (down : ".." ∉ storage.steps) : ".." ∉ (outputFile storage).steps := by
  rw [outputFile_eq, outputDirectory_eq, FilePath.steps_within, FilePath.steps_within]
  simp [down]

theorem writeFresh_of_writeDocument {after : Disk}
    (h : d.writeDocument storage document = (after, none)) :
    ∃ fresh : Disk, fresh.writeFresh storage document = (after, none) := by
  cases named : d.find? (outputDirectory storage) with
  | error trouble => simp [writeDocument, named, bind, Except.bind] at h
  | ok held =>
    cases held with
    | none => exact ⟨d, by rw [← h, writeDocument_of_missing named]⟩
    | some t =>
      cases removing : d.removeDirectory (outputDirectory storage) with
      | error trouble =>
        rw [writeDocument_of_file named removing] at h
        cases h
      | ok cleared => exact ⟨cleared, by rw [← h, writeDocument_of_cleared named removing]⟩

/-- The file system takes the path of a document that was written. -/
theorem isPlain_of_writeDocument {after : Disk} (down : ".." ∉ storage.steps)
    (h : d.writeDocument storage document = (after, none)) :
    (outputFile storage).IsPlain ∧ Text.hasHalves document.text = false ∧
      d.node? (d.start storage) = some .directory := by
  obtain ⟨fresh, written⟩ := writeFresh_of_writeDocument h
  rcases fresh.writeFresh_cases storage document with
    ⟨_, _, failed⟩ | ⟨_, failed⟩ | ⟨made, final, -, unicode, writing⟩
  · cases failed.symm.trans written
  · cases failed.symm.trans written
  · cases located : made.locate (outputFile storage) with
    | error trouble => simp [writeFile, located, bind, Except.bind] at writing
    | ok here =>
      obtain ⟨text, names⟩ := names_of_locate located
      have hp : (outputFile storage).IsPlain := ⟨down_outputFile down, names, text⟩
      refine ⟨hp, unicode, ?_⟩
      by_contra hstart
      obtain ⟨cause, failed⟩ := writeDocument_of_no_start document
        (outputDirectory_eq storage ▸ isPlain_directory hp) hstart
      cases failed.symm.trans h

/-- A document that is not written leaves the disk as it is, if names and path are not too long and
the document is Unicode. -/
theorem writeDocument_unchanged {after : Disk} {cause : Trouble} (down : ".." ∉ storage.steps)
    (fits : (outputFile storage).Fits) (unicode : Text.hasHalves document.text = false)
    (h : d.writeDocument storage document = (after, some cause)) : after = d := by
  by_cases text : FilePath.textTrouble? (outputFile storage).text = none
  · have hp : (outputFile storage).IsPlain := ⟨down_outputFile down, fits.names, text⟩
    by_cases hstart : d.node? (d.start storage) = some .directory
    · rcases writeDocument_cases hp hstart unicode with ⟨_, written, -⟩ | ⟨⟨_, failed⟩, -⟩
      · rw [written] at h
        cases h
      · rw [failed] at h
        exact (Prod.mk.inj h).1.symm
    · obtain ⟨_, failed⟩ := writeDocument_of_no_start document
        (outputDirectory_eq storage ▸ isPlain_directory hp) hstart
      rw [failed] at h
      exact (Prod.mk.inj h).1.symm
  · have null : FilePath.textTrouble? (outputDirectory storage).text = some .nullCharacter := by
      have zero := FilePath.textTrouble?_of_short fits.text text
      rw [outputFile_eq] at zero
      refine FilePath.null_of_within ?_ (by simp) zero
      rw [outputDirectory_eq, FilePath.steps_within]
      simp
    obtain ⟨_, failed⟩ := writeDocument_of_null document null
    rw [failed] at h
    exact (Prod.mk.inj h).1.symm

end Disk
end RouteDocs
