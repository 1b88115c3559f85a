import RouteDocs.Proofs.SettingsValues

/-!
# Settings files that cause trouble

* `Failure.isOfSettings`: the failures that are told when settings cannot be loaded;
* `Settings.Trips`: the documents that cause other trouble;
* `Settings.load_told_or_trips`: apart from those, loading gives settings or is told why not;
* `Settings.documents_trip`: such documents.
-/

namespace RouteDocs

/-- Whether a failure is one that is told when settings cannot be loaded. -/
def Failure.isOfSettings : Failure → Bool
  | .settingsMissing _ => true
  | .settingsMalformed _ => true
  | .settingsNotMapping _ => true
  | .settingsInvalid _ => true
  | _ => false

namespace Settings

/-- The trouble that the document in a file causes: a section of its own that is no mapping, a key that
is no text, or a setting whose value is a number that is too long to be written. -/
inductive Trips (disk : Disk) (path : FilePath) (argument environment : Option String) :
    Trouble → Prop where
  | section {v own : Value} {around : List (Value × Value)}
      (read : disk.readDocument path (.settingsMalformed path.text) = .ok v)
      (opened : v.opened = .mapping around) (here : Value.get? "apidoc" around = some own)
      (other : ∀ entries, own.opened ≠ .mapping entries) :
      Trips disk path argument environment .sectionNotMapping
  | key {entries : List (Value × Value)} (held : HeldBy disk (some path) entries)
      (others : ¬ HasTextKeys entries) : Trips disk path argument environment .keyNotText
  | number {entries : List (Value × Value)} {setting : Setting} {n : Int}
      (held : HeldBy disk (some path) entries) (texts : HasTextKeys entries)
      (here : settled argument environment entries setting = .int n)
      (long : Numeral.isTooLong n = true) :
      Trips disk path argument environment .numberTooLong

variable {disk : Disk} {path : FilePath} {text : String} {v : Value}
variable {argument environment : Option String} {cause : Trouble}

theorem Trips.load (trips : Trips disk path argument environment cause) :
    load disk (some path) argument environment = .error (.trouble cause) := by
  cases trips with
  | «section» read opened here other =>
    rename_i v own around
    have full : v.isEmpty = false := by
      cases v with
      | mapping entries =>
        obtain rfl : entries = around := Value.mapping.inj opened
        cases entries with
        | nil => cases here
        | cons entry rest => rfl
      | marked mark content => rfl
      | _ => cases opened
    have own_entries : ownEntries around = .error (.trouble .sectionNotMapping) := by
      rw [ownEntries, here]
      dsimp only
      split
      · next entries inside => exact absurd inside (other entries)
      · rfl
    rw [load_of_document read, ofValue, full]
    simp only [Bool.false_eq_true, if_false, opened, own_entries]
    rfl
  | key held others =>
    rw [load_of_heldBy held]
    exact ofEntries_trouble_iff.mpr (.inl ⟨rfl, others⟩)
  | number held texts here long =>
    rw [load_of_heldBy held]
    exact ofEntries_trouble_iff.mpr (.inr ⟨rfl, texts, _, _, here, long⟩)

/-- A document that can be read holds entries, has a section of its own that does not, or is refused. -/
theorem heldBy_cases (read : disk.readDocument path (.settingsMalformed path.text) = .ok v) :
    (∃ entries, HeldBy disk (some path) entries) ∨
    (∃ around own, v.opened = .mapping around ∧ Value.get? "apidoc" around = some own ∧
      ∀ entries, own.opened ≠ .mapping entries) ∨
    ∀ argument environment,
      load disk (some path) argument environment = .error (.settingsNotMapping path.text) := by
  cases empty : v.isEmpty with
  | true => exact .inl ⟨[], .empty read empty⟩
  | false =>
    by_cases mapping : ∃ around, v.opened = .mapping around
    · obtain ⟨around, opened⟩ := mapping
      cases here : Value.get? "apidoc" around with
      | none => exact .inl ⟨around, .whole read empty opened here⟩
      | some own =>
        by_cases inside : ∃ entries, own.opened = .mapping entries
        · obtain ⟨entries, inside⟩ := inside
          exact .inl ⟨entries, .section read empty opened here inside⟩
        · exact .inr (.inl ⟨around, own, opened, here, not_exists.mp inside⟩)
    · refine .inr (.inr fun argument environment => ?_)
      rw [load_of_document read, ofValue, empty]
      simp only [Bool.false_eq_true, if_false]
      split
      · next around opened => exact absurd ⟨around, opened⟩ mapping
      · rfl

/-- Entries make settings, or it is told why not, or they cause trouble. -/
theorem ofEntries_cases (argument environment : Option String) (entries : List (Value × Value)) :
    (∃ settings, ofEntries argument environment entries = .ok settings) ∨
    (∃ failure, ofEntries argument environment entries = .error failure ∧
      failure.isOfSettings = true) ∨
    ∃ cause, ofEntries argument environment entries = .error (.trouble cause) := by
  by_cases texts : HasTextKeys entries
  · obtain ⟨fields, -, made⟩ := exists_fields argument environment texts
    rw [made]
    split
    · exact .inr (.inr ⟨_, rfl⟩)
    · cases ofFields fields with
      | ok settings => exact .inl ⟨settings, rfl⟩
      | error issues => exact .inr (.inl ⟨_, rfl, rfl⟩)
  · exact .inr (.inr ⟨_, ofEntries_of_other_keys texts⟩)

/-- Loading settings from a text that is a document, or none, gives settings, is told why not, or
trips. -/
theorem load_cases (argument environment : Option String) (read : disk.readText path = .ok text)
    (loads : ∀ cause, Yaml.load text = .error cause → cause = .malformed) :
    (∃ settings, load disk (some path) argument environment = .ok settings) ∨
    (∃ failure, load disk (some path) argument environment = .error failure ∧
      failure.isOfSettings = true) ∨
    ∃ cause, Trips disk path argument environment cause := by
  cases document : Yaml.load text with
  | error cause =>
    obtain rfl := loads cause document
    have refused : disk.readDocument path (.settingsMalformed path.text) =
        .error (.settingsMalformed path.text) := by
      rw [Disk.readDocument, read]
      simp only [document]
    obtain ⟨t, found⟩ := find?_of_readText read
    refine .inr (.inl ⟨.settingsMalformed path.text, ?_, rfl⟩)
    simp only [load, found, refused]
    rfl
  | ok v =>
    have readDocument : disk.readDocument path (.settingsMalformed path.text) = .ok v := by
      rw [Disk.readDocument, read]
      simp only [document]
    rcases heldBy_cases readDocument with ⟨entries, held⟩ | ⟨around, own, opened, here, other⟩ | told
    · rw [load_of_heldBy held]
      rcases ofEntries_cases argument environment entries with made | told | ⟨cause, trouble⟩
      · exact .inl made
      · exact .inr (.inl told)
      · refine .inr (.inr ⟨cause, ?_⟩)
        rcases ofEntries_trouble_iff.mp trouble with
          ⟨rfl, others⟩ | ⟨rfl, texts, setting, n, settled, long⟩
        · exact .key held others
        · exact .number held texts settled long
    · exact .inr (.inr ⟨_, .section readDocument opened here other⟩)
    · exact .inr (.inl ⟨_, told _ _, rfl⟩)

/-- **Settings are loaded, or it is told why not**, unless the document in the file trips: its section
is no mapping, one of its keys is no text, or one of its numbers is too long. Then, and only then, there
is trouble of just that kind. -/
theorem load_told_or_trips (argument environment : Option String)
    (read : disk.readText path = .ok text)
    (loads : ∀ cause, Yaml.load text = .error cause → cause = .malformed) :
    ((∃ settings, load disk (some path) argument environment = .ok settings) ∨
        (∃ failure, load disk (some path) argument environment = .error failure ∧
          failure.isOfSettings = true) ↔
      ¬ ∃ cause, Trips disk path argument environment cause) ∧
    ∀ cause, load disk (some path) argument environment = .error (.trouble cause) ↔
      Trips disk path argument environment cause := by
  have cases := load_cases argument environment read loads
  refine ⟨⟨?_, ?_⟩, fun cause => ⟨?_, Trips.load⟩⟩
  · rintro told ⟨cause, trips⟩
    rw [trips.load] at told
    rcases told with ⟨settings, made⟩ | ⟨failure, failed, ofSettings⟩
    · cases made
    · cases failed
      cases ofSettings
  · intro smooth
    rcases cases with made | told | trips
    · exact .inl made
    · exact .inr told
    · exact absurd trips smooth
  · intro trouble
    rcases cases with ⟨settings, made⟩ | ⟨failure, failed, ofSettings⟩ | ⟨other, trips⟩
    · rw [made] at trouble
      cases trouble
    · rw [failed] at trouble
      cases trouble
      cases ofSettings
    · rw [trips.load] at trouble
      cases trouble
      exact trips

/-- A text that is no document is told of. -/
theorem load_told_or_trips_malformed :
    (diskWith "apiTitle: [\n").readText sampleFile = .ok "apiTitle: [\n" ∧
    load (diskWith "apiTitle: [\n") (some sampleFile) none none =
      .error (.settingsMalformed "apidoc.yaml") ∧
    ¬ ∃ cause, Trips (diskWith "apiTitle: [\n") sampleFile none none cause := by
  have read : (diskWith "apiTitle: [\n").readText sampleFile = .ok "apiTitle: [\n" := by
    decide +kernel
  have loads (cause : Yaml.Failure) (failed : Yaml.load "apiTitle: [\n" = .error cause) :
      cause = .malformed := by
    have malformed : (match Yaml.load "apiTitle: [\n" with
      | .error cause => cause == .malformed
      | .ok _ => false) = true := by
      decide +kernel
    rw [failed] at malformed
    simpa using malformed
  have refused : load (diskWith "apiTitle: [\n") (some sampleFile) none none =
      .error (.settingsMalformed "apidoc.yaml") := by
    decide +kernel
  exact ⟨read, refused, (load_told_or_trips none none read loads).1.mp (.inr ⟨_, refused, rfl⟩)⟩

/-- A section that is null, a key that is a number, and a number that is too long. -/
theorem documents_trip :
    load (diskWith "apidoc:\n") (some sampleFile) none none =
      .error (.trouble .sectionNotMapping) ∧
    load (diskWith "1: x\n") (some sampleFile) none none = .error (.trouble .keyNotText) ∧
    ofValue "apidoc.yaml" none none (.mapping [(.text "apiTitle", .int endless)]) =
      .error (.trouble .numberTooLong) :=
  ⟨by decide +kernel, by decide +kernel, ofValue_of_isTooLong isTooLong_endless⟩

end Settings
end RouteDocs
