import RouteDocs.CommandLine.Request
import RouteDocs.Proofs.Failing
import RouteDocs.Proofs.Value
import RouteDocs.Settings

namespace RouteDocs
open CommandLine (nonEmpty)

/-! ### Entries of a mapping -/

namespace Value

theorem sameKey_text_iff {v : Value} {s : String} : v.sameKey (.text s) = true ↔ v = .text s := by
  cases v with
  | float x => cases h : x.toInt? <;> simp [sameKey, asInt?, h]
  | _ => simp [sameKey, asInt?]

theorem text_sameKey_iff {v : Value} {s : String} :
    Value.sameKey (.text s) v = true ↔ v = .text s := by
  cases v with
  | float x => cases h : x.toInt? <;> simp [sameKey, asInt?, h]
  | text t => rw [sameKey_text, beq_iff_eq, text.injEq, eq_comm]
  | _ => simp [sameKey, asInt?]

theorem get?_cons (key : String) (k v : Value) (rest : List (Value × Value)) :
    get? key ((k, v) :: rest) = if k.sameKey (.text key) then some v else get? key rest := by
  cases same : k.sameKey (.text key) <;> simp [get?, same]

/-- A written entry is found under its key, and nothing else changes. -/
theorem get?_put (key : String) (k v : Value) (entries : List (Value × Value)) :
    get? key (put k v entries) = if k.sameKey (.text key) then some v else get? key entries := by
  induction entries with
  | nil => rw [put, get?_cons]
  | cons entry rest ih =>
    obtain ⟨k', old⟩ := entry
    rw [put]
    split
    · next same =>
      -- the entry that is replaced has the key that is written
      have keys : k'.sameKey (.text key) = k.sameKey (.text key) := by
        rw [Bool.eq_iff_iff, sameKey_text_iff, sameKey_text_iff]
        constructor
        · rintro rfl
          exact text_sameKey_iff.mp same
        · rintro rfl
          exact sameKey_text_iff.mp same
      rw [get?_cons, get?_cons, keys]
      split <;> rfl
    · next apart =>
      rw [get?_cons, get?_cons, ih]
      split
      · next here =>
        obtain rfl := sameKey_text_iff.mp here
        rw [if_neg fun there => apart (text_sameKey_iff.mpr (sameKey_text_iff.mp there))]
      · rfl

end Value

/-! ### The names of settings -/

theorem Setting.canonicalName_eq_name_iff (setting : Setting) (key : String) :
    canonicalName key = setting.name ↔ key = setting.name ∨ key = setting.otherName := by
  rw [canonicalName]
  split
  · next other found =>
    have named : other.otherName = key := by simpa using List.find?_some found
    subst named
    cases setting <;> cases other <;> decide
  · next unknown =>
    have apart : key ≠ setting.otherName := by
      rintro rfl
      have all : setting ∈ all := by cases setting <;> decide
      simpa using List.find?_eq_none.mp unknown setting all
    simp [apart]

namespace Settings

/-- The value of a setting among the entries of a settings file, under either of its names; the
last one counts. -/
def value? (setting : Setting) (entries : List (Value × Value)) : Option Value :=
  (entries.reverse.find? fun (k, _) =>
    k.sameKey (.text setting.name) || k.sameKey (.text setting.otherName)).map Prod.snd

theorem sameKey_canonicalKey (setting : Setting) (k : Value) :
    (canonicalKey k).sameKey (.text setting.name) =
      (k.sameKey (.text setting.name) || k.sameKey (.text setting.otherName)) := by
  rw [Bool.eq_iff_iff, Bool.or_eq_true, Value.sameKey_text_iff, Value.sameKey_text_iff,
    Value.sameKey_text_iff]
  cases k <;> simp [canonicalKey, setting.canonicalName_eq_name_iff]

theorem get?_canonicalEntries (setting : Setting) (entries : List (Value × Value)) :
    Value.get? setting.name (canonicalEntries entries) = value? setting entries := by
  suffices general : ∀ done : List (Value × Value),
      Value.get? setting.name
          (entries.foldl (fun done (key, v) => Value.put (canonicalKey key) v done) done) =
        (value? setting entries).or (Value.get? setting.name done) by
    simpa [canonicalEntries] using general []
  induction entries with
  | nil => exact fun done => rfl
  | cons entry rest ih =>
    intro done
    obtain ⟨k, v⟩ := entry
    rw [List.foldl_cons, ih, Value.get?_put, sameKey_canonicalKey, value?, value?,
      List.reverse_cons, List.find?_append, List.find?_singleton, Option.map_or, Option.or_assoc]
    dsimp only
    split <;> rfl

/-! ### The URL -/

/-- The URL that the entries of a settings file give: none where there is no value, or one that
counts as absent. -/
def fileUrl? (entries : List (Value × Value)) : Option String :=
  match value? .appUrl entries with
  | some v => if v.isEmpty then none else (Field.textOf true v).toOption
  | none => none

/-- The entry for the URL: the argument comes first, then the file, then the environment. -/
theorem get?_settleUrl (argument environment : Option String) (entries : List (Value × Value)) :
    Value.get? Setting.appUrl.name (settleUrl argument environment (canonicalEntries entries)) =
      match nonEmpty argument, value? .appUrl entries with
      | some url, _ => some (.text url)
      | none, some v =>
        if v.isEmpty then some (((nonEmpty environment).map .text).getD .null) else some v
      | none, none => some (((nonEmpty environment).map .text).getD .null) := by
  have written (v : Value) (others : List (Value × Value)) :
      Value.get? Setting.appUrl.name (Value.put (.text Setting.appUrl.name) v others) = some v := by
    rw [Value.get?_put, if_pos (Value.sameKey_text_iff.mpr rfl)]
  rw [settleUrl, nonEmpty, nonEmpty]
  dsimp only
  generalize argument.filter (! ·.isEmpty) = given
  generalize environment.filter (! ·.isEmpty) = last
  rw [get?_canonicalEntries]
  cases given with
  | some url => exact written _ _
  | none =>
    cases here : value? .appUrl entries with
    | none => cases last <;> exact written _ _
    | some v =>
      cases empty : v.isEmpty with
      | true =>
        simp only [Option.getD_some, empty, if_true]
        cases last <;> exact written _ _
      | false =>
        simp only [Option.getD_some, empty, Bool.false_eq_true, if_false, get?_canonicalEntries,
          here]

/-- The entries for all other settings stay. -/
theorem get?_settleUrl_of_ne {key : String} (apart : key ≠ Setting.appUrl.name)
    (argument environment : Option String) (entries : List (Value × Value)) :
    Value.get? key (settleUrl argument environment entries) = Value.get? key entries := by
  have other (v : Value) : Value.get? key (Value.put (.text Setting.appUrl.name) v entries) =
      Value.get? key entries := by
    rw [Value.get?_put, if_neg fun same => apart ?_]
    exact (Value.text.inj (Value.sameKey_text_iff.mp same)).symm
  rw [settleUrl]
  split
  · exact other _
  · split
    · exact other _
    · rfl

/-- Entries with text keys are the fields. -/
theorem lookup_of_fieldsOf? {entries : List (Value × Value)} {fields : Fields}
    (h : fieldsOf? entries = some fields) (key : String) :
    fields.lookup key = Value.get? key entries := by
  induction entries generalizing fields with
  | nil =>
    cases h
    rfl
  | cons entry rest ih =>
    obtain ⟨k, v⟩ := entry
    cases k with
    | text s =>
      obtain ⟨others, hrest, rfl⟩ := Option.map_eq_some_iff.mp h
      rw [Value.get?_cons_text, List.lookup_cons, ih hrest]
      by_cases same : s = key
      · simp [same]
      · simp [same, beq_false_of_ne (Ne.symm same)]
    | _ => cases h

end Settings

namespace Settings
variable {fields fields' : Fields} {settings settings' : Settings}

/-- Each of the settings comes from its field. -/
theorem ok_of_ofFields (h : ofFields fields = .ok settings) :
    textField fields .title "" = .ok settings.title ∧
    textField fields .version "" = .ok settings.version ∧
    textField fields .description "" = .ok settings.description ∧
    textField fields .basePath defaultLead = .ok settings.basePath ∧
    Field.optionalText true Setting.appUrl.name (fields.lookup Setting.appUrl.name) =
      .ok settings.appUrl ∧
    textField fields .uriLead defaultLead = .ok settings.uriLead ∧
    textField fields .controllerLead "" = .ok settings.controllerLead := by
  rw [ofFields] at h
  dsimp only at h
  generalize checked : Checked.and _ _ = all at h
  cases all with
  | error issues => cases h
  | ok p =>
    cases h
    obtain ⟨title, h⟩ := Checked.ok_of_and checked
    obtain ⟨version, h⟩ := Checked.ok_of_and h
    obtain ⟨description, h⟩ := Checked.ok_of_and h
    obtain ⟨basePath, h⟩ := Checked.ok_of_and h
    obtain ⟨appUrl, h⟩ := Checked.ok_of_and h
    obtain ⟨uriLead, controllerLead⟩ := Checked.ok_of_and h
    exact ⟨title, version, description, basePath, appUrl, uriLead, controllerLead⟩

/-- Fields that differ at most in the URL give settings that differ at most in the URL. -/
theorem ofFields_agree (h : ofFields fields = .ok settings) (h' : ofFields fields' = .ok settings')
    (same : ∀ key, key ≠ Setting.appUrl.name → fields.lookup key = fields'.lookup key) :
    settings' = { settings with appUrl := settings'.appUrl } := by
  have field (setting : Setting) (default : String) (apart : setting ≠ .appUrl) :
      textField fields setting default = textField fields' setting default := by
    have names : setting.name ≠ Setting.appUrl.name := by
      cases setting <;> first | decide | exact absurd rfl apart
    rw [textField, textField, same _ names]
  obtain ⟨t, v, d, b, -, u, c⟩ := ok_of_ofFields h
  obtain ⟨t', v', d', b', -, u', c'⟩ := ok_of_ofFields h'
  rw [← field _ _ (by decide)] at t' v' d' b' u' c'
  have title := Except.ok.inj (t'.symm.trans t)
  have version := Except.ok.inj (v'.symm.trans v)
  have description := Except.ok.inj (d'.symm.trans d)
  have basePath := Except.ok.inj (b'.symm.trans b)
  have uriLead := Except.ok.inj (u'.symm.trans u)
  have controllerLead := Except.ok.inj (c'.symm.trans c)
  cases settings'
  simp_all

variable {argument environment argument' environment' : Option String}
variable {entries : List (Value × Value)}

/-- Settings come from the fields of the entries, once the URL is settled. -/
theorem fields_of_ofEntries (h : ofEntries argument environment entries = .ok settings) :
    ∃ fields, fieldsOf? (settleUrl argument environment (canonicalEntries entries)) = some fields ∧
      ofFields fields = .ok settings := by
  rw [ofEntries] at h
  split at h
  · cases h
  · next fields read =>
    split at h
    · cases h
    · cases built : ofFields fields with
      | error issues => simp [built] at h
      | ok s =>
        simp only [built, Except.ok.injEq] at h
        exact ⟨fields, read, by rw [built, h]⟩

theorem optionalText_of_full {v : Value} (full : v.isEmpty = false) (name : String) :
    Field.optionalText true name (some v) = (Field.text true name v).map some := by
  cases v <;> first | rfl | cases full

/-- **The URL of the settings.** It is that of the argument, or else that of the file, or else that
of the environment. An empty text counts as none. -/
theorem appUrl_of_ofEntries (h : ofEntries argument environment entries = .ok settings) :
    settings.appUrl = (nonEmpty argument).or
      ((fileUrl? entries).or (nonEmpty environment)) := by
  obtain ⟨fields, read, built⟩ := fields_of_ofEntries h
  obtain ⟨-, -, -, -, url, -⟩ := ok_of_ofFields built
  have last (s : Option String) : Field.optionalText true Setting.appUrl.name
      (some ((s.map .text).getD .null)) = .ok s := by
    cases s <;> rfl
  rw [lookup_of_fieldsOf? read, get?_settleUrl] at url
  rw [fileUrl?]
  cases given : nonEmpty argument with
  | some u =>
    rw [given] at url
    exact (Except.ok.inj url).symm
  | none =>
    rw [given] at url
    cases here : value? .appUrl entries with
    | none =>
      rw [here] at url
      exact (Except.ok.inj ((last _).symm.trans url)).symm
    | some v =>
      rw [here] at url
      dsimp only at url ⊢
      cases empty : v.isEmpty with
      | true =>
        rw [empty, if_pos rfl, last] at url
        exact (Except.ok.inj url).symm
      | false =>
        rw [empty, if_neg Bool.false_ne_true, optionalText_of_full empty, Field.text] at url
        cases spelled : Field.textOf true v with
        | ok s =>
          rw [spelled] at url
          exact (Except.ok.inj url).symm
        | error kind =>
          rw [spelled] at url
          cases url

/-- The argument and the environment decide nothing but the URL. -/
theorem ofEntries_agree (h : ofEntries argument environment entries = .ok settings)
    (h' : ofEntries argument' environment' entries = .ok settings') :
    settings' = { settings with appUrl := settings'.appUrl } := by
  obtain ⟨fields, read, built⟩ := fields_of_ofEntries h
  obtain ⟨fields', read', built'⟩ := fields_of_ofEntries h'
  refine ofFields_agree built built' fun key apart => ?_
  rw [lookup_of_fieldsOf? read, lookup_of_fieldsOf? read', get?_settleUrl_of_ne apart,
    get?_settleUrl_of_ne apart]

/-- The settings that name nothing but a URL. -/
def ofUrl (appUrl : Option String) : Settings where
  title := ""
  version := ""
  description := ""
  basePath := defaultLead
  appUrl := appUrl
  uriLead := defaultLead
  controllerLead := ""

/-! ### Settings files -/

/-- The entries that a settings file holds: those of its own section, where it has one, or else all
of them. A document that counts as absent holds none, as does no file at all. -/
inductive HeldBy (disk : Disk) : Option FilePath → List (Value × Value) → Prop where
  | noFile : HeldBy disk none []
  | empty {path : FilePath} {v : Value} :
      disk.readDocument path (.settingsMalformed path.text) = .ok v → v.isEmpty = true →
      HeldBy disk (some path) []
  | whole {path : FilePath} {v : Value} {entries : List (Value × Value)} :
      disk.readDocument path (.settingsMalformed path.text) = .ok v → v.isEmpty = false →
      v.opened = .mapping entries → Value.get? "apidoc" entries = none →
      HeldBy disk (some path) entries
  | section {path : FilePath} {v own : Value} {around entries : List (Value × Value)} :
      disk.readDocument path (.settingsMalformed path.text) = .ok v → v.isEmpty = false →
      v.opened = .mapping around → Value.get? "apidoc" around = some own →
      own.opened = .mapping entries → HeldBy disk (some path) entries

variable {disk : Disk} {file : Option FilePath}

/-- A text that can be read is one that there is. -/
theorem find?_of_readText {path : FilePath} {text : String} (read : disk.readText path = .ok text) :
    ∃ t, disk.find? path = .ok (some t) := by
  rw [Disk.readText] at read
  split at read
  · next content bytes =>
    obtain ⟨t, found, -⟩ := ok_of_bind bytes
    exact ⟨t, by rw [Disk.find?, found]⟩
  · cases read

theorem find?_of_readDocument {path : FilePath} {malformed : Failure} {v : Value}
    (h : disk.readDocument path malformed = .ok v) : ∃ t, disk.find? path = .ok (some t) := by
  rw [Disk.readDocument] at h
  split at h
  · cases h
  · next text read => exact find?_of_readText read

theorem load_of_document {path : FilePath} {v : Value}
    (read : disk.readDocument path (.settingsMalformed path.text) = .ok v) :
    load disk (some path) argument environment = ofValue path.text argument environment v := by
  obtain ⟨t, found⟩ := find?_of_readDocument read
  simp only [load, found, read]
  rfl

/-- A document without a section for settings holds them itself. -/
theorem ofValue_of_whole {path : String} {v : Value} (full : v.isEmpty = false)
    (opened : v.opened = .mapping entries) (absent : Value.get? "apidoc" entries = none) :
    ofValue path argument environment v = ofEntries argument environment entries := by
  rw [ofValue, full]
  simp only [Bool.false_eq_true, if_false, opened, ownEntries, absent]
  rfl

theorem load_of_heldBy (h : HeldBy disk file entries) :
    load disk file argument environment = ofEntries argument environment entries := by
  cases h with
  | noFile => rfl
  | empty read empty =>
    rw [load_of_document read, ofValue, empty]
    rfl
  | whole read full opened absent =>
    rw [load_of_document read, ofValue_of_whole full opened absent]
  | «section» read full opened here inside =>
    rw [load_of_document read, ofValue, full]
    simp only [Bool.false_eq_true, if_false, opened, ownEntries, here, inside]
    rfl

theorem heldBy_of_load (h : load disk file argument environment = .ok settings) :
    ∃ entries, HeldBy disk file entries ∧
      ofEntries argument environment entries = .ok settings := by
  cases file with
  | none => exact ⟨[], .noFile, h⟩
  | some path =>
    obtain ⟨found, -, h⟩ := ok_of_bind h
    split at h
    · obtain ⟨v, read, h⟩ := ok_of_bind h
      rw [ofValue] at h
      cases empty : v.isEmpty with
      | true =>
        rw [empty] at h
        exact ⟨[], .empty read empty, h⟩
      | false =>
        simp only [empty, Bool.false_eq_true, if_false] at h
        split at h
        · next entries opened =>
          obtain ⟨own, held, h⟩ := ok_of_bind h
          rw [ownEntries] at held
          split at held
          · next absent =>
            cases held
            exact ⟨entries, .whole read empty opened absent, h⟩
          · next inner here =>
            split at held
            · next inside =>
              cases held
              exact ⟨own, .section read empty opened here inside, h⟩
            · cases held
        · cases h
    · cases h

/-- No settings file can do what a controller module can. -/
theorem load_failsOnly (disk : Disk) (file : Option FilePath)
    (argument environment : Option String) :
    FailsOnly (·.isOfModule = false) (load disk file argument environment) := by
  have settled (entries : List (Value × Value)) :
      FailsOnly (·.isOfModule = false) (ofEntries argument environment entries) := by
    constructor
    intro failure failed
    rw [ofEntries] at failed
    split at failed
    · cases failed
      rfl
    · split at failed
      · cases failed
        rfl
      · split at failed <;> cases failed
        rfl
  cases file with
  | none => exact settled []
  | some path =>
    refine .bind (.mapError (P := fun _ => True) ⟨fun _ _ => trivial⟩ fun _ _ => rfl)
      fun found => ?_
    split
    · refine .bind (disk.readDocument_failsOnly path rfl) fun v => ?_
      rw [ofValue]
      split
      · refine .bind ?_ fun own => settled own
        rw [ownEntries]
        split
        · exact .ok _
        · split
          · exact .ok _
          · exact .error rfl
      · exact .error rfl
    · exact .error rfl

end Settings
end RouteDocs
