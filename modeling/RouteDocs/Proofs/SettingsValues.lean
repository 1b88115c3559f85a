import Mathlib.Tactic.ByContra
import Mathlib.Tactic.Choose
import Mathlib.Tactic.Push
import RouteDocs.Proofs.Settings

/-!
# What each setting amounts to

* `Settings.settled`: the value of a setting, from the file, the argument and the environment;
* `Setting.Spells`: the texts that a value can stand for as a setting;
* `Settings.ofEntries_eq_ok_iff`: settings are those that the settled values spell;
* `Settings.ofEntries_trouble_iff`: the trouble that entries cause;
* `Settings.load_spells`: what loading settings gives, and what it does not depend on;
* `Settings.bytes_spell_and_numbers_may_not`: values that are no texts and spell one, and numbers that
  spell none.
-/

namespace RouteDocs
open CommandLine (nonEmpty)

/-! ### Values and texts -/

/-- The value that a setting has where it is left out. -/
def Setting.default : Setting → Value
  | .appUrl => .null
  | .basePath => .text Settings.defaultLead
  | .uriLead => .text Settings.defaultLead
  | _ => .text ""

/-- What a value stands for as a setting: itself if it is a text, the text of its bytes if they are
UTF-8, or the text of a number that can be written. Null stands for no URL, and for no other
setting. -/
inductive Setting.Spells : Setting → Value → Option String → Prop where
  | text {setting : Setting} (s : String) : Spells setting (.text s) (some s)
  | bytes {setting : Setting} {content : List UInt8} {s : String}
      (spelled : String.fromUTF8? ⟨content.toArray⟩ = some s) : Spells setting (.bytes content) (some s)
  | int {setting : Setting} {n : Int} (short : Numeral.isTooLong n = false) :
      Spells setting (.int n) (some (toString n))
  | float {setting : Setting} (x : Binary64) :
      Spells setting (.float x) (some (DecimalStyle.standard.write x))
  | null : Spells .appUrl .null none

theorem Setting.spells_iff {setting : Setting} {v : Value} {t : Option String} :
    setting.Spells v t ↔
      (setting = .appUrl ∧ v = .null ∧ t = none ∨ ∃ s, Field.textOf true v = .ok s ∧ t = some s) ∧
        ∀ n, v = .int n → Numeral.isTooLong n = false := by
  constructor
  · intro spells
    cases spells with
    | text s => exact ⟨.inr ⟨s, rfl, rfl⟩, nofun⟩
    | bytes spelled => exact ⟨.inr ⟨_, by rw [Field.textOf, spelled], rfl⟩, nofun⟩
    | int short =>
      refine ⟨.inr ⟨_, rfl, rfl⟩, ?_⟩
      rintro n ⟨⟩
      exact short
    | float x => exact ⟨.inr ⟨_, rfl, rfl⟩, nofun⟩
    | null => exact ⟨.inl ⟨rfl, rfl, rfl⟩, nofun⟩
  · rintro ⟨⟨rfl, rfl, rfl⟩ | ⟨s, spelled, rfl⟩, short⟩
    · exact .null
    · cases v with
      | text s' =>
        cases spelled
        exact .text _
      | bytes content =>
        rw [Field.textOf] at spelled
        cases decoded : String.fromUTF8? ⟨content.toArray⟩ with
        | none => simp [decoded] at spelled
        | some s' =>
          simp only [decoded, Except.ok.injEq] at spelled
          exact .bytes (spelled ▸ decoded)
      | int n =>
        cases spelled
        exact .int (short n rfl)
      | float x =>
        cases spelled
        exact .float x
      | _ => cases spelled

namespace Settings

/-- The text of a setting. Only the URL can be missing. -/
def get (settings : Settings) : Setting → Option String
  | .title => some settings.title
  | .version => some settings.version
  | .description => some settings.description
  | .basePath => some settings.basePath
  | .appUrl => settings.appUrl
  | .uriLead => some settings.uriLead
  | .controllerLead => some settings.controllerLead

/-- The URL where the file has `own`: an argument that is not empty comes before it, and the
environment takes the place of one that counts as absent. -/
def settledUrl (argument environment : Option String) (own : Value) : Value :=
  match nonEmpty argument with
  | some url => .text url
  | none => if own.isEmpty then ((nonEmpty environment).map .text).getD .null else own

/-- The value of a setting: that of the last of its keys in the file, or the default. The argument
and the environment have a say in the URL. -/
def settled (argument environment : Option String) (entries : List (Value × Value))
    (setting : Setting) : Value :=
  let own := (value? setting entries).getD setting.default
  if setting = .appUrl then settledUrl argument environment own else own

variable {argument environment : Option String} {entries entries' : List (Value × Value)}
variable {fields : Fields} {settings : Settings}

/-- All keys of the entries are texts. -/
def HasTextKeys (entries : List (Value × Value)) : Prop := ∀ entry ∈ entries, ∃ s, entry.1 = .text s

/-! ### Fields -/

theorem fieldsOf?_isSome_iff : (fieldsOf? entries).isSome = true ↔ HasTextKeys entries := by
  induction entries with
  | nil => simp [fieldsOf?, HasTextKeys]
  | cons entry rest ih =>
    obtain ⟨k, v⟩ := entry
    rw [HasTextKeys, List.forall_mem_cons, ← HasTextKeys, ← ih]
    cases k <;> simp [fieldsOf?]

/-- Writing an entry keeps the keys that there are, and adds at most its own. -/
theorem hasTextKeys_put_iff {k v : Value} :
    HasTextKeys (Value.put k v entries) ↔ (∃ s, k = .text s) ∧ HasTextKeys entries := by
  induction entries with
  | nil => simp [Value.put, HasTextKeys]
  | cons entry rest ih =>
    obtain ⟨k', old⟩ := entry
    rw [Value.put]
    split
    · next same =>
      -- the two keys are the same, and one is a text if the other is
      have keys : (∃ s, k = .text s) ↔ ∃ s, k' = .text s := by
        constructor
        · rintro ⟨s, rfl⟩
          exact ⟨s, Value.sameKey_text_iff.mp same⟩
        · rintro ⟨s, rfl⟩
          exact ⟨s, Value.text_sameKey_iff.mp same⟩
      simp only [HasTextKeys, List.forall_mem_cons, keys, and_self_left]
    · rw [HasTextKeys, List.forall_mem_cons, ← HasTextKeys, ih, and_left_comm, HasTextKeys,
        HasTextKeys, List.forall_mem_cons]

theorem isText_canonicalKey_iff {k : Value} : (∃ s, canonicalKey k = .text s) ↔ ∃ s, k = .text s := by
  cases k <;> simp [canonicalKey]

theorem hasTextKeys_canonicalEntries_iff :
    HasTextKeys (canonicalEntries entries) ↔ HasTextKeys entries := by
  suffices general : ∀ done : List (Value × Value),
      HasTextKeys (entries.foldl (fun done e => Value.put (canonicalKey e.1) e.2 done) done) ↔
        HasTextKeys entries ∧ HasTextKeys done by
    have all : HasTextKeys [] := by simp [HasTextKeys]
    exact (general []).trans (and_iff_left all)
  induction entries with
  | nil => simp [HasTextKeys]
  | cons entry rest ih =>
    intro done
    obtain ⟨k, v⟩ := entry
    have first : HasTextKeys ((k, v) :: rest) ↔ (∃ s, k = .text s) ∧ HasTextKeys rest := by
      simp only [HasTextKeys, List.forall_mem_cons]
    rw [List.foldl_cons, ih, hasTextKeys_put_iff, isText_canonicalKey_iff, first, and_left_comm,
      and_assoc]

theorem hasTextKeys_settleUrl_iff :
    HasTextKeys (settleUrl argument environment entries) ↔ HasTextKeys entries := by
  have written (v : Value) :
      HasTextKeys (Value.put (.text Setting.appUrl.name) v entries) ↔ HasTextKeys entries := by
    rw [hasTextKeys_put_iff]
    exact and_iff_right ⟨_, rfl⟩
  rw [settleUrl]
  split
  · exact written _
  · split
    · exact written _
    · rfl

/-- The fields that loading makes of entries have the settled values. -/
theorem lookup_settled (setting : Setting)
    (read : fieldsOf? (settleUrl argument environment (canonicalEntries entries)) = some fields) :
    (fields.lookup setting.name).getD setting.default =
      settled argument environment entries setting := by
  rw [lookup_of_fieldsOf? read, settled]
  by_cases url : setting = .appUrl
  · subst url
    rw [get?_settleUrl, if_pos rfl, settledUrl]
    cases nonEmpty argument with
    | some given => rfl
    | none =>
      cases value? .appUrl entries with
      | none => rfl
      | some v =>
        dsimp only [Option.getD_some]
        split <;> rfl
  · have apart : setting.name ≠ Setting.appUrl.name := by
      intro same
      cases setting <;> first | exact absurd same (by decide) | exact url rfl
    rw [get?_settleUrl_of_ne apart, get?_canonicalEntries, if_neg url]

/-! ### Checking the fields -/

/-- What is checked of a setting. -/
def checked (fields : Fields) (setting : Setting) : Checked (Option String) :=
  let v := (fields.lookup setting.name).getD setting.default
  if setting = .appUrl then Field.optionalText true setting.name (some v)
  else (Field.text true setting.name v).map some

/-- A field that is left out is as good as one with the default. -/
theorem textField_eq_text {setting : Setting} {default : String}
    (usual : setting.default = .text default) :
    textField fields setting default =
      Field.text true setting.name ((fields.lookup setting.name).getD setting.default) := by
  rw [textField, usual]
  cases fields.lookup setting.name <;> rfl

theorem optionalText_lookup (fields : Fields) :
    Field.optionalText true Setting.appUrl.name (fields.lookup Setting.appUrl.name) =
      checked fields .appUrl := by
  rw [checked, if_pos rfl]
  cases fields.lookup Setting.appUrl.name <;> rfl

theorem checked_eq_ok_iff {setting : Setting} {default t : String} (apart : setting ≠ .appUrl)
    (usual : setting.default = .text default) :
    checked fields setting = .ok (some t) ↔ textField fields setting default = .ok t := by
  rw [checked, if_neg apart, textField_eq_text usual]
  cases Field.text true setting.name _ <;> simp [Except.map]

/-- Fields make settings exactly if what is checked of each setting is what they have. -/
theorem ofFields_eq_ok_iff :
    ofFields fields = .ok settings ↔
      ∀ setting, checked fields setting = .ok (settings.get setting) := by
  constructor
  · intro built setting
    obtain ⟨title, version, description, basePath, appUrl, uriLead, controllerLead⟩ :=
      ok_of_ofFields built
    cases setting with
    | appUrl => exact (optionalText_lookup fields).symm.trans appUrl
    | title => exact (checked_eq_ok_iff (by decide) rfl).mpr title
    | version => exact (checked_eq_ok_iff (by decide) rfl).mpr version
    | description => exact (checked_eq_ok_iff (by decide) rfl).mpr description
    | basePath => exact (checked_eq_ok_iff (by decide) rfl).mpr basePath
    | uriLead => exact (checked_eq_ok_iff (by decide) rfl).mpr uriLead
    | controllerLead => exact (checked_eq_ok_iff (by decide) rfl).mpr controllerLead
  · intro all
    have title := (checked_eq_ok_iff (by decide) rfl).mp (all .title)
    have version := (checked_eq_ok_iff (by decide) rfl).mp (all .version)
    have description := (checked_eq_ok_iff (by decide) rfl).mp (all .description)
    have basePath := (checked_eq_ok_iff (by decide) rfl).mp (all .basePath)
    have appUrl := (optionalText_lookup fields).trans (all .appUrl)
    have uriLead := (checked_eq_ok_iff (by decide) rfl).mp (all .uriLead)
    have controllerLead := (checked_eq_ok_iff (by decide) rfl).mp (all .controllerLead)
    rw [ofFields, title, version, description, basePath, appUrl, uriLead, controllerLead]
    rfl

theorem optionalText_eq_ok_iff {name : String} {v : Value} {t : Option String} :
    Field.optionalText true name (some v) = .ok t ↔
      v = .null ∧ t = none ∨ ∃ s, Field.textOf true v = .ok s ∧ t = some s := by
  by_cases null : v = .null
  · subst null
    simp [Field.optionalText, Field.textOf, eq_comm]
  · have same : Field.optionalText true name (some v) = (Field.text true name v).map some := by
      cases v <;> first | rfl | exact absurd rfl null
    rw [same, Field.text]
    cases Field.textOf true v <;> simp [Except.map, null, eq_comm]

/-- What is checked of a setting is what its value spells, unless that is too long a number. -/
theorem spells_iff_checked {setting : Setting} {t : Option String} :
    setting.Spells ((fields.lookup setting.name).getD setting.default) t ↔
      checked fields setting = .ok t ∧
        ∀ n, (fields.lookup setting.name).getD setting.default = .int n →
          Numeral.isTooLong n = false := by
  rw [Setting.spells_iff, checked]
  generalize (fields.lookup setting.name).getD setting.default = v
  refine and_congr_left' ?_
  by_cases url : setting = .appUrl
  · rw [if_pos url, optionalText_eq_ok_iff]
    simp only [url, true_and]
  · rw [if_neg url, Field.text]
    cases Field.textOf true v <;> simp [Except.map, url, eq_comm]

theorem hasEndlessNumber_iff : hasEndlessNumber fields = true ↔
    ∃ (setting : Setting) (n : Int),
      (fields.lookup setting.name).getD setting.default = .int n ∧ Numeral.isTooLong n = true := by
  rw [hasEndlessNumber, List.any_eq_true]
  constructor
  · rintro ⟨setting, -, long⟩
    split at long
    · next n here => exact ⟨setting, n, by rw [here]; rfl, long⟩
    · cases long
  · rintro ⟨setting, n, here, long⟩
    have inside : setting ∈ Setting.all := by cases setting <;> decide
    refine ⟨setting, inside, ?_⟩
    cases given : fields.lookup setting.name with
    | none =>
      rw [given] at here
      cases setting <;> cases here
    | some v =>
      obtain rfl : v = .int n := by rwa [given] at here
      exact long

/-! ### Settings from entries -/

/-- What entries whose keys are all texts amount to. -/
theorem exists_fields (argument environment : Option String) (texts : HasTextKeys entries) :
    ∃ fields : Fields,
      (∀ setting : Setting, (fields.lookup setting.name).getD setting.default =
        settled argument environment entries setting) ∧
      ofEntries argument environment entries =
        if hasEndlessNumber fields then .error (.trouble .numberTooLong)
        else (ofFields fields).mapError .settingsInvalid := by
  have readable : (fieldsOf? (settleUrl argument environment (canonicalEntries entries))).isSome :=
    fieldsOf?_isSome_iff.mpr
      (hasTextKeys_settleUrl_iff.mpr (hasTextKeys_canonicalEntries_iff.mpr texts))
  obtain ⟨fields, read⟩ := Option.isSome_iff_exists.mp readable
  refine ⟨fields, fun setting => lookup_settled setting read, ?_⟩
  rw [ofEntries, read]
  dsimp only
  congr 1
  cases ofFields fields <;> rfl

theorem ofEntries_of_other_keys (others : ¬ HasTextKeys entries) :
    ofEntries argument environment entries = .error (.trouble .keyNotText) := by
  have unread : fieldsOf? (settleUrl argument environment (canonicalEntries entries)) = none := by
    rw [← Option.not_isSome_iff_eq_none, fieldsOf?_isSome_iff, hasTextKeys_settleUrl_iff,
      hasTextKeys_canonicalEntries_iff]
    exact others
  rw [ofEntries, unread]

/-- Entries whose keys are all texts make settings exactly if each settled value spells what the
settings have. -/
theorem ofEntries_eq_ok_iff (texts : HasTextKeys entries) :
    ofEntries argument environment entries = .ok settings ↔
      ∀ setting : Setting, setting.Spells (settled argument environment entries setting)
        (settings.get setting) := by
  obtain ⟨fields, values, made⟩ := exists_fields argument environment texts
  have spells (setting : Setting) :
      setting.Spells ((fields.lookup setting.name).getD setting.default) (settings.get setting) ↔ _ :=
    spells_iff_checked
  simp only [values] at spells
  simp only [spells, forall_and, ← ofFields_eq_ok_iff, made]
  cases long : hasEndlessNumber fields with
  | true =>
    obtain ⟨setting, n, here, tooLong⟩ := hasEndlessNumber_iff.mp long
    rw [values] at here
    have never : ¬ ∀ (setting : Setting) (n : Int),
        settled argument environment entries setting = .int n → Numeral.isTooLong n = false := by
      intro short
      rw [short setting n here] at tooLong
      cases tooLong
    simp [never]
  | false =>
    have short (setting : Setting) (n : Int)
        (here : settled argument environment entries setting = .int n) :
        Numeral.isTooLong n = false := by
      by_contra tooLong
      rw [← values] at here
      have endless := hasEndlessNumber_iff.mpr ⟨setting, n, here, by simpa using tooLong⟩
      rw [long] at endless
      cases endless
    rw [if_neg Bool.false_ne_true, and_iff_left short]
    cases ofFields fields <;> simp [Except.mapError]

/-- The trouble that entries cause: a key that is no text, or a number that is too long. -/
theorem ofEntries_trouble_iff {cause : Trouble} :
    ofEntries argument environment entries = .error (.trouble cause) ↔
      cause = .keyNotText ∧ ¬ HasTextKeys entries ∨
      cause = .numberTooLong ∧ HasTextKeys entries ∧ ∃ (setting : Setting) (n : Int),
        settled argument environment entries setting = .int n ∧ Numeral.isTooLong n = true := by
  by_cases texts : HasTextKeys entries
  · obtain ⟨fields, values, made⟩ := exists_fields argument environment texts
    simp only [← values, ← hasEndlessNumber_iff, made]
    cases hasEndlessNumber fields with
    | true => simp [texts, eq_comm (a := cause)]
    | false => cases ofFields fields <;> simp [texts, Except.mapError]
  · rw [ofEntries_of_other_keys texts]
    simp [texts, eq_comm (a := cause)]

/-- Values that spell something for each setting are the values of some settings. -/
theorem exists_of_spells {values : Setting → Value}
    (all : ∀ setting : Setting, ∃ t, setting.Spells (values setting) t) :
    ∃ settings : Settings, ∀ setting : Setting,
      setting.Spells (values setting) (settings.get setting) := by
  choose texts spells using all
  have given (setting : Setting) (apart : setting ≠ .appUrl) :
      some ((texts setting).getD "") = texts setting := by
    obtain ⟨⟨url, -⟩ | ⟨s, -, spelled⟩, -⟩ := Setting.spells_iff.mp (spells setting)
    · exact absurd url apart
    · rw [spelled]
      rfl
  let settings : Settings := {
    title := (texts .title).getD ""
    version := (texts .version).getD ""
    description := (texts .description).getD ""
    basePath := (texts .basePath).getD ""
    appUrl := texts .appUrl
    uriLead := (texts .uriLead).getD ""
    controllerLead := (texts .controllerLead).getD "" }
  have agree (setting : Setting) : settings.get setting = texts setting := by
    by_cases url : setting = .appUrl
    · subst url
      rfl
    · rw [← given setting url]
      cases setting <;> first | rfl | exact absurd rfl url
  exact ⟨settings, fun setting => agree setting ▸ spells setting⟩

/-- Entries whose keys are all texts make no settings exactly if some settled value spells nothing. -/
theorem ofEntries_fails_iff (texts : HasTextKeys entries) :
    (∃ failure, ofEntries argument environment entries = .error failure) ↔
      ∃ setting : Setting, ∀ t,
        ¬ setting.Spells (settled argument environment entries setting) t := by
  constructor
  · rintro ⟨failure, failed⟩
    by_contra all
    push Not at all
    obtain ⟨settings, spells⟩ := exists_of_spells all
    rw [(ofEntries_eq_ok_iff texts).mpr spells] at failed
    cases failed
  · rintro ⟨setting, never⟩
    cases made : ofEntries argument environment entries with
    | error failure => exact ⟨failure, rfl⟩
    | ok settings => exact absurd ((ofEntries_eq_ok_iff texts).mp made setting) (never _)

/-! ### What settings do not depend on -/

end Settings

/-- The setting that a key names, in either spelling. -/
def Setting.ofKey? : Value → Option Setting
  | .text s => all.find? fun setting => s = setting.name ∨ s = setting.otherName
  | _ => none

/-- A key in the other spelling. One that names no setting stays as it is. -/
def Setting.respelled (key : Value) : Value :=
  match ofKey? key with
  | some setting => .text (if key.sameKey (.text setting.name) then setting.otherName else setting.name)
  | none => key

theorem Setting.ofKey?_eq_some_iff {setting : Setting} {key : Value} :
    ofKey? key = some setting ↔
      (key.sameKey (.text setting.name) || key.sameKey (.text setting.otherName)) = true := by
  rw [Bool.or_eq_true, Value.sameKey_text_iff, Value.sameKey_text_iff]
  constructor
  · intro named
    cases key with
    | text s =>
      have either := List.find?_some named
      simpa using either
    | _ => cases named
  · rintro (rfl | rfl) <;> cases setting <;> decide

namespace Settings
variable {argument environment : Option String} {entries entries' : List (Value × Value)}

/-- The settings that the entries name, with their values. -/
def named (entries : List (Value × Value)) : List (Setting × Value) :=
  entries.filterMap fun (key, v) => (Setting.ofKey? key).map (·, v)

theorem value?_eq_named (setting : Setting) (entries : List (Value × Value)) :
    value? setting entries = ((named entries).reverse.find? (·.1 = setting)).map Prod.snd := by
  rw [value?, named, ← List.filterMap_reverse]
  induction entries.reverse with
  | nil => rfl
  | cons entry rest ih =>
    obtain ⟨key, v⟩ := entry
    cases names : Setting.ofKey? key with
    | none =>
      have other : ¬ (key.sameKey (.text setting.name) ||
          key.sameKey (.text setting.otherName)) = true := by
        rw [← Setting.ofKey?_eq_some_iff, names]
        simp
      simpa [names, other] using ih
    | some named =>
      by_cases same : named = setting
      · subst same
        simp [names, Setting.ofKey?_eq_some_iff.mp names]
      · have other : ¬ (key.sameKey (.text setting.name) ||
            key.sameKey (.text setting.otherName)) = true := by
          rw [← Setting.ofKey?_eq_some_iff, names]
          simpa using same
        simpa [names, other, same] using ih

theorem ofFields_congr {fields fields' : Fields}
    (same : ∀ setting : Setting, (fields.lookup setting.name).getD setting.default =
      (fields'.lookup setting.name).getD setting.default) :
    ofFields fields = ofFields fields' := by
  have field (setting : Setting) (default : String) (usual : setting.default = .text default) :
      textField fields setting default = textField fields' setting default := by
    rw [textField_eq_text usual, textField_eq_text usual, same]
  have url : checked fields .appUrl = checked fields' .appUrl := by
    rw [checked, checked, same]
  simp only [ofFields, optionalText_lookup, field .title "" rfl, field .version "" rfl,
    field .description "" rfl, field .basePath defaultLead rfl, url,
    field .uriLead defaultLead rfl, field .controllerLead "" rfl]

/-- Entries that name the same settings with the same values amount to the same. -/
theorem ofEntries_congr (texts : HasTextKeys entries) (texts' : HasTextKeys entries')
    (same : named entries = named entries') :
    ofEntries argument environment entries = ofEntries argument environment entries' := by
  obtain ⟨fields, values, made⟩ := exists_fields argument environment texts
  obtain ⟨fields', values', made'⟩ := exists_fields argument environment texts'
  have settled_eq (setting : Setting) : settled argument environment entries setting =
      settled argument environment entries' setting := by
    rw [settled, settled, value?_eq_named, value?_eq_named, same]
  have agree (setting : Setting) : (fields.lookup setting.name).getD setting.default =
      (fields'.lookup setting.name).getD setting.default := by
    rw [values, values', settled_eq]
  have endless : hasEndlessNumber fields = hasEndlessNumber fields' := by
    rw [Bool.eq_iff_iff, hasEndlessNumber_iff, hasEndlessNumber_iff]
    simp only [agree]
  rw [made, made', endless, ofFields_congr agree]

/-- Entries in which some of the keys are spelled the other way. -/
def respell (chosen : Value → Bool) (entries : List (Value × Value)) : List (Value × Value) :=
  entries.map fun (key, v) => (if chosen key then Setting.respelled key else key, v)

theorem ofKey?_respelled (key : Value) :
    Setting.ofKey? (Setting.respelled key) = Setting.ofKey? key := by
  rw [Setting.respelled]
  cases names : Setting.ofKey? key with
  | none => exact names
  | some setting =>
    dsimp only
    rw [Setting.ofKey?_eq_some_iff]
    split <;> simp [Value.sameKey_text]

theorem hasTextKeys_respell (chosen : Value → Bool) (texts : HasTextKeys entries) :
    HasTextKeys (respell chosen entries) := by
  intro entry inside
  obtain ⟨⟨key, v⟩, among, rfl⟩ := List.mem_map.mp inside
  dsimp only
  split
  · rw [Setting.respelled]
    split
    · exact ⟨_, rfl⟩
    · exact texts _ among
  · exact texts _ among

theorem named_respell (chosen : Value → Bool) (entries : List (Value × Value)) :
    named (respell chosen entries) = named entries := by
  rw [named, respell, List.filterMap_map, named]
  congr 1
  funext entry
  dsimp only [Function.comp_apply]
  split
  · rw [ofKey?_respelled]
  · rfl

/-! ### Settings from a file -/

variable {disk : Disk} {file : Option FilePath}

/-- **What the settings in a file are.** Loading gives the settings that have, for each setting, what
its settled value spells, and fails exactly if one of these values spells nothing. Only the settings
that the keys name decide, in whichever spelling. -/
theorem load_spells (argument environment : Option String) (held : HeldBy disk file entries)
    (texts : HasTextKeys entries) :
    (∀ settings : Settings, load disk file argument environment = .ok settings ↔
      ∀ setting : Setting, setting.Spells (settled argument environment entries setting)
        (settings.get setting)) ∧
    ((∃ failure, load disk file argument environment = .error failure) ↔
      ∃ setting : Setting, ∀ t,
        ¬ setting.Spells (settled argument environment entries setting) t) ∧
    (∀ disk' file' entries', HeldBy disk' file' entries' → HasTextKeys entries' →
      named entries' = named entries →
      load disk' file' argument environment = load disk file argument environment) ∧
    ∀ disk' file' chosen, HeldBy disk' file' (respell chosen entries) →
      load disk' file' argument environment = load disk file argument environment := by
  have alike (disk' : Disk) (file' : Option FilePath) (entries' : List (Value × Value))
      (held' : HeldBy disk' file' entries') (texts' : HasTextKeys entries')
      (same : named entries' = named entries) :
      load disk' file' argument environment = load disk file argument environment := by
    rw [load_of_heldBy held', load_of_heldBy held, ofEntries_congr texts' texts same]
  rw [load_of_heldBy held]
  refine ⟨fun settings => ofEntries_eq_ok_iff texts, ofEntries_fails_iff texts, ?_, ?_⟩
  · rw [← load_of_heldBy held]
    exact alike
  · rw [← load_of_heldBy held]
    intro disk' file' chosen held'
    refine alike disk' file' _ held' ?_ (named_respell chosen entries)
    exact hasTextKeys_respell chosen texts

/-! ### A file with both spellings -/

/-- A disk with one file of settings. -/
def diskWith (text : String) : Disk := ⟨.directory [("apidoc.yaml", .file text.toUTF8)], []⟩

def sampleFile : FilePath := .ofText "apidoc.yaml"

/-- A section with both spellings of a setting, a number, bytes and a key that names no setting. -/
def sampleText : String :=
  "apidoc:\n  api_title: A\n  apiTitle: 2\n  apiVersion: !!binary aGk=\n  other: []\nappUrl: x\n"

def sampleEntries : List (Value × Value) :=
  [(.text "api_title", .text "A"), (.text "apiTitle", .int 2),
    (.text "apiVersion", .bytes [0x68, 0x69]), (.text "other", .list [])]

/-- Whether a document is the one with that section. -/
def isSample : Except Failure Value → Bool
  | .ok (.mapping [(.text "apidoc", .mapping [(.text "api_title", .text "A"),
      (.text "apiTitle", .int 2), (.text "apiVersion", .bytes [0x68, 0x69]),
      (.text "other", .list [])]), (.text "appUrl", .text "x")]) => true
  | _ => false

theorem eq_of_isSample {read : Except Failure Value} (sample : isSample read = true) :
    read = .ok (.mapping [(.text "apidoc", .mapping sampleEntries), (.text "appUrl", .text "x")]) := by
  unfold isSample at sample
  split at sample
  · rfl
  · cases sample

theorem heldBy_sample : HeldBy (diskWith sampleText) (some sampleFile) sampleEntries := by
  have document : (diskWith sampleText).readDocument sampleFile
      (.settingsMalformed sampleFile.text) = _ := eq_of_isSample (by decide +kernel)
  exact .section document rfl rfl rfl rfl

/-- The later spelling counts, the number and the bytes are texts, and the URL beside the section is
none. -/
theorem load_spells_sample : HeldBy (diskWith sampleText) (some sampleFile) sampleEntries ∧
    HasTextKeys sampleEntries ∧
    load (diskWith sampleText) (some sampleFile) none (some "h") =
      .ok { ofUrl (some "h") with title := "2", version := "hi" } := by
  have texts : HasTextKeys sampleEntries := by simp [HasTextKeys, sampleEntries]
  refine ⟨heldBy_sample, texts, ?_⟩
  refine ((load_spells none (some "h") heldBy_sample texts).1 _).mpr fun setting => ?_
  cases setting with
  | title => exact .int (by decide +kernel)
  | version => exact .bytes (by decide +kernel)
  | _ => exact .text _

/-! ### Values that are not what they seem -/

/-- The least number that is too long to be written. -/
def endless : Int := Nat.pow 10 Numeral.mostDigits

theorem isTooLong_endless : Numeral.isTooLong endless = true := by
  have size : endless.natAbs = Nat.pow 10 Numeral.mostDigits := Int.natAbs_natCast _
  exact decide_eq_true (Nat.le_of_eq size.symm)

/-- A title that is too long a number is trouble. -/
theorem ofValue_of_isTooLong {n : Int} (long : Numeral.isTooLong n = true) :
    ofValue "apidoc.yaml" none none (.mapping [(.text "apiTitle", .int n)]) =
      .error (.trouble .numberTooLong) := by
  have texts : HasTextKeys [(.text "apiTitle", .int n)] := by simp [HasTextKeys]
  rw [ofValue_of_whole rfl rfl rfl]
  exact ofEntries_trouble_iff.mpr (.inr ⟨rfl, texts, .title, n, rfl, long⟩)

/-- Bytes are no text, but spell one; and there are numbers that spell none. -/
theorem bytes_spell_and_numbers_may_not :
    settled none none [(.text "apiTitle", .bytes [0x68, 0x69])] .title = .bytes [0x68, 0x69] ∧
    ofValue "apidoc.yaml" none none (.mapping [(.text "apiTitle", .bytes [0x68, 0x69])]) =
      .ok { ofUrl none with title := "hi" } ∧
    settled none none [(.text "apiTitle", .int endless)] .title = .int endless ∧
    ofValue "apidoc.yaml" none none (.mapping [(.text "apiTitle", .int endless)]) =
      .error (.trouble .numberTooLong) :=
  ⟨rfl, rfl, rfl, ofValue_of_isTooLong isTooLong_endless⟩

end Settings
end RouteDocs
