import RouteDocs.Lookup.Table
import RouteDocs.Proofs.ManifestReading
import RouteDocs.Proofs.OrderedMap

/-!
# Documentation from a table

* `DocTable.keyOfAction`: the key that the text of an action stands for;
* `DocTable.key_injective`: the key of a controller without an `@` tells the controller and the action;
* `DocTable.Holds`: what the entries of a file hold under a key;
* `DocTable.holds_ofList`, `DocTable.exists_of_ofValue`: a table finds what its entries hold;
* `table_documents_by_action`: which text of a table documents a route, and that no other route shares
  its key.
-/

namespace RouteDocs
namespace DocTable

/-- The key under which the documentation of an action stands, by the text of the action. A text that
names no action of the controller gets an `@` at its end. -/
def keyOfAction (action : String) : String :=
  if '@' ∈ action.toList then action else action ++ "@"

theorem key_handler (action : String) :
    key (Manifest.handler action).1 (Manifest.handler action).2.2 = keyOfAction action := by
  rcases Manifest.handler_cases action with
    ⟨bare, controller, name⟩ | ⟨_, _, -, parts, controller, name⟩
  · rw [key, keyOfAction, if_neg bare, controller, name, String.append_empty]
  · have mark : '@' ∈ action.toList := by simp [parts]
    rw [key, keyOfAction, if_pos mark, controller, name, parts]

theorem not_at_of_handler (action : String) : '@' ∉ (Manifest.handler action).1.toList := by
  rcases Manifest.handler_cases action with ⟨bare, controller, -⟩ | ⟨_, _, clear, -, controller, -⟩
  · rwa [controller]
  · rwa [controller]

/-- Controllers without an `@` share no key, whatever the actions are. -/
theorem key_injective {controller controller' action action' : String}
    (clear : '@' ∉ controller.toList) (clear' : '@' ∉ controller'.toList)
    (same : key controller action = key controller' action') :
    controller = controller' ∧ action = action' := by
  have cut : Text.cut '@' (key controller action) = (controller, action) :=
    Text.cut_append clear action
  have cut' : Text.cut '@' (key controller' action') = (controller', action') :=
    Text.cut_append clear' action'
  rw [same, cut'] at cut
  cases cut
  exact ⟨rfl, rfl⟩

/-- The entries of a file with a table. An empty document has none. -/
inductive Lists (v : Value) : List (Value × Value) → Prop where
  | empty : v.isEmpty = true → Lists v []
  | mapping {entries : List (Value × Value)} : v.isEmpty = false → v.opened = .mapping entries →
      Lists v entries

/-- What entries hold under a key: the text of the last value that is not null among those whose keys
have this text, if there is such a value. -/
inductive Holds (entries : List (Value × Value)) (key : String) : Option String → Prop where
  | last {before after : List (Value × Value)} {k v : Value} : entries = before ++ (k, v) :: after →
      k.plain = key → v ≠ .null → (∀ e ∈ after, e.1.plain = key → e.2 = .null) →
      Holds entries key (some v.plain)
  | nothing : (∀ e ∈ entries, e.1.plain = key → e.2 = .null) → Holds entries key none

def texts (entries : List (Value × Value)) : List (String × String) :=
  (entries.filter fun (_, v) => ! (v matches .null)).map fun (k, v) => (k.plain, v.plain)

theorem Holds.concat_of_null {entries : List (Value × Value)} {key : String} {doc : Option String}
    (holds : Holds entries key doc) {e : Value × Value} (skipped : e.1.plain = key → e.2 = .null) :
    Holds (entries ++ [e]) key doc := by
  cases holds with
  | last parts named full later =>
    refine .last (by rw [parts, List.append_assoc, List.cons_append]) named full ?_
    exact List.forall_mem_append.mpr ⟨later, List.forall_mem_singleton.mpr skipped⟩
  | nothing absent =>
    exact .nothing (List.forall_mem_append.mpr ⟨absent, List.forall_mem_singleton.mpr skipped⟩)

/-- A table finds what its entries hold. -/
theorem holds_ofList (entries : List (Value × Value)) (key : String) :
    Holds entries key ((OrderedMap.ofList (texts entries)).find? key) := by
  -- an entry at the end is left out, counts at another key, or counts at this one
  induction entries using List.reverseRecOn with
  | nil => exact .nothing nofun
  | append_singleton entries e ih =>
    by_cases null : e.2 = .null
    · have same : texts (entries ++ [e]) = texts entries := by simp [texts, null]
      rw [same]
      exact ih.concat_of_null fun _ => null
    · have more : texts (entries ++ [e]) = texts entries ++ [(e.1.plain, e.2.plain)] := by
        simp [texts]
      rw [more, OrderedMap.ofList_concat, OrderedMap.insert, OrderedMap.find?_alter]
      split
      · next named => exact .last rfl named null nofun
      · next other => exact ih.concat_of_null fun named => absurd named other

theorem exists_of_ofValue {path : String} {v : Value} {table : DocTable}
    (read : ofValue path v = .ok table) :
    ∃ entries, Lists v entries ∧ table = OrderedMap.ofList (texts entries) := by
  unfold ofValue at read
  cases empty : v.isEmpty with
  | true =>
    simp only [empty, if_true, Value.opened] at read
    obtain rfl := Except.ok.inj read
    exact ⟨[], .empty empty, rfl⟩
  | false =>
    simp only [empty, Bool.false_eq_true, if_false] at read
    split at read
    · next entries opened =>
      split at read
      · obtain rfl := Except.ok.inj read
        exact ⟨entries, .mapping empty opened, rfl⟩
      · cases read
    · cases read

end DocTable

/-- **A table documents a route by the text of its action.** Let a manifest and a table be read. Each
route comes from an item of the manifest, and the look-up of its controller and action gives what the
table's file holds under the text of the item's action, with an `@` at its end if it has none. Routes
with different controllers or actions have different keys, with whatever `@` there is in them: what
stands under the key of one does not matter to the other. -/
theorem table_documents_by_action {disk : Disk} {manifest docs : FilePath} {rs : List Route}
    {table : DocTable} (loaded : Manifest.load disk manifest = .ok rs)
    (read : DocTable.load disk docs = .ok table) :
    ∃ v items w entries,
      disk.readDocument manifest (.manifestMalformed manifest.text) = .ok v ∧
      Manifest.Lists v items ∧ Manifest.Reads items rs ∧
      disk.readDocument docs (.docsMalformed docs.text) = .ok w ∧ DocTable.Lists w entries ∧
      (∀ r ∈ rs, ∃ item ∈ items, ∃ fields action, item.opened = .mapping fields ∧
        Manifest.ActionText fields action ∧ Manifest.Describes fields action r ∧
        ∃ doc, table.lookup () r.controller r.action = ⟨.ok doc, .nothing, ()⟩ ∧
          DocTable.Holds entries (DocTable.keyOfAction action) doc) ∧
      ∀ r ∈ rs, ∀ r' ∈ rs, (r.controller, r.action) ≠ (r'.controller, r'.action) →
        DocTable.key r.controller r.action ≠ DocTable.key r'.controller r'.action ∧
        ∀ text, DocTable.lookup (table.insert (DocTable.key r.controller r.action) text) ()
          r'.controller r'.action = table.lookup () r'.controller r'.action := by
  obtain ⟨v, document, routes⟩ := ok_of_bind loaded
  obtain ⟨items, listed, reads⟩ := Manifest.reads_of_routes routes
  obtain ⟨w, file, tabled⟩ := ok_of_bind read
  obtain ⟨entries, tells, rfl⟩ := DocTable.exists_of_ofValue tabled
  have clear : ∀ r ∈ rs, '@' ∉ r.controller.toList := by
    intro r here
    obtain ⟨_, -, fields, action, -, -, -, described⟩ := Manifest.exists_item_of_mem reads here
    have controller : r.controller = (Manifest.handler action).1 := congrArg Prod.fst described.handler
    rw [controller]
    exact DocTable.not_at_of_handler action
  refine ⟨v, items, w, entries, document, listed, reads, file, tells, ?_, ?_⟩
  · intro r here
    obtain ⟨item, itemListed, fields, action, opened, names, -, described⟩ :=
      Manifest.exists_item_of_mem reads here
    have key : DocTable.key r.controller r.action = DocTable.keyOfAction action := by
      rw [← DocTable.key_handler, ← described.handler]
    refine ⟨item, itemListed, fields, action, opened, names, described, _, rfl, ?_⟩
    rw [key]
    exact DocTable.holds_ofList entries _
  · intro r here r' here' differ
    have apart : DocTable.key r.controller r.action ≠ DocTable.key r'.controller r'.action := by
      intro same
      obtain ⟨controller, action⟩ := DocTable.key_injective (clear r here) (clear r' here') same
      exact differ (Prod.ext controller action)
    refine ⟨apart, fun text => ?_⟩
    rw [DocTable.lookup, OrderedMap.insert, OrderedMap.find?_alter_of_ne _ (Ne.symm apart)]
    rfl

/-- A disk with a manifest and a table in which `@` stands in more than one place. -/
def atDisk : Disk where
  root := .directory [
    ("r.yaml", .file "- uri: u\n  action: U@s\n- uri: v\n  action: U@s@t\n- uri: w\n  action: U\n".toUTF8),
    ("d.yaml", .file "U@s: null\nU@s@t: one\nU@: 2\n".toUTF8)]
  working := []

def atRoutes : List Route :=
  [("u", "s"), ("v", "s@t"), ("w", "")].map fun (uri, action) =>
    { host := none, methods := ["GET", "HEAD"], uri, name := none, controller := "U", className := "U",
      action }

theorem table_documents_by_action_nested :
    Manifest.load atDisk (.ofText "r.yaml") = .ok atRoutes ∧
      DocTable.load atDisk (.ofText "d.yaml") = .ok (.ofList [("U@s@t", "one"), ("U@", "2")]) ∧
      (∃ w entries, atDisk.readDocument (.ofText "d.yaml") (.docsMalformed (FilePath.ofText "d.yaml").text) =
          .ok w ∧ DocTable.Lists w entries ∧
        ∀ r ∈ atRoutes, ∃ action doc,
          DocTable.lookup (.ofList [("U@s@t", "one"), ("U@", "2")]) () r.controller r.action =
            ⟨.ok doc, .nothing, ()⟩ ∧ DocTable.Holds entries (DocTable.keyOfAction action) doc) ∧
      DocTable.key "U" "s" ≠ DocTable.key "U" "s@t" := by
  have loaded : Manifest.load atDisk (.ofText "r.yaml") = .ok atRoutes :=
    ok_of_toOption (by decide +kernel)
  have read : DocTable.load atDisk (.ofText "d.yaml") =
      .ok (.ofList [("U@s@t", "one"), ("U@", "2")]) :=
    ok_of_toOption (by decide +kernel)
  obtain ⟨_, _, w, entries, -, -, -, file, listed, documented, apart⟩ :=
    table_documents_by_action loaded read
  refine ⟨loaded, read, ⟨w, entries, file, listed, ?_⟩, ?_⟩
  · intro r here
    obtain ⟨_, -, _, action, -, -, -, doc, found, holds⟩ := documented r here
    exact ⟨action, doc, found, holds⟩
  · exact (apart _ List.mem_cons_self _ (List.mem_cons_of_mem _ List.mem_cons_self) (by decide)).1

end RouteDocs
