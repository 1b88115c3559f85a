import RouteDocs.Manifest
import RouteDocs.Proofs.Value

/-!
# What a manifest has to be

* `Manifest.Lists`: the items of a document; `Manifest.Malformed`: what can be wrong with an item;
* `Manifest.Skips`, `Manifest.Gives`: an item that gives no route, and the route that an item gives;
  `Manifest.Reads` for a list of items;
* `Manifest.route?_outcomes`: all that reading an item comes to before its other fields count;
* `Manifest.route?_cases`, `Manifest.routesFrom_cases`: an item, or the first malformed one of a
  list, is told by its number, or the items give their routes;
* `Manifest.routes_or_first_malformed_item`: all that reading a document can do.
-/

namespace RouteDocs

/-- Whether a failure says that a manifest cannot be read. -/
def Failure.isOfManifest : Failure → Bool
  | .manifestMalformed _ | .manifestNotList _ | .routeWithoutUri _ | .actionNotText _
  | .methodsNotList _ | .routeInvalid .. => true
  | _ => false

/-- The number of the item that a failure is about. -/
def Failure.item? : Failure → Option Nat
  | .routeWithoutUri index | .actionNotText index | .methodsNotList index
  | .routeInvalid index _ => some index
  | _ => none

theorem Failure.isOfManifest_of_item? {failure : Failure} {index : Nat}
    (about : failure.item? = some index) : failure.isOfManifest = true := by
  cases failure <;> first | rfl | cases about

/-- A failure about an item starts with the item's number, after which no digit follows. -/
theorem Failure.message_of_item? {failure : Failure} {index : Nat}
    (about : failure.item? = some index) :
    ∃ rest, failure.message = "Route #" ++ toString index ++ rest ∧
      rest.toList.head? ∈ [some ' ', some ':'] := by
  cases failure <;> cases about
  case routeWithoutUri => exact ⟨_, rfl, by decide⟩
  case actionNotText => exact ⟨_, rfl, by decide⟩
  case methodsNotList => exact ⟨_, rfl, by decide⟩
  case routeInvalid issues => exact ⟨": " ++ issueList issues, String.append_assoc, by simp⟩

namespace Manifest

/-! ### Documents -/

/-- The items of a document: the document itself is their list, or what it holds under `routes`,
which may be missing. -/
inductive Lists : Value → List Value → Prop where
  | list {v : Value} {items : List Value} : v.opened = .list items → Lists v items
  | nothing {v : Value} {entries : List (Value × Value)} : v.opened = .mapping entries →
      Value.get? "routes" entries = none → Lists v []
  | underRoutes {v listed : Value} {entries : List (Value × Value)} {items : List Value} :
      v.opened = .mapping entries → Value.get? "routes" entries = some listed →
      listed.opened = .list items → Lists v items

theorem items_of_lists {v : Value} {its : List Value} (h : Lists v its) (path : String) :
    items path v = .ok its := by
  cases h with
  | list opened => simp [items, opened]
  | nothing opened absent => simp [items, opened, absent]
  | underRoutes opened here listed => simp [items, opened, here, listed]

theorem lists_of_items {v : Value} {its : List Value} {path : String}
    (h : items path v = .ok its) : Lists v its := by
  unfold items at h
  split at h
  · next entries opened =>
    split at h
    · next none_here =>
      cases h
      exact .nothing opened (Option.map_eq_none_iff.mp none_here)
    · next listed some_here =>
      cases h
      obtain ⟨v', here, listed⟩ := Option.map_eq_some_iff.mp some_here
      exact .underRoutes opened here listed
    · cases h
  · next opened =>
    cases h
    exact .list opened
  · cases h

theorem items_of_error {v : Value} {path : String} {failure : Failure}
    (h : items path v = .error failure) : failure = .manifestNotList path := by
  unfold items at h
  split at h
  · split at h <;> cases h
    rfl
  · cases h
  · cases h
    rfl

/-- A document without items in either place is refused. -/
theorem items_of_not_lists {v : Value} (h : ∀ its, ¬ Lists v its) (path : String) :
    items path v = .error (.manifestNotList path) := by
  cases read : items path v with
  | ok its => exact absurd (lists_of_items read) (h its)
  | error failure => rw [items_of_error read]

/-! ### Items -/

/-- The text of an item's action. A missing or empty action counts as the empty text. -/
inductive ActionText (entries : List (Value × Value)) : String → Prop where
  | absent : Value.get? "action" entries = none → ActionText entries ""
  | empty {v : Value} : Value.get? "action" entries = some v → v.isEmpty = true →
      ActionText entries ""
  | text {s : String} : Value.get? "action" entries = some (.text s) → ActionText entries s

/-- Whether an action names a controller whose routes are documented. -/
def IsKept (action : String) : Prop := (handler action).1 ≠ "" ∧ (handler action).2.1 ≠ closure

instance (action : String) : Decidable (IsKept action) := by
  unfold IsKept
  infer_instance

inductive MethodTexts (entries : List (Value × Value)) : List String → Prop where
  | absent : Value.get? "methods" entries = none → MethodTexts entries ["GET", "HEAD"]
  | text {v : Value} {s : String} : Value.get? "methods" entries = some v → v.opened = .text s →
      MethodTexts entries (Text.splitAt '|' s)
  | list {v : Value} {items : List Value} : Value.get? "methods" entries = some v →
      v.opened = .list items → MethodTexts entries (items.map Value.plain)

/-- A value that is null or a text. -/
def IsTextOrNull (v : Value) : Prop := v = .null ∨ ∃ s, v = .text s

/-- A value that is null, a text, or bytes that spell one. -/
def SpellsTextOrNull (v : Value) : Prop :=
  IsTextOrNull v ∨ ∃ content s, v = .bytes content ∧ String.fromUTF8? ⟨content.toArray⟩ = some s

/-- The text that a field gives: none where it is missing or null, and otherwise the text that its
value spells. -/
inductive GivesText : Option Value → Option String → Prop where
  | absent : GivesText none none
  | null : GivesText (some .null) none
  | text (s : String) : GivesText (some (.text s)) (some s)
  | bytes {content : List UInt8} {s : String} : String.fromUTF8? ⟨content.toArray⟩ = some s →
      GivesText (some (.bytes content)) (some s)

/-- What can be wrong with an item, where `takes` says which values the domain and the name can
have. Methods, domain and name count only for an action that is kept. -/
inductive Malformed (takes : Value → Prop) (item : Value) : Prop where
  | notMapping : (∀ entries, item.opened ≠ .mapping entries) → Malformed takes item
  | uri {entries : List (Value × Value)} : item.opened = .mapping entries →
      Value.get? "uri" entries = none → Malformed takes item
  | action {entries : List (Value × Value)} {v : Value} : item.opened = .mapping entries →
      Value.get? "action" entries = some v → v.isEmpty = false → (∀ s, v ≠ .text s) →
      Malformed takes item
  | methods {entries : List (Value × Value)} {action : String} {v : Value} :
      item.opened = .mapping entries → ActionText entries action → IsKept action →
      Value.get? "methods" entries = some v → (∀ s, v.opened ≠ .text s) →
      (∀ items, v.opened ≠ .list items) → Malformed takes item
  | field {entries : List (Value × Value)} {action key : String} {v : Value} :
      item.opened = .mapping entries → ActionText entries action → IsKept action →
      key ∈ ["domain", "name"] → Value.get? key entries = some v → ¬ takes v →
      Malformed takes item

/-- An item that gives no route: its action names no controller, or a closure. Of its other fields
only the URI has to be there. -/
def Skips (item : Value) : Prop :=
  ∃ entries action, item.opened = .mapping entries ∧ Value.get? "uri" entries ≠ none ∧
    ActionText entries action ∧ ¬ IsKept action

/-- The route that entries with a kept action give. -/
structure Describes (entries : List (Value × Value)) (action : String) (r : Route) : Prop where
  handler : (r.controller, r.className, r.action) = Manifest.handler action
  uri : ∃ v, Value.get? "uri" entries = some v ∧ r.uri = v.plain
  methods : ∃ texts, MethodTexts entries texts ∧ r.methods = texts.map Text.upper
  host : GivesText (Value.get? "domain" entries) r.host
  name : GivesText (Value.get? "name" entries) r.name

/-- An item with a kept action gives a route. -/
def Gives (item : Value) (r : Route) : Prop :=
  ∃ entries action, item.opened = .mapping entries ∧ ActionText entries action ∧ IsKept action ∧
    Describes entries action r

/-- What an item comes to: it is skipped, or it gives a route. -/
inductive Yields (item : Value) : Option Route → Prop where
  | nothing : Skips item → Yields item none
  | route {r : Route} : Gives item r → Yields item (some r)

/-- The routes that items give: one for each that is not skipped, in the order of the items. -/
inductive Reads : List Value → List Route → Prop where
  | nil : Reads [] []
  | cons {item : Value} {its : List Value} {r : Option Route} {rs : List Route} :
      Yields item r → Reads its rs → Reads (item :: its) (r.toList ++ rs)

/-! ### The fields of an item -/

theorem action_of_actionText {entries : List (Value × Value)} {a : String}
    (h : ActionText entries a) (index : Nat) : action index entries = .ok a := by
  cases h with
  | absent absent => simp only [action, absent]
  | empty here empty => simp only [action, here, empty, if_true]
  | text here =>
    simp only [action, here]
    split
    · next empty => rw [String.isEmpty_iff.mp empty]
    · rfl

theorem ActionText.unique {entries : List (Value × Value)} {a b : String}
    (h : ActionText entries a) (k : ActionText entries b) : a = b :=
  Except.ok.inj ((action_of_actionText h 0).symm.trans (action_of_actionText k 0))

/-- An action with a text has no value of another kind. -/
theorem ActionText.text_of_full {entries : List (Value × Value)} {a : String} {v : Value}
    (h : ActionText entries a) (here : Value.get? "action" entries = some v)
    (full : v.isEmpty = false) : ∃ s, v = .text s := by
  cases h with
  | absent absent =>
    rw [absent] at here
    cases here
  | empty here' empty =>
    cases here.symm.trans here'
    rw [full] at empty
    cases empty
  | text here' => exact ⟨a, Option.some.inj (here.symm.trans here')⟩

theorem action_cases (index : Nat) (entries : List (Value × Value)) :
    (∃ a, ActionText entries a ∧ action index entries = .ok a) ∨
      (∃ v, Value.get? "action" entries = some v ∧ v.isEmpty = false ∧ ∀ s, v ≠ .text s) ∧
        action index entries = .error (.actionNotText index) := by
  unfold action
  split
  · next absent => exact .inl ⟨"", .absent absent, rfl⟩
  · next v here =>
    cases empty : v.isEmpty with
    | true => exact .inl ⟨"", .empty here empty, rfl⟩
    | false =>
      rw [if_neg Bool.false_ne_true]
      split
      · next s => exact .inl ⟨s, .text here, rfl⟩
      · next other => exact .inr ⟨⟨v, here, empty, other⟩, rfl⟩

theorem textOf_of_isShowable {v : Value} (shown : v.isShowable = true) :
    textOf v = .ok v.plain := by
  rw [textOf, if_pos shown]

theorem mapM_textOf {vs : List Value} (shown : ∀ v ∈ vs, v.isShowable = true) :
    vs.mapM textOf = .ok (vs.map Value.plain) := by
  induction vs with
  | nil => rfl
  | cons v vs ih =>
    obtain ⟨first, rest⟩ := List.forall_mem_cons.mp shown
    rw [List.mapM_cons, textOf_of_isShowable first, ih rest]
    rfl

def methodTexts (index : Nat) (entries : List (Value × Value)) : Except Failure (List String) := do
  (← methods index entries).mapM textOf

theorem methodTexts_cases {entries : List (Value × Value)}
    (shown : Value.areEntriesShowable entries = true) (index : Nat) :
    (∃ texts, MethodTexts entries texts ∧ methodTexts index entries = .ok texts) ∨
      (∃ v, Value.get? "methods" entries = some v ∧ (∀ s, v.opened ≠ .text s) ∧
        ∀ items, v.opened ≠ .list items) ∧
        methodTexts index entries = .error (.methodsNotList index) := by
  cases here : Value.get? "methods" entries with
  | none =>
    refine .inl ⟨_, .absent here, ?_⟩
    simp only [methodTexts, methods, here, Option.map_none]
    rfl
  | some v =>
    have shownHere := Value.isShowable_opened (Value.isShowable_of_get? shown here)
    cases opened : v.opened with
    | text s =>
      refine .inl ⟨_, .text here opened, ?_⟩
      simp only [methodTexts, methods, here, Option.map_some, opened]
      show List.mapM textOf _ = _
      rw [mapM_textOf (by simp [Value.isShowable]), List.map_map]
      simp [Function.comp_def, Value.plain]
    | list items =>
      refine .inl ⟨_, .list here opened, ?_⟩
      rw [opened] at shownHere
      simp only [methodTexts, methods, here, Option.map_some, opened]
      exact mapM_textOf fun v hv => Value.isShowable_of_mem shownHere hv
    | _ =>
      refine .inr ⟨⟨v, rfl, by simp [opened], by simp [opened]⟩, ?_⟩
      simp only [methodTexts, methods, here, Option.map_some, opened]
      rfl

theorem optionalText_cases (name : String) (v : Option Value) :
    (∃ s, GivesText v s ∧ Field.optionalText false name v = .ok s) ∨
      (∃ v', v = some v' ∧ ¬ SpellsTextOrNull v') ∧
        ∃ issues, Field.optionalText false name v = .error issues := by
  cases v with
  | none => exact .inl ⟨none, .absent, rfl⟩
  | some v =>
    cases v with
    | null => exact .inl ⟨none, .null, rfl⟩
    | text s => exact .inl ⟨some s, .text s, rfl⟩
    | bytes content =>
      cases read : String.fromUTF8? ⟨content.toArray⟩ with
      | some s =>
        refine .inl ⟨some s, .bytes read, ?_⟩
        simp [Field.optionalText, Field.text, Field.textOf, read, Except.map]
      | none =>
        refine .inr ⟨⟨_, rfl, by simp [SpellsTextOrNull, IsTextOrNull, read]⟩,
          [⟨name, .notUnicode⟩], ?_⟩
        simp [Field.optionalText, Field.text, Field.textOf, read, Except.map]
    | _ =>
      exact .inr ⟨⟨_, rfl, by simp [SpellsTextOrNull, IsTextOrNull]⟩, [⟨name, .notText⟩], rfl⟩

/-! ### An item -/

/-- The route of an item whose action is kept, from its other fields. -/
def keptRoute (index : Nat) (entries : List (Value × Value)) (uri : Value) (a : String) :
    Except Failure (Option Route) := do
  let methods ← methodTexts index entries
  let uri ← textOf uri
  match (Field.optionalText false "host" (Value.get? "domain" entries)).and
      (Field.optionalText false "name" (Value.get? "name" entries)) with
  | .error issues => .error (.routeInvalid index issues)
  | .ok (host, name) =>
    return some {
      host, name, uri
      methods := methods.map Text.upper
      controller := (handler a).1
      className := (handler a).2.1
      action := (handler a).2.2 }

section
variable {item : Value} {entries : List (Value × Value)} {index : Nat}

theorem route?_of_not_mapping (h : ∀ entries, item.opened ≠ .mapping entries) :
    route? index item = .error (.routeWithoutUri index) := by
  unfold route?
  split
  · next entries opened => exact absurd opened (h entries)
  · rfl

theorem route?_of_no_uri (opened : item.opened = .mapping entries)
    (h : Value.get? "uri" entries = none) :
    route? index item = .error (.routeWithoutUri index) := by
  simp only [route?, opened, h]

theorem route?_of_action_error {uri : Value} {failure : Failure}
    (opened : item.opened = .mapping entries) (hasUri : Value.get? "uri" entries = some uri)
    (h : action index entries = .error failure) : route? index item = .error failure := by
  simp only [route?, opened, hasUri, h]
  rfl

/-- An item that is a mapping with a URI, by its action. -/
theorem route?_of_action {uri : Value} {a : String} (opened : item.opened = .mapping entries)
    (hasUri : Value.get? "uri" entries = some uri) (h : action index entries = .ok a) :
    route? index item = if IsKept a then keptRoute index entries uri a else .ok none := by
  have kept : IsKept a ↔ ¬ ((handler a).1.isEmpty || (handler a).2.1 == closure) = true := by
    simp [IsKept]
  simp only [route?, opened, hasUri, h, bind, Except.bind]
  split
  · next skipped =>
    rw [if_neg fun names => kept.mp names skipped]
    rfl
  · next names =>
    rw [if_pos (kept.mpr names)]
    simp only [keptRoute, methodTexts, bind, Except.bind]
    cases methods index entries <;> rfl

theorem keptRoute_of_fields {uri : Value} {a text : String} {texts : List String}
    {host name : Option String} (methods : methodTexts index entries = .ok texts)
    (written : textOf uri = .ok text)
    (hostRead : Field.optionalText false "host" (Value.get? "domain" entries) = .ok host)
    (nameRead : Field.optionalText false "name" (Value.get? "name" entries) = .ok name) :
    keptRoute index entries uri a = .ok (some {
      host, name
      uri := text
      methods := texts.map Text.upper
      controller := (handler a).1
      className := (handler a).2.1
      action := (handler a).2.2 }) := by
  simp only [keptRoute, methods, written, hostRead, nameRead, Checked.and, bind, Except.bind]
  rfl

theorem keptRoute_cases {uri : Value} {a : String}
    (shown : Value.areEntriesShowable entries = true) (opened : item.opened = .mapping entries)
    (hasUri : Value.get? "uri" entries = some uri) (names : ActionText entries a)
    (kept : IsKept a) :
    (Malformed SpellsTextOrNull item ∧
        ∃ failure, keptRoute index entries uri a = .error failure ∧ failure.item? = some index) ∨
      ∃ r, Gives item r ∧ keptRoute index entries uri a = .ok (some r) := by
  rcases methodTexts_cases shown index with
    ⟨texts, methods, read⟩ | ⟨⟨v, here, noText, noList⟩, read⟩
  · have written := textOf_of_isShowable (Value.isShowable_of_get? shown hasUri)
    have field (key : String) (v : Value) (hkey : key ∈ ["domain", "name"])
        (here : Value.get? key entries = some v) (refused : ¬ SpellsTextOrNull v) :
        Malformed SpellsTextOrNull item := .field opened names kept hkey here refused
    rcases optionalText_cases "host" (Value.get? "domain" entries) with
      ⟨host, hostGiven, hostRead⟩ | ⟨⟨v, here, refused⟩, issues, hostRead⟩
    · rcases optionalText_cases "name" (Value.get? "name" entries) with
        ⟨name, nameGiven, nameRead⟩ | ⟨⟨v, here, refused⟩, issues, nameRead⟩
      · refine .inr ⟨_, ⟨entries, a, opened, names, kept, ?_⟩,
          keptRoute_of_fields read written hostRead nameRead⟩
        exact ⟨by simp only [Prod.eta], ⟨uri, hasUri, rfl⟩, ⟨texts, methods, rfl⟩, hostGiven,
          nameGiven⟩
      · have faulty := field "name" v (by simp) here refused
        refine .inl ⟨faulty, .routeInvalid index issues, ?_, rfl⟩
        simp only [keptRoute, read, written, hostRead, nameRead, Checked.and, bind, Except.bind]
    · have faulty := field "domain" v (by simp) here refused
      refine .inl ⟨faulty, ?_⟩
      simp only [keptRoute, read, written, hostRead, bind, Except.bind]
      cases Field.optionalText false "name" (Value.get? "name" entries) <;> exact ⟨_, rfl, rfl⟩
  · refine .inl ⟨.methods opened names kept here noText noList, .methodsNotList index, ?_, rfl⟩
    simp only [keptRoute, read, bind, Except.bind]

/-- All that reading an item comes to before its other fields count: the item is malformed, whatever
its fields can have, and told by its number; or its action decides whether they count. -/
theorem route?_outcomes (index : Nat) (item : Value) :
    (∃ failure, route? index item = .error failure ∧ failure.item? = some index ∧
        ∀ takes, Malformed takes item) ∨
      ∃ entries uri a, item.opened = .mapping entries ∧ Value.get? "uri" entries = some uri ∧
        ActionText entries a ∧
        route? index item = if IsKept a then keptRoute index entries uri a else .ok none := by
  by_cases mapping : ∃ entries, item.opened = .mapping entries
  · obtain ⟨entries, opened⟩ := mapping
    cases hasUri : Value.get? "uri" entries with
    | none => exact .inl ⟨_, route?_of_no_uri opened hasUri, rfl, fun _ => .uri opened hasUri⟩
    | some uri =>
      rcases action_cases index entries with ⟨a, names, read⟩ | ⟨⟨v, here, full, other⟩, read⟩
      · exact .inr ⟨entries, uri, a, opened, hasUri, names, route?_of_action opened hasUri read⟩
      · exact .inl ⟨_, route?_of_action_error opened hasUri read, rfl,
          fun _ => .action opened here full other⟩
  · have other : ∀ entries, item.opened ≠ .mapping entries := fun entries opened =>
      mapping ⟨entries, opened⟩
    exact .inl ⟨_, route?_of_not_mapping other, rfl, fun _ => .notMapping other⟩

/-- An item is malformed and told by its number, or it is skipped or gives a route. -/
theorem route?_cases (shown : item.isShowable = true) (index : Nat) :
    (Malformed SpellsTextOrNull item ∧
        ∃ failure, route? index item = .error failure ∧ failure.item? = some index) ∨
      ∃ r, Yields item r ∧ route? index item = .ok r := by
  rcases route?_outcomes index item with
    ⟨failure, told, about, faulty⟩ | ⟨entries, uri, a, opened, hasUri, names, whole⟩
  · exact .inl ⟨faulty _, failure, told, about⟩
  · have shownEntries := Value.isShowable_opened shown
    rw [opened] at shownEntries
    by_cases kept : IsKept a
    · rw [if_pos kept] at whole
      rw [whole]
      rcases keptRoute_cases shownEntries opened hasUri names kept with
        faulty | ⟨r, given, read⟩
      · exact .inl faulty
      · exact .inr ⟨some r, .route given, read⟩
    · rw [if_neg kept] at whole
      have skipped : Skips item := ⟨entries, a, opened, by simp [hasUri], names, kept⟩
      exact .inr ⟨none, .nothing skipped, whole⟩

/-- What is wrong with a malformed mapping whose action gives a text: it has no URI, or the action is
kept and one of the fields that count then is of a wrong kind. -/
theorem Malformed.of_actionText {takes : Value → Prop} {a : String}
    (faulty : Malformed takes item) (opened : item.opened = .mapping entries)
    (names : ActionText entries a) :
    Value.get? "uri" entries = none ∨
      IsKept a ∧
        ((∃ v, Value.get? "methods" entries = some v ∧ (∀ s, v.opened ≠ .text s) ∧
            ∀ items, v.opened ≠ .list items) ∨
          ∃ key ∈ ["domain", "name"], ∃ v, Value.get? key entries = some v ∧ ¬ takes v) := by
  cases faulty with
  | notMapping other => exact absurd opened (other entries)
  | uri opened' absent =>
    cases opened.symm.trans opened'
    exact .inl absent
  | action opened' here full other =>
    cases opened.symm.trans opened'
    obtain ⟨s, text⟩ := names.text_of_full here full
    exact absurd text (other s)
  | methods opened' names' kept here noText noList =>
    cases opened.symm.trans opened'
    exact .inr ⟨names.unique names' ▸ kept, .inl ⟨_, here, noText, noList⟩⟩
  | field opened' names' kept hkey here refused =>
    cases opened.symm.trans opened'
    exact .inr ⟨names.unique names' ▸ kept, .inr ⟨_, hkey, _, here, refused⟩⟩

theorem Skips.not_malformed {takes : Value → Prop} (h : Skips item) : ¬ Malformed takes item := by
  obtain ⟨entries, a, opened, hasUri, names, skipped⟩ := h
  intro faulty
  rcases faulty.of_actionText opened names with absent | ⟨kept, -⟩
  · exact hasUri absent
  · exact skipped kept

/-- A value that gives a text, or null, is one that a field takes. -/
theorem GivesText.takes {v : Value} {s : Option String} (h : GivesText (some v) s) :
    SpellsTextOrNull v := by
  cases h with
  | null => exact .inl (.inl rfl)
  | text s => exact .inl (.inr ⟨s, rfl⟩)
  | bytes read => exact .inr ⟨_, _, rfl, read⟩

theorem Gives.not_malformed {r : Route} (h : Gives item r) : ¬ Malformed SpellsTextOrNull item := by
  obtain ⟨entries, a, opened, names, -, described⟩ := h
  intro faulty
  rcases faulty.of_actionText opened names with
    absent | ⟨-, ⟨v, here, noText, noList⟩ | ⟨key, hkey, v, here, refused⟩⟩
  · obtain ⟨v, hasUri, -⟩ := described.uri
    cases absent.symm.trans hasUri
  · obtain ⟨texts, methods, -⟩ := described.methods
    cases methods with
    | absent absent => cases absent.symm.trans here
    | text here' opened' =>
      cases here.symm.trans here'
      exact noText _ opened'
    | list here' opened' =>
      cases here.symm.trans here'
      exact noList _ opened'
  · have host := described.host
    have name := described.name
    simp only [List.mem_cons, List.not_mem_nil, or_false] at hkey
    rcases hkey with rfl | rfl
    · exact refused (here ▸ host).takes
    · exact refused (here ▸ name).takes

theorem Yields.not_malformed {r : Option Route} (h : Yields item r) :
    ¬ Malformed SpellsTextOrNull item := by
  cases h with
  | nothing skipped => exact skipped.not_malformed
  | route given => exact given.not_malformed

end

/-! ### The items of a document -/

/-- The first malformed item of a list is told by its number, or the items give their routes. -/
theorem routesFrom_cases {its : List Value} (shown : ∀ item ∈ its, item.isShowable = true)
    (start : Nat) :
    (∃ before item behind, its = before ++ item :: behind ∧
        (∀ b ∈ before, ¬ Malformed SpellsTextOrNull b) ∧ Malformed SpellsTextOrNull item ∧
        ∃ failure, routesFrom start its = .error failure ∧
          failure.item? = some (start + before.length)) ∨
      (∀ item ∈ its, ¬ Malformed SpellsTextOrNull item) ∧
        ∃ rs, Reads its rs ∧ routesFrom start its = .ok rs := by
  induction its generalizing start with
  | nil => exact .inr ⟨nofun, [], .nil, rfl⟩
  | cons item its ih =>
    obtain ⟨first, rest⟩ := List.forall_mem_cons.mp shown
    rcases route?_cases first start with ⟨faulty, failure, told, about⟩ | ⟨r, yields, read⟩
    · refine .inl ⟨[], item, its, rfl, nofun, faulty, failure, ?_, about⟩
      simp only [routesFrom, told]
      rfl
    · rcases ih rest (start + 1) with
        ⟨before, bad, behind, rfl, earlier, faulty, failure, told, about⟩ |
        ⟨sound, rs, reads, whole⟩
      · refine .inl ⟨item :: before, bad, behind, rfl,
          List.forall_mem_cons.mpr ⟨yields.not_malformed, earlier⟩, faulty, failure, ?_, ?_⟩
        · simp only [routesFrom, read, told]
          rfl
        · rw [about, List.length_cons, Nat.add_assoc, Nat.add_comm 1]
      · refine .inr ⟨List.forall_mem_cons.mpr ⟨yields.not_malformed, sound⟩, _,
          .cons yields reads, ?_⟩
        simp only [routesFrom, read, whole]
        rfl

theorem Lists.isShowable_of_mem {v : Value} {its : List Value} (h : Lists v its)
    (shown : v.isShowable = true) : ∀ item ∈ its, item.isShowable = true := by
  have whole := Value.isShowable_opened shown
  cases h with
  | list opened =>
    rw [opened] at whole
    exact fun item here => Value.isShowable_of_mem whole here
  | nothing => exact nofun
  | underRoutes opened here listed =>
    rw [opened] at whole
    have inner := Value.isShowable_opened (Value.isShowable_of_get? whole here)
    rw [listed] at inner
    exact fun item here => Value.isShowable_of_mem inner here

theorem routes_of_lists {v : Value} {its : List Value} (h : Lists v its) (path : String) :
    routes path v = routesFrom 0 its := by
  rw [routes, items_of_lists h]
  rfl

theorem routes_of_not_lists {v : Value} (h : ∀ its, ¬ Lists v its) (path : String) :
    routes path v = .error (.manifestNotList path) := by
  rw [routes, items_of_not_lists h]
  rfl

/-! ### Documents with and without a malformed item -/

/-- There is one place where a list has its first element with a property. -/
theorem length_eq_of_first {α : Type} {P : α → Prop} {before before' behind behind' : List α}
    {a a' : α} (same : before ++ a :: behind = before' ++ a' :: behind')
    (without : ∀ b ∈ before, ¬ P b) (here : P a) (without' : ∀ b ∈ before', ¬ P b)
    (here' : P a') : before.length = before'.length := by
  rcases List.append_eq_append_iff.mp same with ⟨between, rfl, rest⟩ | ⟨between, rfl, rest⟩
  · cases between with
    | nil => rw [List.append_nil]
    | cons first between =>
      cases (List.cons.inj rest).1
      exact absurd here (without' a (by simp))
  · cases between with
    | nil => rw [List.append_nil]
    | cons first between =>
      cases (List.cons.inj rest).1
      exact absurd here' (without a' (by simp))

section
variable {v : Value} {path : String}

/-- Reading a document fails in no other way than by saying that the manifest cannot be read. -/
theorem routes_ok_or_isOfManifest (shown : v.isShowable = true) :
    (∃ rs, routes path v = .ok rs) ∨
      ∃ failure, routes path v = .error failure ∧ failure.isOfManifest = true := by
  by_cases listed : ∃ its, Lists v its
  · obtain ⟨its, listed⟩ := listed
    rw [routes_of_lists listed]
    rcases routesFrom_cases (listed.isShowable_of_mem shown) 0 with
      ⟨_, _, _, _, _, _, failure, told, about⟩ | ⟨-, rs, -, read⟩
    · exact .inr ⟨failure, told, Failure.isOfManifest_of_item? about⟩
    · exact .inl ⟨rs, read⟩
  · rw [routes_of_not_lists fun its h => listed ⟨its, h⟩]
    exact .inr ⟨_, rfl, rfl⟩

theorem routes_of_sound {its : List Value} (shown : v.isShowable = true) (listed : Lists v its)
    (sound : ∀ item ∈ its, ¬ Malformed SpellsTextOrNull item) :
    ∃ rs, routes path v = .ok rs ∧ Reads its rs := by
  rw [routes_of_lists listed]
  rcases routesFrom_cases (listed.isShowable_of_mem shown) 0 with
    ⟨before, item, behind, rfl, -, faulty, -⟩ | ⟨-, rs, reads, read⟩
  · exact absurd faulty (sound item (by simp))
  · exact ⟨rs, read, reads⟩

theorem routes_of_malformed {its : List Value} {item : Value} (shown : v.isShowable = true)
    (listed : Lists v its) (here : item ∈ its) (faulty : Malformed SpellsTextOrNull item) :
    ∃ failure, routes path v = .error failure := by
  rw [routes_of_lists listed]
  rcases routesFrom_cases (listed.isShowable_of_mem shown) 0 with
    ⟨_, _, _, _, _, _, failure, told, -⟩ | ⟨sound, -⟩
  · exact ⟨failure, told⟩
  · exact absurd faulty (sound item here)

theorem routes_fail_iff (shown : v.isShowable = true) :
    (∃ failure, routes path v = .error failure) ↔
      (∀ its, ¬ Lists v its) ∨
        ∃ its, Lists v its ∧ ∃ item ∈ its, Malformed SpellsTextOrNull item := by
  constructor
  · rintro ⟨failure, failed⟩
    by_cases listed : ∃ its, Lists v its
    · obtain ⟨its, listed⟩ := listed
      by_cases faulty : ∃ item ∈ its, Malformed SpellsTextOrNull item
      · exact .inr ⟨its, listed, faulty⟩
      · obtain ⟨rs, read, -⟩ := routes_of_sound shown listed fun item here bad =>
          faulty ⟨item, here, bad⟩
        cases failed.symm.trans read
    · exact .inl fun its h => listed ⟨its, h⟩
  · rintro (unlisted | ⟨its, listed, item, here, faulty⟩)
    · exact ⟨_, routes_of_not_lists unlisted path⟩
    · exact routes_of_malformed shown listed here faulty

/-- The first malformed item is told by its number. -/
theorem routes_of_first_malformed {before behind : List Value} {item : Value}
    (shown : v.isShowable = true) (listed : Lists v (before ++ item :: behind))
    (sound : ∀ b ∈ before, ¬ Malformed SpellsTextOrNull b)
    (faulty : Malformed SpellsTextOrNull item) :
    ∃ failure, routes path v = .error failure ∧ failure.item? = some before.length := by
  rw [routes_of_lists listed]
  rcases routesFrom_cases (listed.isShowable_of_mem shown) 0 with
    ⟨before', item', behind', same, sound', faulty', failure, told, about⟩ | ⟨all, -⟩
  · have position := length_eq_of_first same sound faulty sound' faulty'
    rw [Nat.zero_add, ← position] at about
    exact ⟨failure, told, about⟩
  · exact absurd faulty (all item (by simp))

end

/-- **A manifest gives its routes, or its first malformed item is told.** For every document in
which no number is too long to be written:

* reading it gives routes or a failure that says that the manifest cannot be read;
* it fails exactly if the document lists no items or one of them is malformed;
* the number in the failure is that of the first malformed item, counted over all items, and it
  stands at the start of the message;
* otherwise each item that is not skipped gives its route, in the order of the items, and of an item
  that is skipped nothing but its action and its URI counts;
* a file with that document gives the same, and a file that holds no document is told as such. -/
theorem routes_or_first_malformed_item (file : FilePath) (v : Value)
    (shown : v.isShowable = true) :
    ((∃ rs, routes file.text v = .ok rs) ∨
      ∃ failure, routes file.text v = .error failure ∧ failure.isOfManifest = true) ∧
    ((∃ failure, routes file.text v = .error failure) ↔
      (∀ its, ¬ Lists v its) ∨
        ∃ its, Lists v its ∧ ∃ item ∈ its, Malformed SpellsTextOrNull item) ∧
    (∀ before item behind, Lists v (before ++ item :: behind) →
      (∀ b ∈ before, ¬ Malformed SpellsTextOrNull b) → Malformed SpellsTextOrNull item →
      ∃ failure, routes file.text v = .error failure ∧ failure.item? = some before.length ∧
        ∃ rest, failure.message = "Route #" ++ toString before.length ++ rest ∧
          rest.toList.head? ∈ [some ' ', some ':']) ∧
    (∀ its, Lists v its → (∀ item ∈ its, ¬ Malformed SpellsTextOrNull item) →
      ∃ rs, routes file.text v = .ok rs ∧ Reads its rs) ∧
    ∀ disk : Disk,
      (disk.readDocument file (.manifestMalformed file.text) = .ok v →
        load disk file = routes file.text v) ∧
      ∀ text, disk.readText file = .ok text → Yaml.load text = .error .malformed →
        load disk file = .error (.manifestMalformed file.text) := by
  refine ⟨routes_ok_or_isOfManifest shown, routes_fail_iff shown, ?_, ?_, fun disk => ⟨?_, ?_⟩⟩
  · intro before item behind listed sound faulty
    obtain ⟨failure, told, about⟩ := routes_of_first_malformed shown listed sound faulty
    exact ⟨failure, told, about, Failure.message_of_item? about⟩
  · exact fun its listed sound => routes_of_sound shown listed sound
  · intro document
    rw [load, document]
    rfl
  · intro text readable malformed
    simp only [load, Disk.readDocument, readable, malformed]
    rfl

/-- An item that gives no route, although its methods are no list. -/
def closureItem : Value :=
  .mapping [(.text "uri", .int 5), (.text "action", .text "app.Closure@x"),
    (.text "methods", .bool true)]

/-- An item whose action gives a route and whose name is no text. -/
def namelessItem : Value :=
  .mapping [(.text "uri", .text "users"), (.text "action", .text "app.Users@show"),
    (.text "name", .bool true)]

/-- The number of a malformed item counts those that are skipped before it. -/
theorem nameless_item_is_second :
    (Value.list [closureItem, namelessItem]).isShowable = true ∧
      ∃ failure, routes "routes.yaml" (.list [closureItem, namelessItem]) = .error failure ∧
        failure.item? = some 1 := by
  have shown : (Value.list [closureItem, namelessItem]).isShowable = true := by decide +kernel
  have skipped : Skips closureItem :=
    ⟨_, "app.Closure@x", rfl, by simp, .text (by simp), by decide +kernel⟩
  have faulty : Malformed SpellsTextOrNull namelessItem :=
    .field rfl (.text (by simp)) (by decide +kernel : IsKept "app.Users@show") (by simp)
      (by simp : Value.get? "name" _ = some (.bool true)) (by simp [SpellsTextOrNull, IsTextOrNull])
  obtain ⟨-, -, first, -⟩ := routes_or_first_malformed_item ⟨false, ["routes.yaml"]⟩
    (.list [closureItem, namelessItem]) shown
  obtain ⟨failure, failed, about, -⟩ := first [closureItem] namelessItem [] (.list rfl)
    (by simpa using skipped.not_malformed) faulty
  have path : (⟨false, ["routes.yaml"]⟩ : FilePath).text = "routes.yaml" := by decide +kernel
  exact ⟨shown, failure, path ▸ failed, about⟩

/-- An item whose name is bytes. -/
def bytesItem : Value :=
  .mapping [(.text "uri", .text "users"), (.text "action", .text "app.Users@show"),
    (.text "name", .bytes [0x68, 0x69])]

/-- A name that is neither null nor a text need not be refused: bytes are read as the text that they
spell. -/
theorem bytes_are_read_as_text :
    Malformed IsTextOrNull bytesItem ∧
      routes "routes.yaml" (.list [bytesItem]) = .ok [{
        host := none, methods := ["GET", "HEAD"], uri := "users", name := some "hi",
        controller := "app.Users", className := "Users", action := "show" }] := by
  constructor
  · exact .field rfl (.text (by simp)) (by decide +kernel : IsKept "app.Users@show") (by simp)
      (by simp : Value.get? "name" _ = some (.bytes [0x68, 0x69])) (by simp [IsTextOrNull])
  · rfl

end Manifest
end RouteDocs
