import RouteDocs.Proofs.Manifest
import RouteDocs.Proofs.Text.Separator

/-!
# Writing a manifest

* `Manifest.item`: a route as an item of a manifest, its methods in either style;
* `Manifest.Writable`: the routes that an item can hold;
* `Manifest.handler_controller_at_action`, `Manifest.methodTexts_itemEntries`: how the action and
  the methods are read back;
* `Manifest.routes_of_written`: a document with these items gives the routes back.
-/

namespace RouteDocs.Manifest

/-- How the methods of a route are written: as a list, or as one text with bars between them. -/
inductive MethodStyle where
  | listed
  | joined
  deriving DecidableEq, Repr

def MethodStyle.write : MethodStyle → List String → Value
  | .listed, methods => .list (methods.map .text)
  | .joined, methods => .text ("|".intercalate methods)

/-- A text as a value, or null without one. -/
def optionalValue (s : Option String) : Value := (s.map .text).getD .null

/-- The entries of a route as an item of a manifest. -/
def itemEntries (style : MethodStyle) (r : Route) : List (Value × Value) := [
  (.text "methods", style.write r.methods),
  (.text "uri", .text r.uri),
  (.text "domain", optionalValue r.host),
  (.text "name", optionalValue r.name),
  (.text "action", .text (r.controller ++ "@" ++ r.action))]

def item (style : MethodStyle) (r : Route) : Value := .mapping (itemEntries style r)

/-- A route that an item can hold: the name of the class is the last part of the controller, and not
that of a closure, no controller is without a name or with an `@` in it, and the methods are in
capitals. The action can be any text. -/
structure Writable (r : Route) : Prop where
  named : r.controller ≠ ""
  clear : '@' ∉ r.controller.toList
  last : '.' ∉ r.className.toList
  className : r.controller = r.className ∨ ∃ lead, r.controller = lead ++ "." ++ r.className
  kept : r.className ≠ closure
  upper : ∀ m ∈ r.methods, Text.upper m = m

/-- Methods that can be written in a style: those that are joined are at least one, and none has a
bar in it. -/
def MethodStyle.Fits : MethodStyle → List String → Prop
  | .listed, _ => True
  | .joined, methods => methods ≠ [] ∧ ∀ m ∈ methods, '|' ∉ m.toList

section
variable {r : Route} {style : MethodStyle}

/-- The action of an item names the controller, the class and the action of the route. -/
theorem handler_controller_at_action (h : Writable r) :
    handler (r.controller ++ "@" ++ r.action) = (r.controller, r.className, r.action) := by
  have cut : Text.cut '@' (r.controller ++ "@" ++ r.action) = (r.controller, r.action) :=
    Text.cut_append h.clear r.action
  have last : (Text.cutLast '.' r.controller).2 = r.className := by
    rcases h.className with whole | ⟨lead, parts⟩
    · rw [Text.cutLast_eq_self (whole ▸ h.last), whole]
    · have split : Text.cutLast '.' (lead ++ "." ++ r.className) = (lead, r.className) :=
        Text.cutLast_append h.last lead
      rw [parts, split]
  simp only [handler, cut, last]

theorem isKept_controller_at_action (h : Writable r) :
    IsKept (r.controller ++ "@" ++ r.action) := by
  rw [IsKept, handler_controller_at_action h]
  exact ⟨h.named, h.kept⟩

/-- The methods of an item are read back in either style. -/
theorem methodTexts_itemEntries (fits : style.Fits r.methods) (index : Nat) :
    methodTexts index (itemEntries style r) = .ok r.methods := by
  have written : Value.get? "methods" (itemEntries style r) = some (style.write r.methods) := by
    simp [itemEntries]
  have read : (r.methods.map Value.text).mapM textOf = .ok r.methods := by
    rw [mapM_textOf (by simp [Value.isShowable]), List.map_map]
    simp [Function.comp_def, Value.plain]
  cases style with
  | listed =>
    simp only [methodTexts, methods, written, Option.map_some, MethodStyle.write, Value.opened]
    exact read
  | joined =>
    obtain ⟨full, clear⟩ := fits
    have parts : Text.splitAt '|' ("|".intercalate r.methods) = r.methods :=
      Text.splitAt_intercalate full clear
    simp only [methodTexts, methods, written, Option.map_some, MethodStyle.write, Value.opened,
      parts]
    exact read

theorem optionalText_optionalValue (name : String) (s : Option String) :
    Field.optionalText false name (some (optionalValue s)) = .ok s := by
  cases s <;> rfl

/-- An item gives its route back. -/
theorem route?_item (h : Writable r) (fits : style.Fits r.methods) (index : Nat) :
    route? index (item style r) = .ok (some r) := by
  have names : ActionText (itemEntries style r) (r.controller ++ "@" ++ r.action) :=
    .text (by simp [itemEntries])
  have hasUri : Value.get? "uri" (itemEntries style r) = some (.text r.uri) := by
    simp [itemEntries]
  have host : Field.optionalText false "host" (Value.get? "domain" (itemEntries style r)) =
      .ok r.host := by
    simp [itemEntries, optionalText_optionalValue]
  have name : Field.optionalText false "name" (Value.get? "name" (itemEntries style r)) =
      .ok r.name := by
    simp [itemEntries, optionalText_optionalValue]
  have capitals : r.methods.map Text.upper = r.methods := by
    rw [List.map_congr_left h.upper, List.map_id']
  rw [route?_of_action rfl hasUri (action_of_actionText names index),
    if_pos (isKept_controller_at_action h),
    keptRoute_of_fields (methodTexts_itemEntries fits index) rfl host name,
    handler_controller_at_action h, capitals]
  rfl

end

theorem routesFrom_items {written : List (MethodStyle × Route)}
    (h : ∀ w ∈ written, Writable w.2 ∧ w.1.Fits w.2.methods) (start : Nat) :
    routesFrom start (written.map fun w => item w.1 w.2) = .ok (written.map Prod.snd) := by
  induction written generalizing start with
  | nil => rfl
  | cons w written ih =>
    obtain ⟨⟨writable, fits⟩, rest⟩ := List.forall_mem_cons.mp h
    simp only [List.map_cons, routesFrom, route?_item writable fits, ih rest]
    rfl

/-- **A manifest gives back the routes that it was written from.** The items stand in a list, or
under `routes` in a mapping, and each route has its methods in a style of its own. -/
theorem routes_of_written (path : String) (written : List (MethodStyle × Route))
    (h : ∀ w ∈ written, Writable w.2 ∧ w.1.Fits w.2.methods) :
    routes path (.list (written.map fun w => item w.1 w.2)) = .ok (written.map Prod.snd) ∧
    ∀ entries,
      Value.get? "routes" entries = some (.list (written.map fun w => item w.1 w.2)) →
      routes path (.mapping entries) = .ok (written.map Prod.snd) := by
  constructor
  · rw [routes_of_lists (.list rfl), routesFrom_items h]
  · intro entries here
    rw [routes_of_lists (.underRoutes rfl here rfl), routesFrom_items h]

/-- A route whose controller has no lead, and whose action has an `@`. -/
def oddRoute : Route where
  host := none
  methods := ["GET", "HEAD"]
  uri := "users"
  name := some "users"
  controller := "Users"
  className := "Users"
  action := "show@all"

/-- A route without methods and with an empty action. -/
def bareRoute : Route where
  host := some "example.org"
  methods := []
  uri := ""
  name := none
  controller := "app.Users"
  className := "Users"
  action := ""

theorem routes_of_odd_and_bare :
    routes "routes.yaml" (.mapping [(.text "routes", .list [
      item .joined oddRoute, item .listed bareRoute])]) = .ok [oddRoute, bareRoute] := by
  have odd : Writable oddRoute :=
    ⟨by decide, by decide, by decide, .inl rfl, by decide, by decide +kernel⟩
  have bare : Writable bareRoute :=
    ⟨by decide, by decide, by decide, .inr ⟨"app", by decide⟩, by decide, by decide +kernel⟩
  have all := routes_of_written "routes.yaml" [(.joined, oddRoute), (.listed, bareRoute)]
    (List.forall_mem_cons.mpr ⟨⟨odd, by decide, by decide⟩,
      List.forall_mem_cons.mpr ⟨⟨bare, trivial⟩, nofun⟩⟩)
  exact all.2 _ (by simp)

end RouteDocs.Manifest
