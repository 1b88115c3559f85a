import RouteDocs.Module.Load
import RouteDocs.Proofs.Module.Run
import RouteDocs.Proofs.Text.Separator

namespace RouteDocs.Module

/-- The exception says that there is no module of a name. -/
structure SaysMissing (w : World) (e : Object) (name : String) : Prop where
  entity : ∃ id arguments, e = .entity id ∧ w.entity? id = some
    ⟨.instance_ (.library "ModuleNotFoundError") (.tuple arguments), .ofList [("name", .text name)]⟩

theorem World.entity?_add (w : World) (e : Entity) : (w.add e).2.entity? (w.add e).1 = some e := by
  simp [add, entity?]

theorem fails_failToFind {α : Type} (name : String) (w : World) :
    ∃ e w', Fails (failToFind name : Run α) w e w' ∧ SaysMissing w' e name := by
  let raised : Entity :=
    ⟨.instance_ (.library "ModuleNotFoundError")
      (.tuple [.text ("No module named '" ++ name ++ "'")]), .ofList [("name", .text name)]⟩
  exact ⟨.entity (w.add raised).1, (w.add raised).2, rfl, ⟨_, _, rfl, w.entity?_add raised⟩⟩

namespace SaysMissing
variable {w : World} {e : Object} {name : String} (told : SaysMissing w e name)
include told

theorem classOf : w.classOf e = .library "ModuleNotFoundError" := by
  obtain ⟨id, arguments, rfl, entity⟩ := told.entity
  simp [World.classOf, World.kind?, entity, World.kindClass]

theorem order : w.order (w.classOf e) =
    ["ModuleNotFoundError", "ImportError", "Exception", "BaseException", "object"].map .library := by
  have order : Library.order "ModuleNotFoundError" =
      ["ModuleNotFoundError", "ImportError", "Exception", "BaseException", "object"] := by
    decide +kernel
  rw [told.classOf, World.order, order]

theorem gives_plea? (h : Hooks) : Gives (Refusal.plea? h e) w none w := by
  rw [Refusal.plea?, gives_get_bind_iff]
  simp only [World.isBelow, told.order]
  rw [if_neg (by decide), if_neg (by decide), if_neg (by decide), if_neg (by decide +kernel)]
  exact gives_pure _ _

theorem find?_name : w.find? (w.classOf e) "name" = some (.library "ImportError.name" .field) := by
  have first : Library.ownMember? "ModuleNotFoundError" "name" = none := by decide +kernel
  have second : (Library.ownMember? "ImportError" "name").map Library.Member.kind = some .field := by
    decide +kernel
  obtain ⟨m, found, kind⟩ := Option.map_eq_some_iff.mp second
  have doc : ("name" : String) ≠ "__doc__" := by decide
  simp only [World.find?, World.findInOrder, told.order, List.map_cons, List.findSome?_cons,
    World.ownMember?, if_neg doc, first, found, Option.map_none, Option.map_some, kind]
  rfl

theorem gives_field : Gives (e.field "name") w (.text name) w := by
  have order := told.order
  obtain ⟨id, arguments, rfl, entity⟩ := told.entity
  have kind : w.kind? id = some (.instance_ (.library "ModuleNotFoundError") (.tuple arguments)) := by
    simp [World.kind?, entity]
  have here : w.member? id "name" = some (.text name) := by
    simp [World.member?, entity]
    rfl
  rw [told.classOf] at order
  have exception : w.isException (.library "ModuleNotFoundError") = true := by
    simp [World.isException, World.isBelow, order]
  have read : Gives (Object.exceptionField id arguments "name") w (.text name) w := by
    unfold Object.exceptionField
    rw [gives_get_bind_iff]
    simp only [here]
    exact gives_pure _ _
  rw [Object.field, gives_get_bind_iff]
  split
  · next reserved => exact absurd reserved (by decide)
  · simpa only [kind, exception, if_true] using read

theorem gives_name (h : Hooks) : Gives (e.memberOrNone h "name") w (some (.text name)) w := by
  have read : Gives (e.member? h "name") w (some (.text name)) w := by
    have find := told.find?_name
    have field := told.gives_field
    obtain ⟨id, arguments, rfl, entity⟩ := told.entity
    have kind : w.kind? id =
        some (.instance_ (.library "ModuleNotFoundError") (.tuple arguments)) := by
      simp [World.kind?, entity]
    have special (other : String) : w.special? (.entity id) other = none := by
      simp [World.special?, World.ownClass?, kind]
    have direct : Gives (Object.plainMember? h "name" (.entity id)) w (some (.text name)) w := by
      rw [Object.plainMember?, gives_get_bind_iff]
      simp only [kind]
      rw [Object.instanceMember?, gives_get_bind_iff]
      simp only [find, Option.filter, Object.isDataMember, if_true]
      exact field.bind (gives_pure _ _)
    rw [Object.member?, gives_get_bind_iff]
    simp only [special]
    exact (direct.tryCatch _).bind (gives_pure _ _)
  exact read.tryCatch _

theorem gives_raised (h : Hooks) :
    Gives (Exception.raised h e) w ⟨"ModuleNotFoundError", .moduleMissing (some name)⟩ w := by
  rw [Exception.raised, gives_get_bind_iff]
  have isMissing : w.isInstance e (.library "ModuleNotFoundError") = true := by
    simp [World.isInstance, World.isBelow, told.order]
  have className : Object.className w e = "ModuleNotFoundError" := by
    rw [Object.className, told.classOf]
    exact (by decide +kernel : (Text.cutLast '.' "ModuleNotFoundError").2 = "ModuleNotFoundError")
  refine (told.gives_plea? h).bind ?_
  simp only [isMissing, if_true]
  refine (told.gives_name h).bind ?_
  rw [className]
  exact gives_pure _ _

end SaysMissing

/-- The name of the module with these segments, the last first. -/
def moduleName (segments : List String) : String := ".".intercalate segments.reverse

theorem moduleName_singleton (name : String) : moduleName [name] = name := by
  simp [moduleName]

variable (disk : Disk) (h : Hooks)

/-- Nothing is found of a module in its package: the package has no places for modules, or the module
is in none of them. -/
def NotIn (w : World) (parent : Object) (name last : String) : Prop :=
  match parent with
  | .library path => Library.isModule path = false ∨ Library.isModule name = false
  | parent => ∃ places w', Gives (placesOf h parent) w places w' ∧
      ∀ searched ∈ places, disk.findModule? last searched = none

/-- The module with these segments, the last first, is not loaded in the world, and cannot be. What
has been put in its place forbids it, or nothing is found of it, or of a package around it. The
packages around it that are found are loaded first, and may change the world. -/
inductive Absent (w : World) : List String → Prop where
  | forbidden {last : String} {outer : List String}
      (here : w.modules.find? (moduleName (last :: outer)) = some .null) : Absent w (last :: outer)
  | top {name : String} (unloaded : w.modules.find? name = none)
      (other : Library.core.contains name = false)
      (nowhere : disk.findModule? name w.places = none)
      (foreign : Library.isModule name = false) : Absent w [name]
  | package {last : String} {outer : List String} (inside : outer ≠ [])
      (unloaded : w.modules.find? (moduleName (last :: outer)) = none) (missing : Absent w outer) :
      Absent w (last :: outer)
  | child {w' : World} {last : String} {outer : List String} {parent : Object}
      (inside : outer ≠ []) (unloaded : w.modules.find? (moduleName (last :: outer)) = none)
      (loads : Gives (loadSegments disk h outer) w parent w')
      (still : w'.modules.find? (moduleName (last :: outer)) = none)
      (nowhere : NotIn disk h w' parent (moduleName (last :: outer)) last) :
      Absent w (last :: outer)

variable {disk} {h}

/-- The exception of a step says that the module of a name is missing. -/
def FailsToFind {α : Type} (x : Run α) (w : World) (name : String) : Prop :=
  ∃ e w', Fails x w e w' ∧ SaysMissing w' e name

theorem gives_loaded?_none {w : World} {name : String} (unloaded : w.modules.find? name = none) :
    Gives (loaded? name) w none w := by
  rw [loaded?, gives_get_bind_iff]
  simp only [unloaded]
  exact gives_pure _ _

theorem failsToFind_of_bind {α β : Type} {x : Run α} {f : α → Run β} {w w' : World} {a : α}
    {name : String} (first : Gives x w a w') (next : FailsToFind (f a) w' name) :
    FailsToFind (x >>= f) w name := by
  obtain ⟨e, w'', raised, told⟩ := next
  exact ⟨e, w'', first.bind_fails raised, told⟩

theorem failsToFind_loadTop {w : World} {name : String}
    (other : Library.core.contains name = false)
    (nowhere : disk.findModule? name w.places = none)
    (foreign : Library.isModule name = false) : FailsToFind (loadTop disk h name) w name := by
  rw [loadTop, other, if_neg Bool.false_ne_true]
  apply failsToFind_of_bind (gives_get w)
  simp only [nowhere, loadLibrary, foreign, Bool.false_eq_true, if_false]
  exact fails_failToFind name w

theorem failsToFind_loadFrom {w w' : World} {parent : Object} {name last : String}
    {places : Option (List FilePath)} (given : Gives (placesOf h parent) w places w')
    (none_here : ∀ searched ∈ places, disk.findModule? last searched = none) :
    FailsToFind (loadFrom disk h parent name last) w name := by
  apply failsToFind_of_bind given
  cases places with
  | none => exact fails_failToFind name w'
  | some searched =>
    simp only [none_here searched rfl]
    exact fails_failToFind name w'

theorem failsToFind_loadChild {w : World} {parent : Object} {name last : String}
    (nowhere : NotIn disk h w parent name last) :
    FailsToFind (loadChild disk h parent name last) w name := by
  cases parent with
  | library path =>
    rw [loadChild]
    cases known : Library.isModule path with
    | false => exact fails_failToFind name w
    | true =>
      have foreign : Library.isModule name = false := by simpa [NotIn, known] using nowhere
      simp only [loadLibrary, foreign, if_true, Bool.false_eq_true, if_false]
      exact fails_failToFind name w
  | _ =>
    obtain ⟨places, w', given, none_here⟩ := nowhere
    exact failsToFind_loadFrom given none_here

/-- Loading a module that cannot be found raises that it, or a package around it, is missing. -/
theorem fails_of_absent {w : World} {segments : List String} (absent : Absent disk h w segments) :
    ∃ outer, outer <:+ segments ∧ outer ≠ [] ∧
      FailsToFind (loadSegments disk h segments) w (moduleName outer) := by
  induction absent with
  | @forbidden last outer here =>
    refine ⟨_, List.suffix_refl _, List.cons_ne_nil last outer, ?_⟩
    have forbids : FailsToFind (loaded? (moduleName (last :: outer))) w
        (moduleName (last :: outer)) := by
      apply failsToFind_of_bind (gives_get w)
      simp only [here]
      exact fails_failToFind _ w
    obtain ⟨e, w', raised, told⟩ := forbids
    exact ⟨e, w', raised.bind, told⟩
  | @top name unloaded other nowhere foreign =>
    refine ⟨_, List.suffix_refl _, List.cons_ne_nil name [], ?_⟩
    have alone : moduleName [name] = name := moduleName_singleton name
    have none_loaded : Gives (loaded? (moduleName [name])) w none w :=
      gives_loaded?_none (alone ▸ unloaded)
    refine failsToFind_of_bind none_loaded ?_
    simp only [List.isEmpty_nil, if_true]
    rw [← moduleName, alone]
    exact failsToFind_loadTop other nowhere foreign
  | @package last outer inside unloaded missing ih =>
    obtain ⟨found, suffix, nonempty, e, w', raised, told⟩ := ih
    refine ⟨found, suffix.trans (List.suffix_cons last outer), nonempty, ?_⟩
    refine failsToFind_of_bind (gives_loaded?_none unloaded) ?_
    simp only [List.isEmpty_eq_false_iff.mpr inside, Bool.false_eq_true, if_false]
    exact ⟨e, w', raised.bind, told⟩
  | @child w' last outer parent inside unloaded loads still nowhere =>
    refine ⟨_, List.suffix_refl _, List.cons_ne_nil last outer, ?_⟩
    refine failsToFind_of_bind (gives_loaded?_none unloaded) ?_
    simp only [List.isEmpty_eq_false_iff.mpr inside, Bool.false_eq_true, if_false]
    refine failsToFind_of_bind loads (failsToFind_of_bind (gives_get w') ?_)
    rw [← moduleName, still]
    exact failsToFind_loadChild nowhere

end RouteDocs.Module
