import RouteDocs.Lookup.Import
import RouteDocs.Proofs.Module.Run

namespace RouteDocs.Module

/-- A decorator that makes a static method, or a class method. -/
inductive Mark where
  | static
  | ofClass
  deriving DecidableEq, Repr

namespace Mark

def object : Mark → Object
  | static => .library "staticmethod"
  | ofClass => .library "classmethod"

def wrap : Mark → Object → Object
  | static, o => .staticMethod o
  | ofClass, o => .classMethod o

/-- What decorators make of an object; the last is applied first. -/
def wrapAll (marks : List Mark) (o : Object) : Object := marks.foldr wrap o

/-- Whether what a class gives for a member with these decorators can be called: class methods are
opened until a static method has been, and what that holds must not be a class method. -/
def isReadable : List Mark → Bool
  | static :: ofClass :: _ => false
  | ofClass :: rest => isReadable rest
  | _ => true

theorem wrapAll_injective {marks : List Mark} {a b : Nat}
    (same : wrapAll marks (.entity a) = wrapAll marks (.entity b)) : a = b := by
  induction marks with
  | nil => exact Object.entity.inj same
  | cons mark rest ih =>
    cases mark with
    | static => exact ih (Object.staticMethod.inj same)
    | ofClass => exact ih (Object.classMethod.inj same)

end Mark

open Mark

/-! ### Decorating -/

section
variable (f : Frame) (w : World)

theorem gives_decorate (mark : Mark) (o : Object) :
    Gives (f.decorate mark.object o) w (mark.wrap o) w := by
  cases mark <;> with_unfolding_all exact rfl

theorem gives_decorateAll (marks : List Mark) (o : Object) :
    Gives (f.decorateAll (marks.map Mark.object) o) w (wrapAll marks o) w := by
  induction marks with
  | nil => exact gives_pure _ _
  | cons mark rest ih => exact ih.bind (gives_decorate f w mark (wrapAll rest o))

end

/-! ### Reading -/

section
variable (h : Hooks) {w : World} {function : Nat} (made : (w.function? function).isSome = true)
include made

theorem kind?_of_function : ∃ f, w.kind? function = some (.function f) := by
  unfold World.function? at made
  split at made
  · next f kind => exact ⟨f, kind⟩
  · cases made

theorem isCallable_wrapAll (marks : List Mark) :
    w.isCallable (wrapAll marks (.entity function)) = (marks.head? != some .ofClass) := by
  obtain ⟨f, kind⟩ := kind?_of_function made
  match marks with
  | [] => simp [wrapAll, World.isCallable, kind]
  | static :: rest => rfl
  | ofClass :: rest => rfl

theorem special?_wrapAll (marks : List Mark) (name : String) :
    w.special? (wrapAll marks (.entity function)) name = none := by
  obtain ⟨f, kind⟩ := kind?_of_function made
  match marks with
  | [] => simp [wrapAll, World.special?, World.ownClass?, kind]
  | static :: rest => rfl
  | ofClass :: rest => rfl

variable {doc : Object} (here : w.member? function "__doc__" = some doc)
include here

/-- The documentation of a function is read through its decorators. -/
theorem gives_plainMember?_doc (marks : List Mark) :
    Gives (Object.plainMember? h "__doc__" (wrapAll marks (.entity function))) w (some doc) w := by
  obtain ⟨f, kind⟩ := kind?_of_function made
  induction marks with
  | nil =>
    have field : Gives (Object.functionField f function "__doc__") w doc w := by
      rw [Object.functionField, gives_get_bind_iff]
      simp only [here]
      exact gives_pure _ _
    show Gives (Object.plainMember? h "__doc__" (.entity function)) w (some doc) w
    rw [Object.plainMember?, gives_get_bind_iff]
    simp only [kind]
    rw [if_pos (by decide)]
    exact field.bind (gives_pure _ _)
  | cons mark rest ih =>
    cases mark with
    | static =>
      show Gives (Object.plainMember? h "__doc__" (.staticMethod (wrapAll rest _))) w (some doc) w
      rw [Object.plainMember?, if_neg (by decide), if_pos (by decide)]
      exact ih
    | ofClass =>
      show Gives (Object.plainMember? h "__doc__" (.classMethod (wrapAll rest _))) w (some doc) w
      rw [Object.plainMember?, if_neg (by decide), if_pos (by decide)]
      exact ih

/-- The object can be called exactly if the decorators allow it, and has the documentation. -/
structure Offers (h : Hooks) (w : World) (marks : List Mark) (doc o : Object) : Prop where
  callable : w.isCallable o = isReadable marks
  unhooked : w.special? o "__getattribute__" = none
  documented : Gives (Object.plainMember? h "__doc__" o) w (some doc) w

theorem offers_ofClassMethod (c : Object) (marks : List Mark) :
    ∃ o, Gives (Object.ofClassMethod h c (wrapAll marks (.entity function))) w o w ∧
      Offers h w (.ofClass :: marks) doc o := by
  induction marks with
  | nil =>
    refine ⟨.bound (.entity function) c, gives_pure _ _, rfl, rfl, ?_⟩
    rw [Object.plainMember?, if_neg (by decide), if_neg (by decide), if_neg (by decide)]
    exact gives_plainMember?_doc h made here []
  | cons mark rest ih =>
    cases mark with
    | static =>
      refine ⟨wrapAll rest (.entity function), gives_pure _ _, ?_,
        special?_wrapAll made rest _, gives_plainMember?_doc h made here rest⟩
      rw [isCallable_wrapAll made]
      match rest with
      | [] => rfl
      | static :: _ => rfl
      | ofClass :: _ => rfl
    | ofClass =>
      obtain ⟨o, given, offers⟩ := ih
      exact ⟨o, given, offers.callable.trans (by simp [isReadable]), offers.unhooked,
        offers.documented⟩

/-- What a class gives for a function with decorators. -/
theorem offers_ofClass (c : Object) (marks : List Mark) :
    ∃ o, Gives (Object.ofClass h c (wrapAll marks (.entity function))) w o w ∧
      Offers h w marks doc o := by
  obtain ⟨f, kind⟩ := kind?_of_function made
  match marks with
  | [] =>
    refine ⟨.entity function, ?_, isCallable_wrapAll made [], special?_wrapAll made [] _,
      gives_plainMember?_doc h made here []⟩
    show Gives (Object.ofClass h c (.entity function)) w _ w
    rw [Object.ofClass, gives_get_bind_iff]
    simp only [kind]
    exact gives_pure _ _
  | static :: rest =>
    refine ⟨wrapAll rest (.entity function), gives_pure _ _, ?_, special?_wrapAll made rest _,
      gives_plainMember?_doc h made here rest⟩
    rw [isCallable_wrapAll made]
    match rest with
    | [] => rfl
    | static :: _ => rfl
    | ofClass :: _ => rfl
  | ofClass :: rest => exact offers_ofClassMethod h made here c rest

end

/-! ### Documentations -/

theorem gives_member? {h : Hooks} {o : Object} {name : String} {w : World} {member : Object}
    (unhooked : w.special? o "__getattribute__" = none)
    (direct : Gives (Object.plainMember? h name o) w (some member) w) :
    Gives (o.member? h name) w (some member) w := by
  rw [Object.member?, gives_get_bind_iff]
  simp only [unhooked]
  exact (direct.tryCatch _).bind (gives_pure _ _)

/-- A documentation as it is read: one that is empty counts for none, and from any other the margin of
its lines is taken off. -/
def readDoc? (doc : Option String) : Option String := (doc.filter (· ≠ "")).map Text.dedent

theorem gives_truth_text (h : Hooks) (w : World) (s : String) :
    Gives (Object.truth h (.text s)) w (! s.isEmpty) w := rfl

/-- The documentation of an object that has a text or none. -/
theorem Offers.gives_docOf? {h : Hooks} {w : World} {marks : List Mark} {doc : Option String}
    {o : Object} (offers : Offers h w marks (Object.ofOption doc) o) :
    Gives (LoadedModules.docOf? h o) w (readDoc? doc) w := by
  have read : Gives (o.member h "__doc__") w (Object.ofOption doc) w :=
    (gives_member? offers.unhooked offers.documented).bind (gives_pure _ _)
  refine read.bind ?_
  cases doc with
  | none => exact gives_pure _ _
  | some s =>
    refine (gives_truth_text h w s).bind ?_
    by_cases empty : s = ""
    · subst empty
      exact gives_pure _ _
    · have full : (! s.isEmpty) = true := by simpa using empty
      have dedented : Gives (LoadedModules.dedented (.text s)) w (some (Text.dedent s)) w := rfl
      have told : readDoc? (some s) = some (Text.dedent s) := by
        simp [readDoc?, Option.filter_some, empty]
      rw [full, told]
      exact dedented

/-! ### Actions of a class -/

theorem kind?_of_class {w : World} {id : Nat} {c : Class} (isClass : w.class? id = some c) :
    w.kind? id = some (.class_ c) := by
  unfold World.class? at isClass
  split at isClass
  · next c' kind =>
    cases isClass
    exact kind
  · cases isClass

/-- The class has the object under the name of the action, from itself or from a class above it, and
neither the class of the class nor any class above that has a say in reading it. -/
structure FindsAction (w : World) (id : Nat) (action : String) (o : Object) (c : Class) : Prop where
  kind : w.class? id = some c
  found : w.find? (.own id) action = some (.own o)
  unhooked : w.special? (.entity id) "__getattribute__" = none
  uncovered : ∀ m ∈ w.find? c.meta_ action, Object.isDataMember w m = false

theorem FindsAction.gives_memberOrNone {h : Hooks} {w : World} {id : Nat} {action : String}
    {o r : Object} {c : Class} (finds : FindsAction w id action o c)
    (given : Gives (Object.ofClass h (.entity id) o) w r w) :
    Gives ((Object.entity id).memberOrNone h action) w (some r) w := by
  have kind := kind?_of_class finds.kind
  have below : (w.find? c.meta_ action).filter (Object.isDataMember w) = none :=
    Option.filter_eq_none_iff.mpr fun m here => by simp [finds.uncovered m here]
  have read : Gives (Object.classMember? h (.own id) c.meta_ action) w (some r) w := by
    rw [Object.classMember?, gives_get_bind_iff]
    simp only [below, finds.found]
    exact Gives.bind (x := Object.ofClassMember h (.entity id) (.entity id) true action (.own o))
      given (gives_pure _ _)
  refine (gives_member? finds.unhooked ?_).tryCatch _
  rw [Object.plainMember?, gives_get_bind_iff]
  simp only [kind]
  exact read

/-- The class has the object as its own member under the name of the action, and neither the class of
the class nor any class above it has a say in reading it. -/
structure OwnsAction (w : World) (id : Nat) (action : String) (o : Object) (c : Class) : Prop where
  kind : w.class? id = some c
  first : c.order.head? = some (.own id)
  own : w.member? id action = some o
  unhooked : w.special? (.entity id) "__getattribute__" = none
  uncovered : ∀ m ∈ w.find? c.meta_ action, Object.isDataMember w m = false

theorem OwnsAction.finds {w : World} {id : Nat} {action : String} {o : Object} {c : Class}
    (owns : OwnsAction w id action o c) : FindsAction w id action o c where
  kind := owns.kind
  found := by
    obtain ⟨rest, order⟩ := List.head?_eq_some_iff.mp owns.first
    simp [World.find?, World.order, owns.kind, order, World.findInOrder, World.ownMember?, owns.own]
  unhooked := owns.unhooked
  uncovered := owns.uncovered

theorem ne_doc_of_unreserved {name : String} (unreserved : "__".isPrefixOf name = false) :
    name ≠ "__doc__" := by
  rintro rfl
  exact absurd unreserved (by decide +kernel)

/-- Of the members of `type`, only those go before the members of a class whose names are reserved. -/
theorem isDataMember_of_type (w : World) {name : String}
    (unreserved : "__".isPrefixOf name = false) :
    ∀ m ∈ w.find? (.library "type") name, Object.isDataMember w m = false := by
  have order : Library.order "type" = ["type", "object"] := by decide +kernel
  have fields : ∀ path ∈ ["type", "object"],
      ∀ m ∈ ((Library.class? path).map Library.ClassInfo.members).getD [],
        m.kind = .field → "__".isPrefixOf m.name = true := by
    decide +kernel
  intro m here
  simp only [World.find?, World.findInOrder, World.order, order] at here
  cases found : (["type", "object"].map ClassRef.library).findSome? (w.ownMember? name) with
  | none =>
    -- a class of which not all is known could have any member
    simp only [found] at here
    split at here
    · cases here
      rfl
    · cases here
  | some m' =>
    simp only [found, Option.mem_def, Option.some.injEq] at here
    subst here
    obtain ⟨c, among, own⟩ := List.exists_of_findSome?_eq_some found
    obtain ⟨path, known, rfl⟩ := List.mem_map.mp among
    simp only [World.ownMember?, ne_doc_of_unreserved unreserved, if_false,
      Option.map_eq_some_iff] at own
    obtain ⟨member, ownMember, rfl⟩ := own
    obtain ⟨info, isClass, listed⟩ := Option.bind_eq_some_iff.mp ownMember
    obtain rfl : member.name = name := by simpa using List.find?_some listed
    have inside := List.mem_of_find?_eq_some listed
    cases kind : member.kind with
    | field =>
      rw [fields path known member (by simpa [isClass] using inside) kind] at unreserved
      cases unreserved
    | _ => rfl

/-- A class that is of class `type` has the action as it is in the class. -/
theorem OwnsAction.of_type {w : World} {id : Nat} {action : String} {o : Object} {c : Class}
    (kind : w.class? id = some c) (usual : c.meta_ = .library "type")
    (first : c.order.head? = some (.own id)) (own : w.member? id action = some o)
    (unreserved : "__".isPrefixOf action = false) : OwnsAction w id action o c where
  kind := kind
  first := first
  own := own
  unhooked := by
    obtain ⟨name, qualified, bases, order, meta_⟩ := c
    obtain rfl : meta_ = .library "type" := usual
    simp [World.special?, World.ownClass?, kind?_of_class kind]
  uncovered := usual ▸ isDataMember_of_type w unreserved

/-- The module has a class under a name, which has the object as its own action. -/
structure HasAction (w : World) (module : Nat) (className action : String) (o : Object) :
    Prop where
  isModule : ∃ name places, w.kind? module = some (.module name places)
  hasClass : ∃ id c, w.member? module className = some (.entity id) ∧ OwnsAction w id action o c

/-! ### The documentation of an action -/

section
variable {h : Hooks} {w : World} {module id : Nat} {className action : String} {c : Class}
variable {doc : Option String}

theorem gives_memberOrNone_of_module {o : Object}
    (isModule : ∃ name places, w.kind? module = some (.module name places))
    (bound : w.member? module className = some o) :
    Gives ((Object.entity module).memberOrNone h className) w (some o) w := by
  obtain ⟨name, places, isModule⟩ := isModule
  have unhooked : w.special? (.entity module) "__getattribute__" = none := by
    simp [World.special?, World.ownClass?, isModule]
  refine (gives_member? unhooked ?_).tryCatch _
  rw [Object.plainMember?, gives_get_bind_iff]
  simp only [isModule, bound]
  exact gives_pure _ _

variable (isModule : ∃ name places, w.kind? module = some (.module name places))
variable (bound : w.member? module className = some (.entity id))
include isModule bound

/-- The documentation is that of what the class has under the action's name. -/
theorem gives_actionDoc?_of_read {found : Option Object} (isClass : w.class? id = some c)
    (read : Gives ((Object.entity id).memberOrNone h action) w found w)
    (told : Gives (match found with
      | none => pure none
      | some o => if w.isCallable o then LoadedModules.docOf? h o else pure none) w doc w) :
    Gives (LoadedModules.actionDoc? h (.entity module) className action) w doc w := by
  refine (gives_memberOrNone_of_module isModule bound).bind ?_
  dsimp only
  rw [gives_get_bind_iff]
  have classy : (w.classRef? (.entity id)).isNone = false := by simp [World.classRef?, isClass]
  rw [classy, if_neg Bool.false_ne_true]
  refine read.bind ?_
  cases found with
  | none => exact told
  | some o =>
    dsimp only
    rw [gives_get_bind_iff]
    exact told

/-- An action that the class does not have has no documentation. -/
theorem gives_actionDoc?_of_none (isClass : w.class? id = some c)
    (read : Gives ((Object.entity id).memberOrNone h action) w none w) :
    Gives (LoadedModules.actionDoc? h (.entity module) className action) w none w :=
  gives_actionDoc?_of_read isModule bound isClass read (gives_pure _ _)

/-- One that it has is asked for its documentation if it can be called. -/
theorem gives_actionDoc?_of_some {o : Object} (isClass : w.class? id = some c)
    (read : Gives ((Object.entity id).memberOrNone h action) w (some o) w)
    (told : Gives (if w.isCallable o then LoadedModules.docOf? h o else pure none) w doc w) :
    Gives (LoadedModules.actionDoc? h (.entity module) className action) w doc w :=
  gives_actionDoc?_of_read isModule bound isClass read told

/-- The documentation of an action that a class of a module has from a function with decorators. -/
theorem FindsAction.gives_actionDoc? {function : Nat} {marks : List Mark}
    (finds : FindsAction w id action (wrapAll marks (.entity function)) c)
    (made : (w.function? function).isSome = true)
    (here : w.member? function "__doc__" = some (Object.ofOption doc)) :
    Gives (LoadedModules.actionDoc? h (.entity module) className action) w
      (if isReadable marks then readDoc? doc else none) w := by
  obtain ⟨o, given, offers⟩ := offers_ofClass h made here (.entity id) marks
  refine gives_actionDoc?_of_some isModule bound finds.kind (finds.gives_memberOrNone given) ?_
  rw [offers.callable]
  cases isReadable marks with
  | false => exact gives_pure _ _
  | true => exact offers.gives_docOf?

end

/-- The documentation of an action that a class of a module has by itself from such a function. -/
theorem HasAction.gives_actionDoc? (h : Hooks) {w : World} {module function : Nat}
    {className action : String} {marks : List Mark} {doc : Option String}
    (has : HasAction w module className action (wrapAll marks (.entity function)))
    (made : (w.function? function).isSome = true)
    (here : w.member? function "__doc__" = some (Object.ofOption doc)) :
    Gives (LoadedModules.actionDoc? h (.entity module) className action) w
      (if isReadable marks then readDoc? doc else none) w := by
  obtain ⟨isModule, id, c, bound, owns⟩ := has
  exact owns.finds.gives_actionDoc? isModule bound made here

end RouteDocs.Module
