import RouteDocs.Proofs.Module.Marks

namespace RouteDocs.Module

variable {w : World} {name action : String} {order : List ClassRef} {o : Object}

theorem memberInOrder?_eq_none_iff :
    w.memberInOrder? name order = none ↔ ∀ j, .own j ∈ order → w.member? j name = none := by
  rw [World.memberInOrder?, List.findSome?_eq_none_iff]
  constructor
  · intro unbound j among
    exact unbound (.own j) among
  · intro unbound r among
    cases r with
    | own j => exact unbound j among
    | library path => rfl

/-- The first class of an order that binds a name decides what the order binds it to. -/
theorem memberInOrder?_of_first {before behind : List ClassRef} {k : Nat}
    (unbound : ∀ j, .own j ∈ before → w.member? j name = none) (bound : w.member? k name = some o) :
    w.memberInOrder? name (before ++ .own k :: behind) = some o := by
  have passed := memberInOrder?_eq_none_iff.mpr unbound
  rw [World.memberInOrder?] at passed ⊢
  simp [List.findSome?_append, passed, bound]

/-- Where the classes of the library in an order have no member of a name, it has what modules have
bound. -/
theorem findSome?_ownMember? (library : ∀ path, .library path ∈ order →
      w.ownMember? name (.library path) = none) :
    order.findSome? (w.ownMember? name) = (w.memberInOrder? name order).map .own := by
  induction order with
  | nil => rfl
  | cons r order ih =>
    have later := ih fun path among => library path (List.mem_cons_of_mem _ among)
    cases r with
    | own j =>
      rw [World.memberInOrder?] at later ⊢
      cases own : w.member? j name with
      | some o => simp [World.ownMember?, own]
      | none => simpa [World.ownMember?, own] using later
    | library path =>
      rw [World.memberInOrder?] at later ⊢
      simpa [library path List.mem_cons_self] using later

theorem findInOrder_of_own (library : ∀ path, .library path ∈ order →
      w.ownMember? name (.library path) = none) (bound : w.memberInOrder? name order = some o) :
    w.findInOrder name order = some (.own o) := by
  simp [World.findInOrder, findSome?_ownMember? library, bound]

theorem findInOrder_of_none (library : ∀ path, .library path ∈ order →
      w.ownMember? name (.library path) = none) (unbound : w.memberInOrder? name order = none) :
    w.findInOrder name order = if order.any World.isOpen then some .unknown else none := by
  simp [World.findInOrder, findSome?_ownMember? library, unbound]

/-- Only modules bind members that are objects of theirs, documentations apart. -/
theorem memberInOrder?_ne_none_of_own (ordinary : name ≠ "__doc__")
    (found : w.findInOrder name order = some (.own o)) : w.memberInOrder? name order ≠ none := by
  intro unbound
  rw [World.findInOrder] at found
  split at found
  · next m first =>
    cases found
    obtain ⟨r, among, own⟩ := List.exists_of_findSome?_eq_some first
    cases r with
    | own j => simp [World.ownMember?, memberInOrder?_eq_none_iff.mp unbound j among] at own
    | library path => simp [World.ownMember?, ordinary] at own
  · split at found <;> cases found

/-- Of the members of `type` and `object`, all but one have reserved names. -/
theorem ownMember?_of_basic {path : String} (basic : path = "type" ∨ path = "object")
    (unreserved : "__".isPrefixOf name = false) (other : name ≠ "mro") :
    w.ownMember? name (.library path) = none := by
  have reserved : ∀ path ∈ ["type", "object"],
      ∀ m ∈ ((Library.class? path).map Library.ClassInfo.members).getD [],
        "__".isPrefixOf m.name = true ∨ m.name = "mro" := by
    decide +kernel
  have absent : Library.ownMember? path name = none := by
    refine Option.eq_none_iff_forall_ne_some.mpr fun m own => ?_
    obtain ⟨info, isClass, listed⟩ := Option.bind_eq_some_iff.mp own
    have inside := List.mem_of_find?_eq_some listed
    obtain rfl : m.name = name := by simpa using List.find?_some listed
    rcases reserved path (by simpa using basic) m (by simpa [isClass] using inside) with yes | same
    · rw [yes] at unreserved
      cases unreserved
    · exact other same
  simp [World.ownMember?, ne_doc_of_unreserved unreserved, absent]

/-- A class of which not all is known has no member that is known. -/
theorem ownMember?_of_isOpen {path : String} (isOpen : World.isOpen (.library path) = true)
    (ordinary : name ≠ "__doc__") : w.ownMember? name (.library path) = none := by
  have absent : Library.ownMember? path name = none := by
    rw [Library.ownMember?]
    rw [World.isOpen] at isOpen
    cases known : Library.class? path with
    | none => rfl
    | some info =>
      simp only [known, Bool.and_eq_true, List.isEmpty_iff] at isOpen
      simp [isOpen.1]
  simp [World.ownMember?, ordinary, absent]

/-- The classes of the order have no say in how their instances, which are classes, read an action:
none of those that modules have built binds the action or what takes part in reading members, and the
others are those that all classes of classes have above them, or such that not all is known of them. -/
structure IsSilent (w : World) (action : String) (order : List ClassRef) : Prop where
  own : ∀ name ∈ [action, "__getattribute__", "__getattr__"], w.memberInOrder? name order = none
  library : ∀ path, .library path ∈ order →
    (path = "type" ∨ path = "object") ∨ World.isOpen (.library path) = true

theorem isSilent_type (w : World) (action : String) :
    IsSilent w action (w.order (.library "type")) := by
  have order : w.order (.library "type") = [.library "type", .library "object"] := by
    have paths : Library.order "type" = ["type", "object"] := by decide +kernel
    simp [World.order, paths]
  rw [order]
  exact ⟨fun _ _ => rfl, by simp⟩

/-- A silent order has the action only if not all of its classes are known. -/
theorem IsSilent.findInOrder (silent : IsSilent w action order)
    (unreserved : "__".isPrefixOf action = false) (other : action ≠ "mro") :
    w.findInOrder action order = if order.any World.isOpen then some .unknown else none := by
  refine findInOrder_of_none (fun path among => ?_) (silent.own action List.mem_cons_self)
  rcases silent.library path among with basic | isOpen
  · exact ownMember?_of_basic basic unreserved other
  · exact ownMember?_of_isOpen isOpen (ne_doc_of_unreserved unreserved)

section
variable {id : Nat} {c : Class} (isClass : w.class? id = some c)
variable (silent : IsSilent w action (w.order c.meta_))
include isClass silent

theorem special?_of_silent (among : name ∈ ["__getattribute__", "__getattr__"]) :
    w.special? (.entity id) name = none := by
  have ordinary : name ≠ "__doc__" := by
    rintro rfl
    simp at among
  have unbound := silent.own name (List.mem_cons_of_mem _ among)
  rw [World.special?]
  cases meta_ : c.meta_ with
  | library path =>
    obtain ⟨_, _, _, _, _⟩ := c
    obtain rfl := meta_
    simp [World.ownClass?, kind?_of_class isClass]
  | own k =>
    have ofClass : w.ownClass? (.entity id) = some (.own k) := by
      obtain ⟨_, _, _, _, _⟩ := c
      obtain rfl := meta_
      simp [World.ownClass?, kind?_of_class isClass]
    simp only [ofClass]
    split
    · next f found =>
      exact absurd (meta_ ▸ unbound) (memberInOrder?_ne_none_of_own ordinary found)
    · rfl

variable (unreserved : "__".isPrefixOf action = false) (other : action ≠ "mro")
include unreserved other

variable (hierarchy : ∀ path, .library path ∈ c.order → path = "object")
include hierarchy

/-- A class has what the first class of its order that binds the action has. -/
theorem findsAction_of_silent (bound : w.memberInOrder? action c.order = some o) :
    FindsAction w id action o c where
  kind := isClass
  found := by
    rw [World.find?, World.order, isClass]
    exact findInOrder_of_own (fun path among =>
      ownMember?_of_basic (.inr (hierarchy path among)) unreserved other) bound
  unhooked := special?_of_silent isClass silent List.mem_cons_self
  uncovered := by
    intro m here
    rw [World.find?, silent.findInOrder unreserved other] at here
    split at here <;> cases here
    rfl

/-- A class whose order does not bind the action, and of whose own class all is known, has none. -/
theorem gives_memberOrNone_of_silent (h : Hooks)
    (unbound : w.memberInOrder? action c.order = none)
    (known : (w.order c.meta_).any World.isOpen = false) :
    Gives ((Object.entity id).memberOrNone h action) w none w := by
  have below : w.find? c.meta_ action = none := by
    rw [World.find?, silent.findInOrder unreserved other, known, if_neg Bool.false_ne_true]
  have closed : c.order.any World.isOpen = false := by
    refine List.any_eq_false.mpr fun r among => ?_
    cases r with
    | own j => simp [World.isOpen]
    | library path =>
      rw [hierarchy path among]
      decide +kernel
  have absent : w.find? (.own id) action = none := by
    rw [World.find?, World.order, isClass]
    refine (findInOrder_of_none (fun path among =>
      ownMember?_of_basic (.inr (hierarchy path among)) unreserved other) unbound).trans ?_
    rw [closed, if_neg Bool.false_ne_true]
  have read : Gives (Object.plainMember? h action (.entity id)) w none w := by
    rw [Object.plainMember?, gives_get_bind_iff]
    simp only [kind?_of_class isClass]
    rw [Object.classMember?, gives_get_bind_iff]
    simp only [below, absent]
    exact gives_pure _ _
  have unhooked := special?_of_silent isClass silent List.mem_cons_self
  -- nothing stands in for what has not been found
  have unreplaced : Object.substitute? w (.entity id) = none := by
    simp [Object.substitute?, kind?_of_class isClass, special?_of_silent isClass silent]
  refine Gives.tryCatch ?_ _
  rw [Object.member?, gives_get_bind_iff]
  simp only [unhooked]
  refine (read.tryCatch _).bind ?_
  dsimp only
  rw [gives_get_bind_iff, unreplaced]
  exact gives_pure _ _

end

/-- An object that cannot be called, and that classes give as it is. -/
structure IsInert (w : World) (o : Object) : Prop where
  uncallable : w.isCallable o = false
  plain : ∀ function, o ≠ .classMethod function
  unread : w.special? o "__get__" = none

theorem gives_ofClass_of_inert (h : Hooks) (c : Object) (inert : IsInert w o) :
    Gives (Object.ofClass h c o) w o w := by
  cases o with
  | staticMethod function => exact absurd inert.uncallable (by simp [World.isCallable])
  | classMethod function => exact absurd rfl (inert.plain function)
  | entity id =>
    rw [Object.ofClass, gives_get_bind_iff]
    split
    · simp only [inert.unread]
      exact gives_pure _ _
    · exact gives_pure _ _
  | _ => exact gives_pure _ _

example (getter setter deleter doc : Object) : IsInert w (.property getter setter deleter doc) :=
  ⟨rfl, nofun, rfl⟩

end RouteDocs.Module
