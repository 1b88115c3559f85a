import RouteDocs.Proofs.Agreement
import RouteDocs.Proofs.Module.Inheritance

/-!
# The documentation of actions that are inherited

* `LoadedModules.IsLoaded`: the module of a controller is loaded, and has a class under its name;
* `IsDefined`: a class has an action from a definition that has run in its body;
* `LoadedModules.first_binding_decides`: the first class in the order of a class that binds an action
  decides on its documentation;
* `LoadedModules.first_binding_may_not_decide`: classes where others have a say.
-/

namespace RouteDocs
open RouteDocs.Module

namespace Module

/-- The class `k` has an action from a definition with these decorators, which make static and class
methods, and this body. The definition has run in the body of the class, from the world `before` to
`behind`, and is in effect in the world `final`: what it has bound there is what the class has, and is
still a function with the documentation that it had. -/
inductive IsDefined (final : World) (k : Nat) (action : String) (marks : List Mark)
    (body : List Statement) : Prop where
  | intro {f : Frame} {head : Head} {decorators : List Expr} {before u behind : World}
      (name : f.nameOf head.name = action) (place : f.placeOf action = k)
      (decorated : Gives (f.values decorators) before (marks.map Mark.object) u)
      (defined : Gives (f.run (.function head decorators body)) before .done behind)
      (bound : final.member? k action = behind.member? k action)
      (kept : ∀ function, final.member? k action = some (Mark.wrapAll marks (.entity function)) →
        (final.function? function).isSome = true ∧
          final.member? function "__doc__" = behind.member? function "__doc__")

/-- What the class has is then a function with the documentation at the start of that body. -/
theorem IsDefined.exists_function {final : World} {k : Nat} {action : String} {marks : List Mark}
    {body : List Statement} {o : Object} (isDefined : IsDefined final k action marks body)
    (unreserved : "__".isPrefixOf action = false) (here : final.member? k action = some o) :
    ∃ function, o = Mark.wrapAll marks (.entity function) ∧
      (final.function? function).isSome = true ∧
      final.member? function "__doc__" = some (Object.ofOption (docstring? body)) := by
  obtain ⟨name, place, decorated, defined, bound, kept⟩ := isDefined
  obtain ⟨function, w, doc, rfl⟩ := Frame.of_function decorated defined
  have apart := (ne_doc_of_unreserved unreserved).symm
  rw [name, place] at bound kept
  obtain rfl := eq_of_member?_setMember (bound.symm.trans here)
  obtain ⟨made, kept⟩ := kept function here
  refine ⟨function, rfl, made, ?_⟩
  rw [kept, member?_setMember_of_ne apart, doc]

end Module

namespace LoadedModules

/-- The module of a controller is loaded from the world `w`. In the world `w'` that this leaves, it has
a class under the name of the controller's class. -/
structure IsLoaded (disk : Disk) (controller : String) (w w' : World) (module id : Nat)
    (c : Module.Class) : Prop where
  inModule : (Controller.split controller).1 ≠ ""
  absolute : (Controller.split controller).1.toList.head? ≠ some '.'
  loads : Gives ((hooks disk).load (Controller.split controller).1) w (.entity module) w'
  isModule : ∃ name places, w'.kind? module = some (.module name places)
  bound : w'.member? module (Controller.split controller).2 = some (.entity id)
  isClass : w'.class? id = some c

variable {disk : Disk} {controller action : String} {w w' : World} {module id : Nat} {c : Module.Class}
variable {doc : Option String}

/-- The look-up tells the documentation that the action of the class has. -/
theorem IsLoaded.doc_lookup (loaded : IsLoaded disk controller w w' module id c)
    (named : action ≠ "") (answer : Gives (actionDoc? (hooks disk) (.entity module)
      (Controller.split controller).2 action) w' doc w') :
    (lookup disk w controller action).doc = .ok doc :=
  doc_lookup_of_loads loaded.inModule named loaded.absolute loaded.loads answer

/-- **The first class that binds an action decides on its documentation.** The classes in the order of
a class are those of modules, and `object`, and the class of the class is silent. If the first class
that binds the action has it from a definition, the documentation is that of this very definition, and
none if it has none, whatever the classes behind have; nor is there any if what the class gives cannot
be called, since a static method holds a class method. If that class has the action from something
else that cannot be called, there is none, and none either if no class of the order binds the action. -/
theorem first_binding_decides (loaded : IsLoaded disk controller w w' module id c)
    (named : action ≠ "") (unreserved : "__".isPrefixOf action = false) (other : action ≠ "mro")
    (hierarchy : ∀ path, .library path ∈ c.order → path = "object")
    (silent : IsSilent w' action (w'.order c.meta_)) :
    (∀ before k behind o, c.order = before ++ .own k :: behind →
      (∀ j, .own j ∈ before → w'.member? j action = none) → w'.member? k action = some o →
      (∀ marks body, IsDefined w' k action marks body → (lookup disk w controller action).doc =
        .ok (if Mark.isReadable marks then readDoc? (docstring? body) else none)) ∧
      (IsInert w' o → (lookup disk w controller action).doc = .ok none)) ∧
    ((∀ j, .own j ∈ c.order → w'.member? j action = none) →
      (w'.order c.meta_).any World.isOpen = false →
      (lookup disk w controller action).doc = .ok none) := by
  refine ⟨fun before k behind o order unbound here => ?_, fun unbound known => ?_⟩
  · have first : w'.memberInOrder? action c.order = some o :=
      order ▸ memberInOrder?_of_first unbound here
    have finds : FindsAction w' id action o c :=
      findsAction_of_silent loaded.isClass silent unreserved other hierarchy first
    refine ⟨fun marks body isDefined => ?_, fun inert => ?_⟩
    · obtain ⟨function, rfl, made, doc⟩ := isDefined.exists_function unreserved here
      exact loaded.doc_lookup named (finds.gives_actionDoc? loaded.isModule loaded.bound made doc)
    · have read := finds.gives_memberOrNone (gives_ofClass_of_inert (hooks disk) (.entity id) inert)
      refine loaded.doc_lookup named
        (gives_actionDoc?_of_some loaded.isModule loaded.bound loaded.isClass read ?_)
      rw [inert.uncallable, if_neg Bool.false_ne_true]
      exact gives_pure _ _
  · refine loaded.doc_lookup named
      (gives_actionDoc?_of_none loaded.isModule loaded.bound loaded.isClass ?_)
    exact gives_memberOrNone_of_silent loaded.isClass silent unreserved other hierarchy (hooks disk)
      (memberInOrder?_eq_none_iff.mpr unbound) known

/-- A disk with a module of four classes. The last is based on two that both have the first above them,
and the second of these defines the action again. -/
def diamondDisk : Disk := diskOf [(["c.py"],
  "class A:\n def m(self):\n  'a'\nclass B(A):\n pass\n" ++
    "class D(A):\n def m(self):\n  'd'\nclass C(B, D):\n pass\n")]

def diamondSource : ActionSource where
  before := [
    .class_ "A" [] [] [] [.function moduleSource.head [] [.expression (.text "a")]],
    .class_ "B" [] [.name "A"] [] [.pass]]
  className := "D"
  bases := [.name "A"]
  named := []
  innerBefore := []
  head := moduleSource.head
  decorators := []
  body := [.expression (.text "d")]
  innerAfter := []
  after := [.class_ "C" [] [.name "B", .name "D"] [] [.pass]]

/-- What loading the module needs from outside of it. -/
def diamondHooks : Hooks := hooksWithin diamondDisk (maxCalls - 1)

def diamondBefore : World :=
  ((diamondSource.reach diamondDisk diamondHooks "c" "c" [.ofText "."]).run bareWorld).2

def diamondFrame : Frame := diamondSource.frame diamondHooks 5 9

def diamondRun : Run Signal := diamondFrame.run (.function moduleSource.head [] diamondSource.body)

def diamondBehind : World := (diamondRun.run diamondBefore).2

def diamondFinal : World := (((hooks diamondDisk).load "c").run bareWorld).2

/-- What these worlds hold: the last class and those above it, and what the definition has bound in one
of them. -/
theorem diamond_worlds :
    (((hooks diamondDisk).load "c").run bareWorld).1.toOption = some (.entity 5) ∧
    (diamondFinal.kind? 5).any isModuleKind = true ∧
    diamondFinal.member? 5 "C" = some (.entity 11) ∧
    (diamondFinal.class? 11).map (fun c => (c.meta_, c.order)) =
      some (.library "type", [.own 11, .own 8, .own 9, .own 6, .library "object"]) ∧
    diamondFinal.member? 11 "m" = none ∧
    diamondFinal.member? 8 "m" = none ∧
    diamondFinal.member? 9 "m" = some (.entity 10) ∧
    diamondBehind.member? 9 "m" = some (.entity 10) ∧
    (diamondFinal.function? 10).isSome = true ∧
    diamondFinal.member? 10 "__doc__" = diamondBehind.member? 10 "__doc__" ∧
    (diamondRun.run diamondBefore).1.toOption = some .done := by
  decide +kernel

/-- The class above that is nearer in the order decides, and not the one that is reached first. -/
theorem first_binding_decides_in_diamond :
    (∃ c, diamondFinal.class? 11 = some c ∧ c.order =
      [.own 11, .own 8] ++ .own 9 :: [.own 6, .library "object"]) ∧
    IsDefined diamondFinal 9 "m" [] diamondSource.body ∧
    (lookup diamondDisk bareWorld "c.C" "m").doc = .ok (some "d") := by
  obtain ⟨loads, isModule, bound, shape, noC, noB, here, made, isFunction, doc, ran⟩ :=
    diamond_worlds
  obtain ⟨c, isClass, parts⟩ := Option.map_eq_some_iff.mp shape
  obtain ⟨usual, order⟩ := Prod.mk.inj parts
  have ofModule : (Controller.split "c.C").1 = "c" := by decide +kernel
  have ofClass : (Controller.split "c.C").2 = "C" := by decide +kernel
  have loaded : IsLoaded diamondDisk "c.C" bareWorld diamondFinal 5 11 c := by
    refine ⟨by simp [ofModule], by simp [ofModule], ?_, exists_of_isModuleKind isModule, ?_,
      isClass⟩
    · rw [ofModule, diamondFinal]
      exact gives_of_toOption loads
    · rw [ofClass]
      exact bound
  have kept (function : Nat) (same : diamondFinal.member? 9 "m" = some (.entity function)) :
      (diamondFinal.function? function).isSome = true ∧
        diamondFinal.member? function "__doc__" = diamondBehind.member? function "__doc__" := by
    obtain rfl : 10 = function := Object.entity.inj (Option.some.inj (here.symm.trans same))
    exact ⟨isFunction, doc⟩
  have isDefined : IsDefined diamondFinal 9 "m" [] diamondSource.body :=
    .intro (f := diamondFrame) rfl rfl (gives_pure _ _) (gives_of_toOption ran)
      (here.trans made.symm) kept
  have hierarchy : ∀ path, .library path ∈ c.order → path = "object" := by simp [order]
  have silent : IsSilent diamondFinal "m" (diamondFinal.order c.meta_) := usual ▸ isSilent_type _ _
  have unbound : ∀ j, .own j ∈ [ClassRef.own 11, .own 8] → diamondFinal.member? j "m" = none := by
    simp [noC, noB]
  have decided := (first_binding_decides loaded (by decide) (by decide +kernel) (by decide) hierarchy
    silent).1 _ 9 _ _ order unbound here
  have read : readDoc? (some "d") = some "d" := by decide +kernel
  exact ⟨⟨c, isClass, order⟩, isDefined, (decided.1 [] _ isDefined).trans (congrArg _ read)⟩

/-- The documentation that an action of several controllers has, where one is looked up after the
other. -/
def docsOf (disk : Disk) (action : String) : World → List String → List (Option (Option String))
  | _, [] => []
  | w, controller :: rest =>
    let found := lookup disk w controller action
    found.doc.toOption :: docsOf disk action found.state rest

/-- A disk with a module of such classes. -/
def disturbedDisk : Disk := diskOf [(["c.py"],
  "class M(type):\n def m(cls):\n  'd'\nclass C(metaclass=M):\n pass\n" ++
    "class D:\n def m(self):\n  'd'\nclass S(D):\n __slots__ = 'm'\n")]

/-- The class of a class has the action that no class of the order binds. And a class has a slot in place
of the definition that the first class with one in its body has. -/
theorem first_binding_may_not_decide :
    docsOf disturbedDisk "m" bareWorld ["c.C", "c.S"] = [some (some "d"), some none] := by
  decide +kernel

end LoadedModules
end RouteDocs
