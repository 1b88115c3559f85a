import RouteDocs.Proofs.Module.Definition
import RouteDocs.Proofs.Unresolvable

/-!
# What source files and loaded modules say

* `IsSource`: the file and the statements in it that define an action;
* `Imported`: a load of the module that runs this file;
* `Stays`: what the definition has bound is what is read;
* `lookups_agree`: the look-up in source files and the one in loaded modules find the same
  documentation, but for its margin;
* `lookups_can_differ`: modules about which they do not agree.
-/

namespace RouteDocs
open RouteDocs.Module

/-- The action of a controller is defined in a file below a directory: it is the only file of the
module there, its bytes declare no encoding, and in its statements the class and the definition in it
are the first of their names. -/
structure IsSource (disk : Disk) (root : FilePath) (controller action : String) (file : FilePath)
    (s : ActionSource) : Prop where
  only : SourceTree.IsOnlyFile disk root (Controller.split controller).1 file
  plain : ∀ content, disk.readBytes file = .ok content → IsPlain content
  read : SourceTree.read disk file = .ok s.module
  ofClass : s.className = (Controller.split controller).2
  ofAction : s.head.name = action
  named : action ≠ ""
  unreserved : "__".isPrefixOf action = false
  first : s.IsFirst

/-- The module with these segments, the last first, is loaded in the world `w`, where it is not loaded
yet. The places in which it is searched for start with its directory below the root, and the packages
around it leave the world `w'`. -/
structure Imported (disk : Disk) (root : FilePath) (h : Hooks) (last : String)
    (outer : List String) (places : List FilePath) (w w' : World) : Prop where
  sought : Sought disk h w (last :: outer) places w'
  first : places.head? = some (SourceTree.directoryOf root outer)
  loads : ∃ o w'', Gives (loadSegments disk h (last :: outer)) w o w''

/-- What a definition has bound is what is read. The definition leads from the world `before` to
`behind`, and `final` is the one in which the look-up reads.

* the decorators are those that make static and class methods, and the name is bound in the class;
* in the end the module has the class with this very action, and the function with the documentation
  that it had. -/
structure Stays (s : ActionSource) (h : Hooks) (marks : List Mark) (module scope function : Nat)
    (before behind final : World) : Prop where
  decorated : ∃ w, Gives ((s.frame h module scope).values s.decorators) before
    (marks.map Mark.object) w
  place : (s.frame h module scope).placeOf s.head.name = scope
  bound : behind.member? scope s.head.name = some (Mark.wrapAll marks (.entity function))
  has : HasAction final module s.className s.head.name (Mark.wrapAll marks (.entity function))
  made : (final.function? function).isSome = true
  doc : final.member? function "__doc__" = behind.member? function "__doc__"

variable {disk : Disk} {root file : FilePath} {controller action : String} {s : ActionSource}

namespace IsSource
variable (source : IsSource disk root controller action file s)
include source

theorem module_ne_empty : (Controller.split controller).1 ≠ "" := by
  intro empty
  have parts : Text.splitAt '.' "" = [""] := rfl
  exact (source.only.segments "" (by rw [empty, parts]; exact List.mem_singleton_self "")).1 rfl

theorem head?_module : (Controller.split controller).1.toList.head? ≠ some '.' := by
  intro start
  have blank : "" ∈ Text.splitAt '.' (Controller.split controller).1 := by
    obtain ⟨cs, shape⟩ := List.head?_eq_some_iff.mp start
    rw [Text.splitAt, shape, Text.pieces_cons_of_mark rfl]
    exact List.mem_cons_self
  exact (source.only.segments "" blank).1 rfl

/-- The look-up in source files reads the documentation at the start of the function's body. -/
theorem doc_lookup {cache : SourceTree.Cache}
    (cached : ∀ body ∈ cache.find? file, SourceTree.read disk file = .ok body) :
    (SourceTree.lookup disk root cache controller action).doc = .ok (docstring? s.body) := by
  rw [SourceTree.doc_lookup_of_read source.module_ne_empty source.named source.only.found source.read
    cached, ← source.ofClass, ← source.ofAction]
  exact congrArg Except.ok (ActionSource.documentation?_module source.first)

end IsSource

/-- At the end the function has the documentation at the start of its body. -/
theorem Stays.member?_doc {h : Hooks} {marks : List Mark} {module scope function : Nat}
    {before behind final : World} (unreserved : "__".isPrefixOf s.head.name = false)
    (stays : Stays s h marks module scope function before behind final)
    (defined : Gives ((s.frame h module scope).run s.definition) before .done behind) :
    final.member? function "__doc__" = some (Object.ofOption (docstring? s.body)) := by
  obtain ⟨w, decorated⟩ := stays.decorated
  obtain ⟨function', u, doc, rfl⟩ := Frame.of_function decorated defined
  have name : (s.frame h module scope).nameOf s.head.name = s.head.name := by
    simp [Frame.nameOf, privateName, unreserved]
  have bound := stays.bound
  rw [name, stays.place] at bound
  obtain rfl : function = function' :=
    Mark.wrapAll_injective (eq_of_member?_setMember bound)
  have apart := (ne_doc_of_unreserved unreserved).symm
  rw [stays.doc, name, member?_setMember_of_ne apart, doc]

/-- **Both look-ups find the same documentation.** The module is imported from its only file below
the root, by the look-up itself or by a module before it. Wherever the definition leads, the look-up
gets the module that has run, and what the definition has bound stays. Then the documentation in loaded
modules is that in the source without its margin, where an empty one counts for none; and there is none
if what the class gives cannot be called, since a static method holds a class method. -/
theorem lookups_agree {h : Hooks} {last : String} {outer : List String} {places : List FilePath}
    {w₀ w₁ w w' : World} {o : Object} (cache : SourceTree.Cache) (marks : List Mark)
    (source : IsSource disk root controller action file s)
    (cached : ∀ body ∈ cache.find? file, SourceTree.read disk file = .ok body)
    (parts : (Text.splitAt '.' (Controller.split controller).1).reverse = last :: outer)
    (imported : Imported disk root h last outer places w₀ w₁)
    (loads : Gives ((hooks disk).load (Controller.split controller).1) w o w')
    (stays : ∀ module scope before behind,
      Gives (s.reach disk h (moduleName (last :: outer)) last places) w₁ (module, scope) before →
      Gives ((s.frame h module scope).run s.definition) before .done behind →
      o = .entity module ∧ ∃ function, Stays s h marks module scope function before behind w') :
    (SourceTree.lookup disk root cache controller action).doc = .ok (docstring? s.body) ∧
    (LoadedModules.lookup disk w controller action).doc =
      .ok (if Mark.isReadable marks then readDoc? (docstring? s.body) else none) := by
  refine ⟨source.doc_lookup cached, ?_⟩
  obtain ⟨package, here⟩ := source.only.findIn parts
  obtain ⟨o₂, w₂, loadsFile⟩ := imported.loads
  obtain ⟨module, scope, before, behind, reached, defined⟩ :=
    ActionSource.exists_reach imported.sought (findModule?_of_findIn imported.first here)
      source.plain source.read loadsFile
  obtain ⟨rfl, function, stayed⟩ := stays module scope before behind reached defined
  have unreserved : "__".isPrefixOf s.head.name = false := source.ofAction ▸ source.unreserved
  have answer := stayed.has.gives_actionDoc? (hooks disk) stayed.made
    (stayed.member?_doc unreserved defined)
  rw [source.ofClass, source.ofAction] at answer
  exact LoadedModules.doc_lookup_of_loads source.module_ne_empty source.named source.head?_module loads
    answer

def diskOf (files : List (Place × String)) : Disk :=
  ⟨files.foldl (fun t (place, text) => t.plant (some text.toUTF8) place) (.directory []), []⟩

def moduleDisk : Disk := diskOf [(["c.py"], "class C:\n def m(self):\n  'd'\n")]

/-- The statements of the module. -/
def moduleSource : ActionSource where
  before := []
  className := "C"
  bases := []
  named := []
  innerBefore := []
  head := ⟨"m", false, ⟨["self"], 0, none, [], none⟩, [], []⟩
  decorators := []
  body := [.expression (.text "d")]
  innerAfter := []
  after := []

def moduleHooks : Hooks := hooksWithin moduleDisk (maxCalls - 1)

/-- Whether what has been read are the statements of the module. -/
def areModuleSource : Except Trouble (List Statement) → Bool
  | .ok [.class_ "C" [] [] [] [.function ⟨"m", false, ⟨["self"], 0, none, [], none⟩, [], []⟩ []
      [.expression (.text "d")]]] => true
  | _ => false

theorem eq_of_areModuleSource {read : Except Trouble (List Statement)}
    (same : areModuleSource read = true) : read = .ok moduleSource.module := by
  unfold areModuleSource at same
  split at same
  · rfl
  · cases same

theorem read_moduleDisk :
    SourceTree.read moduleDisk (.ofText "c.py") = .ok moduleSource.module :=
  eq_of_areModuleSource (by decide +kernel)

theorem isSource_module :
    IsSource moduleDisk (.ofText ".") "c.C" "m" (.ofText "c.py") moduleSource := by
  have split : Controller.split "c.C" = ("c", "C") := by decide +kernel
  have bytes : moduleDisk.readBytes (.ofText "c.py") =
      .ok "class C:\n def m(self):\n  'd'\n".toUTF8 := rfl
  refine ⟨⟨?_, ?_, ?_⟩, ?_, read_moduleDisk, ?_, rfl, by decide, by decide +kernel, ⟨rfl, rfl⟩⟩
  · rw [split]
    have parts : Text.splitAt '.' "c" = ["c"] := by decide +kernel
    simp [parts, SourceTree.IsSegment]
  · rw [split]
    rfl
  · rw [split]
    decide +kernel
  · rintro content here
    rw [bytes] at here
    cases here
    exact ⟨by decide +kernel, by decide +kernel⟩
  · rw [split]
    rfl

def reachModule : Run (Nat × Nat) := moduleSource.reach moduleDisk moduleHooks "c" "c" [.ofText "."]

def moduleBefore : World := (reachModule.run bareWorld).2

def moduleBehind : World :=
  (((moduleSource.frame moduleHooks 5 6).run moduleSource.definition).run moduleBefore).2

def moduleFinal : World := (((hooks moduleDisk).load "c").run bareWorld).2

/-- Whether an entity of this kind is a module. -/
def isModuleKind : Kind → Bool
  | .module .. => true
  | _ => false

theorem exists_of_isModuleKind {w : World} {id : Nat}
    (isModule : (w.kind? id).any isModuleKind = true) :
    ∃ name places, w.kind? id = some (.module name places) := by
  obtain ⟨kind, given, fine⟩ := (Option.any_eq_true _ _).mp isModule
  cases kind with
  | module name places => exact ⟨name, places, given⟩
  | _ => cases fine

/-- Where loading the module leads, and what these worlds hold of the class and the action. -/
theorem module_worlds :
    (((hooks moduleDisk).load "c").run bareWorld).1.toOption = some (.entity 5) ∧
    (moduleFinal.kind? 5).any isModuleKind = true ∧
    moduleFinal.member? 5 "C" = some (.entity 6) ∧
    (moduleFinal.class? 6).map (fun c => (c.meta_, c.order.head?)) =
      some (.library "type", some (.own 6)) ∧
    moduleFinal.member? 6 "m" = some (.entity 7) ∧
    moduleBehind.member? 6 "m" = some (.entity 7) ∧
    (moduleFinal.function? 7).isSome = true ∧
    moduleFinal.member? 7 "__doc__" = moduleBehind.member? 7 "__doc__" := by
  decide +kernel

theorem gives_load_module :
    Gives ((hooks moduleDisk).load "c") bareWorld (.entity 5) moduleFinal := by
  rw [moduleFinal]
  exact gives_of_toOption module_worlds.1

/-- Nothing happens in the module after the definition. -/
theorem stays_module : Stays moduleSource moduleHooks [] 5 6 7 moduleBefore moduleBehind
    moduleFinal := by
  obtain ⟨-, isModule, named, shape, own, bound, made, doc⟩ := module_worlds
  obtain ⟨c, isClass, parts⟩ := Option.map_eq_some_iff.mp shape
  obtain ⟨usual, first⟩ := Prod.mk.inj parts
  have owns : OwnsAction moduleFinal 6 "m" (.entity 7) c :=
    .of_type isClass usual first own (by decide +kernel)
  exact {
    decorated := ⟨_, gives_pure _ _⟩
    place := rfl
    bound := bound
    has := ⟨exists_of_isModuleKind isModule, 6, c, named, owns⟩
    made := made
    doc := doc }

/-- A module with one function in one class, which is loaded and keeps what it has bound. -/
theorem lookups_agree_on_module :
    (SourceTree.lookup moduleDisk (.ofText ".") .empty "c.C" "m").doc = .ok (some "d") ∧
      (LoadedModules.lookup moduleDisk bareWorld "c.C" "m").doc = .ok (some "d") := by
  have name : (Controller.split "c.C").1 = "c" := by decide +kernel
  have parts : (Text.splitAt '.' (Controller.split "c.C").1).reverse = ["c"] := by decide +kernel
  have imported : Imported moduleDisk (.ofText ".") moduleHooks "c" [] [.ofText "."] bareWorld
      bareWorld :=
    ⟨.top rfl (by decide +kernel), rfl, .entity 5, moduleFinal, gives_load_module⟩
  have loads : Gives ((hooks moduleDisk).load (Controller.split "c.C").1) bareWorld (.entity 5)
      moduleFinal := by
    rw [name]
    exact gives_load_module
  have reaches : Gives reachModule bareWorld (5, 6) moduleBefore :=
    gives_of_toOption (by decide +kernel)
  have agree := lookups_agree .empty [] isSource_module nofun parts imported loads
    fun module scope before behind reached defined => by
      rw [moduleName_singleton] at reached
      obtain ⟨same, rfl⟩ := reached.unique reaches
      obtain ⟨rfl, rfl⟩ := Prod.mk.inj same
      obtain rfl : moduleBehind = behind := congrArg Prod.snd defined
      exact ⟨rfl, 7, stays_module⟩
  have read : readDoc? (some "d") = some "d" := by decide +kernel
  exact ⟨agree.1, agree.2.trans (congrArg Except.ok read)⟩

/-- Whether the module of a controller can be loaded from the working directory, and what the look-up
in source files and the one in loaded modules say of an action. -/
def answers (files : List (Place × String)) (controller action : String) :
    Bool × Option (Option String) × Option (Option String) :=
  let disk := diskOf files
  ((((hooks disk).load (Controller.split controller).1).run bareWorld).1.toOption.isSome,
    (SourceTree.lookup disk (.ofText ".") .empty controller action).doc.toOption,
    (LoadedModules.lookup disk bareWorld controller action).doc.toOption)

/-- The class gives a class method; the documentation is set after the definition; the class of the
class has a property of that name; and the package has its modules searched for elsewhere. -/
theorem lookups_can_differ :
    answers [(["c.py"], "class C:\n @staticmethod\n @classmethod\n def m(cls):\n  'd'\n")] "c.C" "m" =
      (true, some (some "d"), some none) ∧
    answers [(["c.py"], "class C:\n def m(self):\n  'd'\n m.__doc__ = 'e'\n")] "c.C" "m" =
      (true, some (some "d"), some (some "e")) ∧
    answers [(["c.py"], "class M(type):\n m = property(id)\n" ++
        "class C(metaclass=M):\n def m(self):\n  'd'\n")] "c.C" "m" =
      (true, some (some "d"), some none) ∧
    answers [(["a", "__init__.py"], "__path__ = ['b']\n"),
        (["a", "c.py"], "class C:\n def m(self):\n  'd'\n"),
        (["b", "c.py"], "class C:\n def m(self):\n  'e'\n")] "a.c.C" "m" =
      (true, some (some "d"), some (some "e")) := by
  refine ⟨?_, ?_, ?_, ?_⟩ <;> decide +kernel

end RouteDocs
