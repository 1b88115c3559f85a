import RouteDocs.Proofs.Module.Finder
import RouteDocs.Proofs.Module.Loading
import RouteDocs.Proofs.Module.Marks
import RouteDocs.Proofs.Module.Source
import RouteDocs.Proofs.SourceReading

namespace RouteDocs

/-- The look-up in source files tells the documentation that stands in the statements of the file of
the controller's module, whether they are kept or read. -/
theorem SourceTree.doc_lookup_of_read {disk : Disk} {root file : FilePath} {cache : Cache}
    {controller action : String} {body : List Module.Statement}
    (inModule : (Controller.split controller).1 ≠ "") (named : action ≠ "")
    (located : file? disk root (Controller.split controller).1 = .ok (some file))
    (source : read disk file = .ok body)
    (cached : ∀ kept ∈ cache.find? file, read disk file = .ok kept) :
    (lookup disk root cache controller action).doc =
      .ok (documentation? body (Controller.split controller).2 action) := by
  have parsed : (readOnce disk cache file).1 = .ok body := by
    cases known : cache.find? file with
    | none => rw [readOnce_of_none known, source]
    | some kept => rw [readOnce_of_some known, ← cached kept known, source]
  rw [lookup_of_located ⟨inModule, named, located⟩, parsed]
  rfl

namespace Module

/-- The statements of a module around the definition of an action: in the body of a class that has no
decorators, at the top of the module. -/
structure ActionSource where
  before : List Statement
  className : String
  bases : List Expr
  named : List (Option String × Expr)
  innerBefore : List Statement
  head : Head
  decorators : List Expr
  body : List Statement
  innerAfter : List Statement
  after : List Statement

namespace ActionSource
variable (s : ActionSource)

def definition : Statement := .function s.head s.decorators s.body

def inner : List Statement := s.innerBefore ++ s.definition :: s.innerAfter

def classStatement : Statement := .class_ s.className [] s.bases s.named s.inner

def module : List Statement := s.before ++ s.classStatement :: s.after

/-- No class of that name stands before the class, and no function of that name before the
definition. -/
structure IsFirst : Prop where
  ofClass : SourceTree.class? s.className s.before = none
  ofFunction : SourceTree.function? s.head.name s.innerBefore = none

variable {s}

theorem documentation?_module (first : s.IsFirst) :
    SourceTree.documentation? s.module s.className s.head.name = docstring? s.body := by
  have ofClass : SourceTree.class? s.className s.module = some s.inner := by
    unfold SourceTree.class? module
    rw [List.findSome?_append]
    have none_before := first.ofClass
    unfold SourceTree.class? at none_before
    rw [none_before]
    simp [classStatement]
  have ofFunction : SourceTree.function? s.head.name s.inner = some s.body := by
    unfold SourceTree.function? inner
    rw [List.findSome?_append]
    have none_before := first.ofFunction
    unfold SourceTree.function? at none_before
    rw [none_before]
    simp [definition]
  simp [SourceTree.documentation?, ofClass, ofFunction]

variable (s)

/-- The frame of the body of the class, in a module and with the entity in which it binds names. -/
def frame (h : Hooks) (module scope : Nat) : Frame :=
  (Frame.top module (Statement.postponesTypes s.module) h).ofClass scope s.className s.inner

/-- What loading the module comes to before the definition runs: the number of the module, and that
of the entity in which the body of the class binds names. -/
def reach (disk : Disk) (h : Hooks) (name last : String) (places : List FilePath) :
    Run (Nat × Nat) := do
  let module ← openModule disk name last places s.module
  let f := Frame.top module (Statement.postponesTypes s.module) h
  let _ ← f.runAll s.before
  let c ← f.openClass s.className [] s.bases s.named s.inner
  let _ ← (s.frame h module c.scope).runAll s.innerBefore
  return (module, c.scope)

variable {s}

/-- **Loading a module comes to each definition** of a function in the body of a class at its top. -/
theorem exists_reach {disk : Disk} {h : Hooks} {w w₁ w₂ : World} {last : String}
    {outer : List String} {places : List FilePath} {file : FilePath} {package : Option FilePath}
    {o : Object} (sought : Sought disk h w (last :: outer) places w₁)
    (here : disk.findModule? last places = some (.file .source file package))
    (plain : ∀ content, disk.readBytes file = .ok content → IsPlain content)
    (source : SourceTree.read disk file = .ok s.module)
    (loads : Gives (loadSegments disk h (last :: outer)) w o w₂) :
    ∃ module scope u u',
      Gives (s.reach disk h (moduleName (last :: outer)) last places) w₁ (module, scope) u ∧
      Gives ((s.frame h module scope).run s.definition) u .done u' := by
  obtain ⟨o', w₃, loadsFile⟩ := exists_of_loadSegments sought here loads
  obtain ⟨content, body, module, v, ended, v', content', compiled, opened, ran⟩ :=
    exists_of_loadFound here loadsFile
  obtain ⟨rfl, isModule⟩ := of_compile content' (plain content content') source compiled
  obtain rfl : ended = .done := Frame.done_of_isModule isModule ran
  obtain ⟨v₁, ranBefore, later⟩ := Frame.exists_of_runAll_append ran
  obtain ⟨v₂, ranClass, -⟩ := Frame.exists_of_runAll_cons later
  obtain ⟨c, v₃, ended, v₄, openedClass, ranBody⟩ := Frame.exists_of_class ranClass
  have inside : s.classStatement ∈ s.module :=
    List.mem_append_right _ List.mem_cons_self
  obtain rfl : ended = .done := Frame.done_of_class isModule inside ranBody
  obtain ⟨u, ranInner, later⟩ := Frame.exists_of_runAll_append ranBody
  obtain ⟨u', defined, -⟩ := Frame.exists_of_runAll_cons later
  refine ⟨module, c.scope, u, u', ?_, defined⟩
  exact opened.bind (ranBefore.bind (openedClass.bind (ranInner.bind (gives_pure _ _))))

end ActionSource

theorem member?_setMember_of_ne {w : World} {id other : Nat} {name name' : String} {o : Object}
    (apart : name' ≠ name) : (w.setMember id name o).member? other name' = w.member? other name' := by
  simp only [World.member?, World.setMember, World.change, World.entity?, Array.getElem?_modify]
  split
  · cases w.entities[other]? with
    | none => rfl
    | some e => exact OrderedMap.find?_alter_of_ne e.members apart _
  · rfl

theorem eq_of_member?_setMember {w : World} {id : Nat} {name : String} {o m : Object}
    (here : (w.setMember id name o).member? id name = some m) : m = o := by
  simp only [World.member?, World.setMember, World.change, World.entity?, Array.getElem?_modify,
    if_true] at here
  cases found : w.entities[id]? with
  | none => simp [found] at here
  | some e =>
    simp only [found, Option.map_some, Option.bind_some, OrderedMap.insert,
      OrderedMap.find?_alter_self] at here
    exact (Option.some.inj here).symm

theorem exists_of_newFunction {f : Frame} {name : String} {isAsync : Bool} {signature : Signature}
    {defaults : List (String × Object)} {body : List Statement} {o : Object} {w w' : World}
    (made : Gives (f.newFunction name isAsync signature defaults body) w o w') :
    ∃ function : Nat, o = .entity function ∧
      w'.member? function "__doc__" = some (Object.ofOption (docstring? body)) := by
  obtain ⟨function, u, created, last⟩ := exists_of_bind made
  obtain ⟨rfl, rfl⟩ := last.unique (gives_pure _ _)
  refine ⟨function, rfl, ?_⟩
  obtain ⟨rfl, rfl⟩ := created.unique (gives_create _ _ _)
  rw [World.member?, World.entity?_add]
  rfl

/-- What a definition binds: what its decorators make of the function, which has the documentation at
the start of its body. -/
theorem Frame.of_function {f : Frame} {head : Head} {decorators : List Expr}
    {body : List Statement} {marks : List Mark} {w w' v : World}
    (decorated : Gives (f.values decorators) w (marks.map Mark.object) v)
    (ran : Gives (f.run (.function head decorators body)) w .done w') :
    ∃ (function : Nat) (u : World),
      u.member? function "__doc__" = some (Object.ofOption (docstring? body)) ∧
      w' = u.setMember (f.placeOf (f.nameOf head.name)) (f.nameOf head.name)
        (Mark.wrapAll marks (.entity function)) := by
  -- what follows once the types have been evaluated, if they are
  have defined {defaults : List (String × Object)} {u : World} (ran : Gives (do
      let o ← f.newFunction head.name head.isAsync head.signature defaults body
      f.bind head.name (← f.decorateAll (marks.map Mark.object) o)
      return Signal.done) u .done w') : ∃ (function : Nat) (u : World),
      u.member? function "__doc__" = some (Object.ofOption (docstring? body)) ∧
      w' = u.setMember (f.placeOf (f.nameOf head.name)) (f.nameOf head.name)
        (Mark.wrapAll marks (.entity function)) := by
    obtain ⟨o, u₁, made, later⟩ := exists_of_bind ran
    obtain ⟨function, rfl, doc⟩ := exists_of_newFunction made
    obtain ⟨o', u₂, wrapped, binds⟩ := exists_of_bind later
    obtain ⟨rfl, rfl⟩ := wrapped.unique (gives_decorateAll f u₁ marks _)
    obtain ⟨⟨⟩, u₃, bound, last⟩ := exists_of_bind binds
    obtain ⟨-, rfl⟩ := bound.unique (gives_modify _ _)
    obtain ⟨-, rfl⟩ := last.unique (gives_pure _ _)
    exact ⟨function, _, doc, rfl⟩
  obtain ⟨ds, u₁, decorated', later⟩ := exists_of_bind ran
  obtain ⟨rfl, rfl⟩ := decorated.unique decorated'
  obtain ⟨defaults, u₂, -, later⟩ := exists_of_bind later
  cases postponed : f.postponed with
  | true =>
    rw [postponed] at later
    exact defined later
  | false =>
    rw [postponed] at later
    obtain ⟨types, u₃, -, later⟩ := exists_of_bind later
    exact defined later

end Module
end RouteDocs
