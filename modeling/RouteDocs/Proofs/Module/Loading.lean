import RouteDocs.Proofs.Module.Ending
import RouteDocs.Proofs.Module.Missing

namespace RouteDocs.Module

namespace Frame
variable {f : Frame} {w w' : World}

theorem exists_of_runAll_append {before behind : List Statement}
    (ran : Gives (f.runAll (before ++ behind)) w .done w') :
    ∃ u, Gives (f.runAll before) w .done u ∧ Gives (f.runAll behind) u .done w' := by
  induction before generalizing w with
  | nil => exact ⟨w, gives_pure _ _, ran⟩
  | cons s before ih =>
    obtain ⟨ended, u, first, later⟩ := exists_of_bind ran
    cases ended with
    | done =>
      obtain ⟨v, between, last⟩ := ih later
      exact ⟨v, first.bind between, last⟩
    | leave isBreak => cases (later.unique (gives_pure _ _)).1
    | result o => cases (later.unique (gives_pure _ _)).1

theorem exists_of_runAll_cons {s : Statement} {behind : List Statement}
    (ran : Gives (f.runAll (s :: behind)) w .done w') :
    ∃ u, Gives (f.run s) w .done u ∧ Gives (f.runAll behind) u .done w' := by
  obtain ⟨ended, u, first, later⟩ := exists_of_bind ran
  cases ended with
  | done => exact ⟨u, first, later⟩
  | leave isBreak => cases (later.unique (gives_pure _ _)).1
  | result o => cases (later.unique (gives_pure _ _)).1

/-- A `class` statement runs its body. -/
theorem exists_of_class {name : String} {decorators bases : List Expr}
    {named : List (Option String × Expr)} {body : List Statement} {ended : Signal}
    (ran : Gives (f.run (.class_ name decorators bases named body)) w ended w') :
    ∃ c u inside u', Gives (f.openClass name decorators bases named body) w c u ∧
      Gives ((f.ofClass c.scope name body).runAll body) u inside u' := by
  obtain ⟨c, u, opened, later⟩ := exists_of_bind ran
  obtain ⟨inside, u', ranBody, -⟩ := exists_of_bind later
  exact ⟨c, u, inside, u', opened, ranBody⟩

end Frame

section
variable {disk : Disk} {h : Hooks}

/-- The module with these segments, the last first, is neither loaded in the world nor by the packages
around it. It is searched for in these places, in the world that the packages leave. -/
inductive Sought (disk : Disk) (h : Hooks) (w : World) :
    List String → List FilePath → World → Prop where
  | top {name : String} (unloaded : w.modules.find? name = none)
      (other : Library.core.contains name = false) : Sought disk h w [name] w.places w
  | child {w₁ w₂ : World} {last : String} {outer : List String} {parent : Object}
      {places : List FilePath} (inside : outer ≠ [])
      (unloaded : w.modules.find? (moduleName (last :: outer)) = none)
      (loads : Gives (loadSegments disk h outer) w parent w₁)
      (still : w₁.modules.find? (moduleName (last :: outer)) = none)
      (own : ∀ path, parent ≠ .library path)
      (searched : Gives (placesOf h parent) w₁ (some places) w₂) :
      Sought disk h w (last :: outer) places w₂

theorem findModule?_of_findIn {name : String} {place : FilePath} {places : List FilePath}
    {kind : FileKind} {path : FilePath} {package : Option FilePath}
    (first : places.head? = some place)
    (found : disk.findIn place name = some (.file kind path package)) :
    disk.findModule? name places = some (.file kind path package) := by
  obtain ⟨rest, rfl⟩ := List.head?_eq_some_iff.mp first
  simp [Disk.findModule?, Disk.findFrom, found]

/-- A module that is searched for in a package is loaded from what is found of it there. -/
theorem exists_of_loadChild {w w₁ w₂ : World} {parent o : Object} {name last : String}
    {places : List FilePath} {found : Found} (own : ∀ path, parent ≠ .library path)
    (searched : Gives (placesOf h parent) w (some places) w₁)
    (here : disk.findModule? last places = some found)
    (loads : Gives (loadChild disk h parent name last) w o w₂) :
    ∃ o' w₃, Gives (loadFound disk h name found) w₁ o' w₃ := by
  have loadsHere : Gives (loadFrom disk h parent name last) w o w₂ := by
    cases parent with
    | library path => exact absurd rfl (own path)
    | _ => exact loads
  obtain ⟨searched', u, given, later⟩ := exists_of_bind loadsHere
  obtain ⟨rfl, rfl⟩ := searched.unique given
  simp only [here] at later
  obtain ⟨o', w₃, loaded, -⟩ := exists_of_bind later
  exact ⟨o', w₃, loaded⟩

/-- Loading the module loads what is found of it in these places. -/
theorem exists_of_loadSegments {w w₁ w₂ : World} {last : String} {outer : List String}
    {places : List FilePath} {found : Found} {o : Object}
    (sought : Sought disk h w (last :: outer) places w₁)
    (here : disk.findModule? last places = some found)
    (loads : Gives (loadSegments disk h (last :: outer)) w o w₂) :
    ∃ o' w₃, Gives (loadFound disk h (moduleName (last :: outer)) found) w₁ o' w₃ := by
  obtain ⟨known, u, asked, later⟩ := exists_of_bind loads
  cases sought with
  | top unloaded other =>
    rw [← moduleName_singleton last] at unloaded
    obtain ⟨rfl, rfl⟩ := (gives_loaded?_none unloaded).unique asked
    have alone : Gives (loadTop disk h (moduleName [last])) w o w₂ := later
    rw [moduleName_singleton] at alone ⊢
    rw [loadTop, other, if_neg Bool.false_ne_true, gives_get_bind_iff] at alone
    simp only [here] at alone
    exact ⟨o, w₂, alone⟩
  | child inside unloaded loadsOuter still own searched =>
    obtain ⟨rfl, rfl⟩ := (gives_loaded?_none unloaded).unique asked
    simp only [List.isEmpty_iff, inside, if_false] at later
    obtain ⟨parent, v, loadsOuter', later⟩ := exists_of_bind later
    obtain ⟨rfl, rfl⟩ := loadsOuter.unique loadsOuter'
    rw [gives_get_bind_iff, ← moduleName, still] at later
    exact exists_of_loadChild own searched here later

/-- What loading a module comes to before its statements run: what is found of it is a file, and the
module is added, with its documentation. -/
def openModule (disk : Disk) (name last : String) (places : List FilePath)
    (body : List Statement) : Run Nat := do
  match disk.findModule? last places with
  | some (.file _ path package) =>
    let id ← addModule name (some path) (package.map fun directory => [directory])
    match docstring? body with
    | some s => modify fun w => w.setMember id "__doc__" (.text s)
    | none => pure ()
    return id
  | _ => failToFind name

/-- Loading a source file runs its statements. -/
theorem exists_of_loadFound {w w' : World} {name last : String} {places : List FilePath}
    {path : FilePath} {package : Option FilePath} {o : Object}
    (here : disk.findModule? last places = some (.file .source path package))
    (loads : Gives (loadFound disk h name (.file .source path package)) w o w') :
    ∃ content body id u ended u', disk.readBytes path = .ok content ∧
      compile content.toList = .ok body ∧
      Gives (openModule disk name last places body) w id u ∧
      Gives ((Frame.top id (Statement.postponesTypes body) h).runAll body) u ended u' := by
  obtain ⟨id, u, added, later⟩ := exists_of_bind loads
  obtain ⟨⟨⟩, v, caught, -⟩ := exists_of_bind later
  have ran : Gives (runFile disk h id .source path) u () v := by
    rw [Gives, run_tryCatch] at caught
    rcases outcome : (runFile disk h id .source path).run u with ⟨e | ⟨⟩, v'⟩
    · rw [outcome] at caught
      cases (Prod.ext_iff.mp caught).1
    · rw [outcome] at caught
      exact outcome.trans caught
  unfold runFile at ran
  cases read : disk.readBytes path with
  | error cause =>
    rw [read] at ran
    exact absurd ran (fun given => only_raise (P := fun _ => False) "OSError" given)
  | ok content =>
    rw [read] at ran
    cases compiled : compile content.toList with
    | error cause =>
      simp only [compiled] at ran
      exact absurd ran fun given => only_fail (P := fun _ => False) _ _ given
    | ok body =>
      simp only [compiled] at ran
      have opens : openModule disk name last places body = (do
          let id ← addModule name (some path) (package.map fun directory => [directory])
          match docstring? body with
          | some s => modify fun w => w.setMember id "__doc__" (.text s)
          | none => pure ()
          return id) := by
        rw [openModule, here]
      refine ⟨content, body, id, ?_⟩
      rw [opens]
      unfold runModule at ran
      cases doc : docstring? body with
      | none =>
        rw [doc] at ran
        obtain ⟨ended, u', inside, -⟩ := exists_of_bind ran
        exact ⟨u, ended, u', rfl, compiled, added.bind (gives_pure _ _), inside⟩
      | some s =>
        rw [doc] at ran
        obtain ⟨⟨⟩, u₁, noted, later⟩ := exists_of_bind ran
        obtain ⟨ended, u', inside, -⟩ := exists_of_bind later
        exact ⟨u₁, ended, u', rfl, compiled, added.bind (noted.bind (gives_pure _ _)), inside⟩

end

end RouteDocs.Module
