import RouteDocs.Proofs.Agreement
import RouteDocs.Proofs.Text.Separator

/-!
# Definitions that stand more than once

* `SourceTree.classes`, `SourceTree.functions`: all classes and functions of a name among statements;
* `SourceTree.effective?`: the documentation of the definition that is in effect at the end;
* `SourceTree.lookup_reports_first`: the look-up in source files reports the first definition, which
  is the one in effect where there is no other;
* `SourceTree.later_definitions_are_missed`: modules where it is not.
-/

namespace RouteDocs
open RouteDocs.Module

namespace SourceTree

/-- The bodies of all classes of that name, in their order. -/
def classes (name : String) (body : List Statement) : List (List Statement) :=
  body.filterMap fun s =>
    match s with
    | .class_ own _ _ _ inner => if own = name then some inner else none
    | _ => none

/-- The bodies of all functions of that name, in their order. -/
def functions (name : String) (body : List Statement) : List (List Statement) :=
  body.filterMap fun s =>
    match s with
    | .function head _ inner => if head.name = name then some inner else none
    | _ => none

/-- The documentation of the definition that is in effect once the statements have run: that of the
last function of the name in the last class of the name. -/
def effective? (body : List Statement) (className action : String) : Option String := do
  docstring? (← (functions action (← (classes className body).getLast?)).getLast?)

theorem class?_eq_head? (name : String) (body : List Statement) :
    class? name body = (classes name body).head? :=
  List.head?_filterMap.symm

theorem function?_eq_head? (name : String) (body : List Statement) :
    function? name body = (functions name body).head? :=
  List.head?_filterMap.symm

theorem head?_eq_getLast? {α : Type} {l : List α} (single : l.length ≤ 1) :
    l.head? = l.getLast? := by
  match l with
  | [] => rfl
  | [a] => rfl
  | a :: b :: rest => simp at single

/-- Where nothing is defined twice, the first definition is the one in effect. -/
theorem documentation?_eq_effective? {body : List Statement} {className action : String}
    (oneClass : (classes className body).length ≤ 1)
    (oneFunction : ∀ inner ∈ classes className body, (functions action inner).length ≤ 1) :
    documentation? body className action = effective? body className action := by
  rw [documentation?, effective?, class?_eq_head?, head?_eq_getLast? oneClass]
  cases found : (classes className body).getLast? with
  | none => rfl
  | some inner =>
    have among : inner ∈ classes className body := List.mem_of_getLast? found
    have same : function? action inner = (functions action inner).getLast? := by
      rw [function?_eq_head?, head?_eq_getLast? (oneFunction inner among)]
    simp only [Option.bind_eq_bind, Option.bind_some, same]

variable {disk : Disk} {root file : FilePath} {cache : Cache} {body : List Statement}
variable {module className action : String}

/-- **The first definition is reported.** The look-up in the source file of a module gives the
documentation of the first function of the action's name in the first class of that name, and none
exactly if there is no such class or function, or the function has none. If neither stands twice, this
is the definition in effect. -/
theorem lookup_reports_first (inModule : module ≠ "") (named : action ≠ "")
    (last : '.' ∉ className.toList) (located : file? disk root module = .ok (some file))
    (source : read disk file = .ok body)
    (cached : ∀ kept ∈ cache.find? file, read disk file = .ok kept) :
    (∃ doc, (lookup disk root cache (module ++ "." ++ className) action).doc = .ok doc ∧
      (∀ s, doc = some s ↔ ∃ inner function, (classes className body).head? = some inner ∧
        (functions action inner).head? = some function ∧ docstring? function = some s)) ∧
    ((classes className body).length ≤ 1 →
      (∀ inner ∈ classes className body, (functions action inner).length ≤ 1) →
      (lookup disk root cache (module ++ "." ++ className) action).doc =
        .ok (effective? body className action)) := by
  have split : Controller.split (module ++ "." ++ className) = (module, className) :=
    Text.cutLast_append last module
  have answer : (lookup disk root cache (module ++ "." ++ className) action).doc =
      .ok (documentation? body className action) := by
    have told : (lookup disk root cache (module ++ "." ++ className) action).doc =
        .ok (documentation? body (Controller.split (module ++ "." ++ className)).2 action) :=
      doc_lookup_of_read (by rwa [split]) named (by rwa [split]) source cached
    rwa [split] at told
  refine ⟨⟨_, answer, fun s => ?_⟩, fun oneClass oneFunction => ?_⟩
  · rw [documentation?, class?_eq_head?]
    simp only [Option.bind_eq_bind, Option.bind_eq_some_iff, function?_eq_head?]
    constructor
    · rintro ⟨inner, ofClass, function, ofAction, doc⟩
      exact ⟨inner, function, ofClass, ofAction, doc⟩
    · rintro ⟨inner, function, ofClass, ofAction, doc⟩
      exact ⟨inner, ofClass, function, ofAction, doc⟩
  · rw [answer, documentation?_eq_effective? oneClass oneFunction]

/-- A disk with a module whose class stands twice, and one whose function does. -/
def repeatedDisk : Disk := diskOf [
  (["c.py"], "class C:\n def m(self):\n  'a'\nclass C:\n def m(self):\n  'b'\n"),
  (["d.py"], "class C:\n def m(self):\n  'a'\n def m(self):\n  'b'\n")]

/-- Whether statements are a class with two functions of one name. -/
def isRepeatedFunction : Except Trouble (List Statement) → Bool
  | .ok [.class_ "C" _ _ _ [.function ⟨"m", _, _, _, _⟩ _ [.expression (.text "a")],
      .function ⟨"m", _, _, _, _⟩ _ [.expression (.text "b")]]] => true
  | _ => false

/-- Of two functions, the first is reported. -/
theorem lookup_reports_first_of_two :
    file? repeatedDisk (.ofText ".") "d" = .ok (some (.ofText "d.py")) ∧
    (∃ body inner, read repeatedDisk (.ofText "d.py") = .ok body ∧ classes "C" body = [inner] ∧
      (functions "m" inner).length = 2) ∧
    (lookup repeatedDisk (.ofText ".") .empty ("d" ++ "." ++ "C") "m").doc = .ok (some "a") := by
  have located : file? repeatedDisk (.ofText ".") "d" = .ok (some (.ofText "d.py")) := by
    decide +kernel
  have parsed : isRepeatedFunction (read repeatedDisk (.ofText "d.py")) = true := by decide +kernel
  unfold isRepeatedFunction at parsed
  split at parsed
  · next source =>
    refine ⟨located, ⟨_, _, source, rfl, rfl⟩, ?_⟩
    have cached : ∀ kept ∈ (OrderedMap.empty : Cache).find? (.ofText "d.py"),
        read repeatedDisk (.ofText "d.py") = .ok kept := nofun
    obtain ⟨doc, answer, told⟩ :
        ∃ doc, (lookup repeatedDisk (.ofText ".") .empty ("d" ++ "." ++ "C") "m").doc = .ok doc ∧ _ :=
      (lookup_reports_first (by decide) (by decide) (by decide) located source cached).1
    rw [answer, (told "a").mpr ⟨_, _, rfl, rfl, rfl⟩]
  · cases parsed

/-- A class that stands again, and a function that does: what is reported is not the documentation in
effect, which the loaded module has. -/
theorem later_definitions_are_missed :
    (read repeatedDisk (.ofText "c.py")).toOption.map (effective? · "C" "m") = some (some "b") ∧
    (lookup repeatedDisk (.ofText ".") .empty "c.C" "m").doc.toOption = some (some "a") ∧
    (LoadedModules.lookup repeatedDisk bareWorld "c.C" "m").doc.toOption = some (some "b") ∧
    (read repeatedDisk (.ofText "d.py")).toOption.map (effective? · "C" "m") = some (some "b") ∧
    (lookup repeatedDisk (.ofText ".") .empty "d.C" "m").doc.toOption = some (some "a") := by
  refine ⟨?_, ?_, ?_, ?_, ?_⟩ <;> decide +kernel

end SourceTree
end RouteDocs
