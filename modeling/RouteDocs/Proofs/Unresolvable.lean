import RouteDocs.Lookup.Import
import RouteDocs.Proofs.Module.Missing
import RouteDocs.Proofs.SourceReading

/-!
# Controllers whose module is missing

* `SourceTree.IsNameless`, `steps_basePath_eq_nil_iff`: which modules name no file below a directory;
* `SourceTree.lookup_of_none`, `SourceTree.doc_of_none`: what comes of looking for the file of a
  module that has none;
* `LoadedModules.doc_lookup_of_loads`: what comes of loading a module, if it can be loaded;
* `LoadedModules.lookup_of_absent`, `LoadedModules.doc_of_absent`: what comes of loading a module
  that cannot be found;
* `missing_module_has_no_documentation`: both look-ups for a controller whose module is missing.
-/

namespace RouteDocs
open RouteDocs.Module

/-! ### Files -/

namespace FilePath

theorem steps_child_eq_nil_iff (p : FilePath) (name : String) :
    (p.child name).steps = [] ↔
      stepsOf name = [] ∧ (name.toList.head? = some '/' ∨ p.steps = []) := by
  unfold child join
  cases absolute : (ofText name).isAbsolute with
  | true =>
    have start : name.toList.head? = some '/' := by simpa [ofText] using absolute
    simp [start, ofText]
  | false =>
    have start : name.toList.head? ≠ some '/' := by simpa [ofText] using absolute
    simp [start, ofText, and_comm]

theorem withExtension?_eq_none_iff (p : FilePath) (extension : String) :
    p.withExtension? extension = none ↔ p.steps = [] := by
  rw [withExtension?]
  cases last : p.steps.getLast? with
  | none => simpa using List.getLast?_eq_none_iff.mp last
  | some name =>
    have nonempty : p.steps ≠ [] := by
      rintro empty
      simp [empty] at last
    simpa using nonempty

end FilePath

/-- Whether looking for a path fails because it, or a name in it, is too long. -/
def Disk.isTooLong (disk : Disk) (p : FilePath) : Bool :=
  match disk.find? p with
  | .error .nameTooLong => true
  | _ => false

namespace SourceTree

/-- The path of the module has no last step that could be the name of a file: its segments name no
steps, from the start at the directory on if that has none either, or from a segment on that starts
at the root again. -/
def IsNameless (root : FilePath) (module : String) : Prop :=
  ∃ before behind, Text.splitAt '.' module = before ++ behind ∧
    (∀ segment ∈ behind, FilePath.stepsOf segment = []) ∧
    (before = [] ∧ root.steps = [] ∨ ∃ segment ∈ behind.head?, segment.toList.head? = some '/')

theorem steps_foldl_child_eq_nil_iff (root : FilePath) (segments : List String) :
    (segments.foldl FilePath.child root).steps = [] ↔
      ∃ before behind, segments = before ++ behind ∧
        (∀ segment ∈ behind, FilePath.stepsOf segment = []) ∧
        (before = [] ∧ root.steps = [] ∨
          ∃ segment ∈ behind.head?, segment.toList.head? = some '/') := by
  induction segments using List.reverseRecOn with
  | nil =>
    constructor
    · intro none_here
      exact ⟨[], [], rfl, nofun, .inl ⟨rfl, none_here⟩⟩
    · rintro ⟨before, behind, split, -, ⟨-, none_here⟩ | ⟨segment, here, -⟩⟩
      · exact none_here
      · obtain ⟨rfl, rfl⟩ := List.nil_eq_append_iff.mp split
        cases here
  | append_singleton init last ih =>
    rw [List.foldl_append, List.foldl_cons, List.foldl_nil, FilePath.steps_child_eq_nil_iff, ih]
    constructor
    · rintro ⟨stepless, absolute | ⟨before, behind, rfl, each, start⟩⟩
      · exact ⟨init, [last], rfl, by simpa using stepless, .inr ⟨last, rfl, absolute⟩⟩
      · refine ⟨before, behind ++ [last], List.append_assoc .., ?_, ?_⟩
        · simpa [or_imp, forall_and] using ⟨each, stepless⟩
        · exact start.imp_right fun ⟨segment, here, absolute⟩ =>
            ⟨segment, List.mem_head?_append_of_mem_head? here, absolute⟩
    · rintro ⟨before, behind, split, each, start⟩
      cases behind using List.reverseRecOn with
      | nil =>
        rcases start with ⟨rfl, -⟩ | ⟨segment, here, -⟩
        · simp at split
        · cases here
      | append_singleton behind last' =>
        rw [← List.append_assoc] at split
        obtain ⟨rfl, same⟩ := List.append_inj' split rfl
        obtain rfl : last = last' := List.singleton_inj.mp same
        have stepless : FilePath.stepsOf last = [] := each last (by simp)
        have others : ∀ segment ∈ behind, FilePath.stepsOf segment = [] := fun segment here =>
          each segment (List.mem_append_left _ here)
        refine ⟨stepless, ?_⟩
        rcases start with start | ⟨segment, here, absolute⟩
        · exact .inr ⟨before, behind, rfl, others, .inl start⟩
        · cases behind with
          | nil =>
            obtain rfl : last = segment := Option.some.inj here
            exact .inl absolute
          | cons first rest =>
            exact .inr ⟨before, first :: rest, rfl, others, .inr ⟨segment, here, absolute⟩⟩

theorem steps_basePath_eq_nil_iff (root : FilePath) (module : String) :
    (basePath root module).steps = [] ↔ IsNameless root module :=
  steps_foldl_child_eq_nil_iff root (Text.splitAt '.' module)

/-- The paths at which the file of a module can be. -/
def candidates (root : FilePath) (module : String) : List FilePath :=
  ((basePath root module).withExtension? ".py").toList ++
    [(basePath root module).child "__init__.py"]

variable {disk : Disk} {root : FilePath} {module : String}

/-- No file is at any of some paths, so the search ends without one unless a path is too long. -/
theorem firstFile_of_none {paths : List FilePath} (nowhere : ∀ p ∈ paths, disk.isFile p = false) :
    disk.firstFile paths =
      if paths.any disk.isTooLong then .error .nameTooLong
      else .ok none := by
  induction paths with
  | nil => rfl
  | cons p paths ih =>
    obtain ⟨first, others⟩ := List.forall_mem_cons.mp nowhere
    rw [Disk.firstFile, List.any_cons]
    rw [Disk.isFile] at first
    cases found : disk.find p with
    | error trouble =>
      cases trouble <;> simp only [Disk.isTooLong, Disk.find?, found]
      case nameTooLong => rfl
      all_goals exact ih others
    | ok t =>
      cases t with
      | file content => simp [found, FileTree.isFile] at first
      | directory entries =>
        simp only [Disk.isTooLong, Disk.find?, found]
        exact ih others

/-- What comes of looking for the file of a module that has none. -/
theorem file?_of_none (nowhere : ∀ p ∈ candidates root module, disk.isFile p = false) :
    file? disk root module =
      if (basePath root module).steps = [] then .error .noFileName
      else if (candidates root module).any disk.isTooLong then .error (.file .nameTooLong)
      else .ok none := by
  rw [file?]
  cases named : (basePath root module).withExtension? ".py" with
  | none =>
    have stepless := (FilePath.withExtension?_eq_none_iff _ _).mp named
    rw [if_pos stepless]
  | some file =>
    have steps : (basePath root module).steps ≠ [] := by
      intro stepless
      rw [(FilePath.withExtension?_eq_none_iff _ _).mpr stepless] at named
      cases named
    have both : candidates root module = [file, (basePath root module).child "__init__.py"] := by
      rw [candidates, named]
      rfl
    rw [both] at nowhere ⊢
    rw [if_neg steps]
    dsimp only
    rw [firstFile_of_none nowhere]
    by_cases tooLong : [file, (basePath root module).child "__init__.py"].any disk.isTooLong = true
    · rw [if_pos tooLong, if_pos tooLong]
    · rw [if_neg tooLong, if_neg tooLong]

/-- A controller whose module has no file has no documentation, unless there is no name that the
file could have, or one that is too long. -/
theorem lookup_of_none {controller : String}
    (nowhere : ∀ p ∈ candidates root (Controller.split controller).1, disk.isFile p = false)
    (cache : Cache) (action : String) :
    lookup disk root cache controller action =
      ⟨if (Controller.split controller).1 = "" ∨ action = "" then .ok none
        else if (basePath root (Controller.split controller).1).steps = [] then .error .noFileName
        else if (candidates root (Controller.split controller).1).any disk.isTooLong then
          .error (.file .nameTooLong)
        else .ok none, .nothing, cache⟩ := by
  rw [lookup_eq, file?_of_none nowhere]
  by_cases empty : (Controller.split controller).1 = "" ∨ action = ""
  · rw [if_pos empty, if_pos empty]
  · rw [if_neg empty, if_neg empty]
    by_cases stepless : (basePath root (Controller.split controller).1).steps = []
    · rw [if_pos stepless, if_pos stepless]
    · rw [if_neg stepless, if_neg stepless]
      by_cases tooLong :
          (candidates root (Controller.split controller).1).any disk.isTooLong = true
      · rw [if_pos tooLong, if_pos tooLong]
      · rw [if_neg tooLong, if_neg tooLong]

/-- Such a controller has no documentation exactly if nothing is asked for, or the paths at which the
file could be are ones that can be looked for. -/
theorem doc_of_none {controller action : String}
    (nowhere : ∀ p ∈ candidates root (Controller.split controller).1, disk.isFile p = false)
    (cache : Cache) :
    let module := (Controller.split controller).1
    let answer := lookup disk root cache controller action
    (answer.doc = .ok none ↔ module = "" ∨ action = "" ∨
      ¬ IsNameless root module ∧ ∀ p ∈ candidates root module, disk.isTooLong p = false) ∧
    (answer.doc = .ok none ∨ answer.doc = .error .noFileName ∨
      answer.doc = .error (.file .nameTooLong)) := by
  intro module
  dsimp only
  rw [lookup_of_none nowhere, ← steps_basePath_eq_nil_iff]
  dsimp only
  by_cases empty : module = "" ∨ action = ""
  · rw [if_pos empty]
    rcases empty with noModule | noAction
    · simp [noModule]
    · simp [noAction]
  · rw [if_neg empty]
    rw [not_or] at empty
    obtain ⟨asked, named⟩ := empty
    by_cases stepless : (basePath root module).steps = []
    · simp [module, stepless, asked, named]
    · by_cases tooLong : (candidates root module).any disk.isTooLong = true
      · obtain ⟨p, here, long⟩ := List.any_eq_true.mp tooLong
        have notAll : ¬ ∀ p ∈ candidates root module, disk.isTooLong p = false :=
          fun all => by simp [all p here] at long
        rw [if_neg stepless, if_pos tooLong]
        simp [asked, named, notAll]
      · have all : ∀ p ∈ candidates root module, disk.isTooLong p = false := by
          simpa using tooLong
        rw [if_neg stepless, if_neg tooLong]
        exact ⟨⟨fun _ => .inr (.inr ⟨stepless, all⟩), fun _ => rfl⟩, .inl rfl⟩

end SourceTree

/-! ### Loading -/

namespace LoadedModules

theorem toList_moduleName (segments : List String) :
    (moduleName segments).toList = ['.'].intercalate (segments.reverse.map String.toList) := by
  rw [moduleName, String.toList_intercalate]
  rfl

/-- A module lies in each of the packages around it. -/
theorem isWithin_moduleName {segments outer : List String} (suffix : outer <:+ segments)
    (nonempty : outer ≠ []) (named : moduleName outer ≠ "") :
    isWithin (moduleName outer) (moduleName segments) = true := by
  obtain ⟨inner, rfl⟩ := suffix
  have full : (moduleName outer).isEmpty = false := by simpa using named
  rw [isWithin, full, Bool.not_false, Bool.true_and, Bool.or_eq_true, beq_iff_eq]
  by_cases alone : inner = []
  · subst alone
    exact .inl rfl
  · right
    rw [String.isPrefixOf, String.startsWith_string_iff, String.toList_append, toList_moduleName,
      toList_moduleName, List.reverse_append, List.map_append,
      Text.intercalate_append (by simpa using nonempty) (by simpa using alone)]
    exact List.prefix_append _ _

/-- The packages around a module have names if its own name does not start with a point. -/
theorem moduleName_ne_empty {module : String} (nonempty : module ≠ "")
    (start : module.toList.head? ≠ some '.') {outer : List String}
    (suffix : outer <:+ (Text.splitAt '.' module).reverse) (inside : outer ≠ []) :
    moduleName outer ≠ "" := by
  have first := Text.head?_splitAt nonempty start
  obtain ⟨rest, parts⟩ := List.reverse_prefix.mpr suffix
  rw [List.reverse_reverse] at parts
  intro unnamed
  have blank : ['.'].intercalate (outer.reverse.map String.toList) = [] := by
    rw [← toList_moduleName, unnamed]
    rfl
  cases turned : outer.reverse with
  | nil => exact inside (List.reverse_eq_nil_iff.mp turned)
  | cons part others =>
    rw [turned] at parts blank
    have named : part ≠ "" := first part (by rw [← parts]; rfl)
    cases others with
    | nil => simp [named] at blank
    | cons next others => simp [List.intercalate_cons_cons] at blank

section
variable {disk : Disk} {w w' : World} {controller action : String}

theorem lookup_of_blank (empty : (Controller.split controller).1 = "" ∨ action = "") :
    lookup disk w controller action = ⟨.ok none, .nothing, w⟩ := by
  have either : ((Controller.split controller).1.isEmpty || action.isEmpty) = true := by
    simpa using empty
  simp only [lookup, either, if_true]

variable (inModule : (Controller.split controller).1 ≠ "") (named : action ≠ "")
include inModule named

theorem lookup_of_relative (start : (Controller.split controller).1.toList.head? = some '.') :
    lookup disk w controller action = ⟨.error .relativeModule, .nothing, w⟩ := by
  have neither : ((Controller.split controller).1.isEmpty || action.isEmpty) = false := by
    simpa using ⟨inModule, named⟩
  simp only [lookup, neither, Bool.false_eq_true, if_false, start, if_true]

variable (absolute : (Controller.split controller).1.toList.head? ≠ some '.')
include absolute

/-- The look-up tells what comes of loading the module and finding the action in it. -/
theorem doc_lookup_of_gives {doc : Except Trouble (Option String)}
    (ended : Gives (find (hooks disk) (Controller.split controller).1 (Controller.split controller).2
      action) w doc w') :
    (lookup disk w controller action).doc = doc := by
  have neither : ((Controller.split controller).1.isEmpty || action.isEmpty) = false := by
    simpa using ⟨inModule, named⟩
  rw [Gives] at ended
  simp only [lookup, neither, Bool.false_eq_true, if_false, absolute, ended]

/-- The look-up tells the documentation that the action has in the module that is loaded. -/
theorem doc_lookup_of_loads {o : Object} {u : World} {doc : Option String}
    (loads : Gives ((hooks disk).load (Controller.split controller).1) w o u)
    (answer : Gives (actionDoc? (hooks disk) o (Controller.split controller).2 action) u doc w') :
    (lookup disk w controller action).doc = .ok doc :=
  doc_lookup_of_gives inModule named absolute
    (loads.attempt.bind (answer.attempt.bind (gives_pure _ w')))

end

/-- Where a module cannot be found, there is nothing to find in it. -/
theorem exists_gives_find {disk : Disk} {w : World} {module : String}
    (absent : Absent disk (hooksWithin disk (maxCalls - 1)) w (Text.splitAt '.' module).reverse)
    (nonempty : module ≠ "") (start : module.toList.head? ≠ some '.') (className action : String) :
    ∃ w', Gives (find (hooks disk) module className action) w (.ok none) w' := by
  obtain ⟨outer, suffix, inside, e, w', raised, told⟩ := fails_of_absent absent
  have named := moduleName_ne_empty nonempty start suffix inside
  have whole : moduleName (Text.splitAt '.' module).reverse = module := by
    rw [moduleName, List.reverse_reverse]
    exact Text.intercalate_splitAt '.' module
  have lies := isWithin_moduleName suffix inside named
  rw [whole] at lies
  refine ⟨w', (Fails.attempt (x := (hooks disk).load module) raised).bind ?_⟩
  refine (told.gives_raised (hooks disk)).bind ?_
  simp only [unloaded, lies, if_true]
  exact gives_pure _ w'

/-- What comes of loading a module that cannot be found. -/
theorem lookup_of_absent {disk : Disk} {w : World} {controller : String}
    (absent : Absent disk (hooksWithin disk (maxCalls - 1)) w
      (Text.splitAt '.' (Controller.split controller).1).reverse) (action : String) :
    (lookup disk w controller action).doc =
      if (Controller.split controller).1 = "" ∨ action = "" then .ok none
      else if (Controller.split controller).1.toList.head? = some '.' then .error .relativeModule
      else .ok none := by
  by_cases empty : (Controller.split controller).1 = "" ∨ action = ""
  · rw [if_pos empty, lookup_of_blank empty]
  · rw [if_neg empty]
    obtain ⟨inModule, named⟩ := not_or.mp empty
    by_cases start : (Controller.split controller).1.toList.head? = some '.'
    · rw [if_pos start, lookup_of_relative inModule named start]
    · rw [if_neg start]
      obtain ⟨w', ended⟩ := exists_gives_find absent inModule start
        (Controller.split controller).2 action
      exact doc_lookup_of_gives inModule named start ended

/-- Such a controller has no documentation exactly if nothing is asked for, or its name does not start
with a point. -/
theorem doc_of_absent {disk : Disk} {w : World} {controller action : String}
    (absent : Absent disk (hooksWithin disk (maxCalls - 1)) w
      (Text.splitAt '.' (Controller.split controller).1).reverse) :
    let module := (Controller.split controller).1
    let answer := lookup disk w controller action
    (answer.doc = .ok none ↔ module = "" ∨ action = "" ∨ module.toList.head? ≠ some '.') ∧
    (answer.doc = .ok none ∨ answer.doc = .error .relativeModule) := by
  intro module
  dsimp only
  rw [lookup_of_absent absent]
  by_cases empty : module = "" ∨ action = ""
  · rw [if_pos empty]
    rcases empty with noModule | noAction
    · simp [noModule]
    · simp [noAction]
  · rw [if_neg empty]
    rw [not_or] at empty
    obtain ⟨asked, named⟩ := empty
    by_cases start : module.toList.head? = some '.'
    · simp [module, start, asked, named]
    · simp [module, start]

end LoadedModules

/-! ### Both look-ups -/

/-- **A controller whose module is missing has no documentation, with few exceptions.** Where no
file of the module is below the root, the look-up in source files reads nothing and prints nothing.
It fails only if the module names no file at all, or a path is too long. Where the module cannot be
loaded because it, or a package around it, is not found, the look-up in loaded modules fails only if
the name of the module starts with a point. -/
theorem missing_module_has_no_documentation (disk : Disk) (root : FilePath)
    (cache : SourceTree.Cache) (w : World) (controller action : String) :
    let module := (Controller.split controller).1
    ((∀ p ∈ SourceTree.candidates root module, disk.isFile p = false) →
      let answer := SourceTree.lookup disk root cache controller action
      answer.printed = .nothing ∧ answer.state = cache ∧
      (answer.doc = .ok none ↔ module = "" ∨ action = "" ∨
        ¬ SourceTree.IsNameless root module ∧
          ∀ p ∈ SourceTree.candidates root module, disk.isTooLong p = false) ∧
      (answer.doc = .ok none ∨ answer.doc = .error .noFileName ∨
        answer.doc = .error (.file .nameTooLong))) ∧
    (Absent disk (hooksWithin disk (maxCalls - 1)) w (Text.splitAt '.' module).reverse →
      let answer := LoadedModules.lookup disk w controller action
      (answer.doc = .ok none ↔ module = "" ∨ action = "" ∨ module.toList.head? ≠ some '.') ∧
      (answer.doc = .ok none ∨ answer.doc = .error .relativeModule)) := by
  refine ⟨fun nowhere => ?_, fun absent => LoadedModules.doc_of_absent absent⟩
  have outcome := SourceTree.lookup_of_none nowhere cache action
  exact ⟨congrArg Answer.printed outcome, congrArg Answer.state outcome,
    SourceTree.doc_of_none nowhere cache⟩

/-- A disk without files. -/
def bareDisk : Disk := ⟨.directory [], []⟩

/-- The world of a program that searches the working directory for modules. -/
def bareWorld : World := (World.empty false).withSearchPath [.ofText "."]

/-- A module of which nothing is found on the bare disk, nor in the library. -/
theorem absent_of_bare (name : String) (other : Library.core.contains name = false)
    (nowhere : bareDisk.findModule? name [.ofText "."] = none)
    (foreign : Library.isModule name = false) :
    Absent bareDisk (hooksWithin bareDisk (maxCalls - 1)) bareWorld [name] :=
  .top rfl other nowhere foreign

/-- Empty segments inside the name of a module, and at its end, do no harm. -/
theorem missing_module_with_empty_segments :
    (SourceTree.lookup bareDisk (.ofText "src") .empty "a..b..C" "m").doc = .ok none ∧
      (LoadedModules.lookup bareDisk bareWorld "a..b..C" "m").doc = .ok none := by
  have split : Controller.split "a..b..C" = ("a..b.", "C") := by decide +kernel
  have parts : (Text.splitAt '.' "a..b.").reverse = ["", "b", "", "a"] := by decide +kernel
  have both := missing_module_has_no_documentation bareDisk (.ofText "src") .empty bareWorld
    "a..b..C" "m"
  rw [split] at both
  dsimp only at both
  rw [parts] at both
  constructor
  · obtain ⟨-, -, unnoticed, -⟩ := both.1 (by decide +kernel)
    refine unnoticed.mpr (.inr (.inr ⟨?_, by decide +kernel⟩))
    rw [← SourceTree.steps_basePath_eq_nil_iff]
    decide +kernel
  · have outermost := absent_of_bare "a" (by decide +kernel) (by decide +kernel)
      (by decide +kernel)
    have absent : Absent bareDisk (hooksWithin bareDisk (maxCalls - 1)) bareWorld
        ["", "b", "", "a"] :=
      .package (by decide) rfl (.package (by decide) rfl (.package (by decide) rfl outermost))
    exact (both.2 absent).1.mpr (by decide +kernel)

/-- A module whose name starts with a point is missing, and loading it fails all the same; and so
does the search for a file of a module that is nothing but points. -/
theorem missing_module_can_fail :
    Absent bareDisk (hooksWithin bareDisk (maxCalls - 1)) bareWorld
        (Text.splitAt '.' (Controller.split ".a.C").1).reverse ∧
      (LoadedModules.lookup bareDisk bareWorld ".a.C" "m").doc = .error .relativeModule ∧
      (∀ p ∈ SourceTree.candidates (.ofText ".") (Controller.split "..C").1,
        bareDisk.isFile p = false) ∧
      (SourceTree.lookup bareDisk (.ofText ".") .empty "..C" "m").doc = .error .noFileName := by
  have parts : (Text.splitAt '.' (Controller.split ".a.C").1).reverse = ["a", ""] := by
    decide +kernel
  have outermost := absent_of_bare "" (by decide +kernel) (by decide +kernel)
    (by decide +kernel)
  refine ⟨?_, ?_, by decide +kernel, ?_⟩
  · rw [parts]
    exact .package (by decide) rfl outermost
  · rfl
  · rfl

end RouteDocs
