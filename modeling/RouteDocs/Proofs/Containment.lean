import RouteDocs.Proofs.Agreement
import RouteDocs.Proofs.SourceReading

/-!
# Where the files of controllers lie

* `FilePath.IsBelow`: paths that lead down from a directory;
* `SourceTree.LeadsDown`: names of modules that name a place below any directory;
* `SourceTree.isBelow_of_candidate`: the files of such a module lie below the directory;
* `SourceTree.candidates_of_absolute`, `SourceTree.candidates_of_stepless`: those of other modules;
* `SourceTree.opened_file_lies_below_root`: the file that a look-up reads, and on what it depends;
* `SourceTree.opened_file_can_lie_outside`: controllers for which a file outside the directory is read.
-/

namespace RouteDocs

/-! ### Paths -/

namespace FilePath

/-- The path that goes on from `p` by these steps. -/
def onward (p : FilePath) (steps : List String) : FilePath := { p with steps := p.steps ++ steps }

/-- The path leads down from a directory by at least one step. -/
def IsBelow (root p : FilePath) : Prop :=
  ∃ steps, p = root.onward steps ∧ steps ≠ [] ∧ ".." ∉ steps

theorem onward_append (p : FilePath) (steps : List String) (name : String) :
    p.onward (steps ++ [name]) = (p.onward steps).within name := by
  rw [onward, onward, within, List.append_assoc]

theorem onward_onward (p : FilePath) (steps more : List String) :
    (p.onward steps).onward more = p.onward (steps ++ more) := by
  rw [onward, onward, onward, List.append_assoc]

theorem isBelow_onward {root : FilePath} {steps : List String} (nonempty : steps ≠ [])
    (down : ".." ∉ steps) : IsBelow root (root.onward steps) :=
  ⟨steps, rfl, nonempty, down⟩

/-- A path with no more steps than the directory does not lie below it. -/
theorem not_isBelow_of_length {root p : FilePath} (short : p.steps.length ≤ root.steps.length) :
    ¬ IsBelow root p := by
  rintro ⟨steps, rfl, nonempty, -⟩
  rw [onward, List.length_append] at short
  have := List.length_pos_iff.mpr nonempty
  omega

/-- Whether a name starts again at the root of the file system. -/
def StartsAtRoot (name : String) : Prop := name.toList.head? = some '/'

theorem child_of_relative {name : String} (relative : ¬ StartsAtRoot name) (p : FilePath) :
    p.child name = p.onward (stepsOf name) := by
  have goesOn : (ofText name).isAbsolute = false := by simpa [ofText, StartsAtRoot] using relative
  rw [child, join, goesOn]
  rfl

theorem child_of_absolute {name : String} (absolute : StartsAtRoot name) (p : FilePath) :
    p.child name = ⟨true, stepsOf name⟩ := by
  have starts : (ofText name).isAbsolute = true := by simpa [ofText, StartsAtRoot] using absolute
  rw [child, join, starts, if_pos rfl, ofText, ← starts]
  rfl

theorem not_mem_of_mem_stepsOf {c : Char} {name step : String} (clear : c ∉ name.toList)
    (here : step ∈ stepsOf name) : c ∉ step.toList := by
  obtain ⟨piece, inside, rfl⟩ := List.mem_map.mp (List.mem_of_mem_filter here)
  rw [String.toList_ofList]
  exact fun inner => clear (Text.mem_of_mem_pieces inside c inner)

end FilePath

namespace Disk

/-- A step other than the one up leads into the place by its name. -/
theorem eq_concat_of_follow {d : Disk} {here there : Place} {name : String} (down : name ≠ "..")
    (found : d.follow here name = .ok there) : there = here ++ [name] := by
  rw [follow, if_neg down] at found
  split at found
  · cases found
  · cases found
  · split at found
    · cases found
    · exact (Except.ok.inj found).symm

/-- Below a directory that holds the same on two disks, paths lead to the same places. -/
theorem locate_onward {d d' : Disk} {root : FilePath} {here : Place} {steps : List String}
    (start : d.locate root = .ok here) (start' : d'.locate root = .ok here)
    (same : ∀ rest, d'.root.get? (here ++ rest) = d.root.get? (here ++ rest))
    (down : ".." ∉ steps) :
    d'.locate (root.onward steps) = d.locate (root.onward steps) ∧
      ∀ there, d.locate (root.onward steps) = .ok there → ∃ rest, there = here ++ rest := by
  induction steps using List.reverseRecOn with
  | nil =>
    have whole : root.onward [] = root := by simp [FilePath.onward]
    rw [whole, start, start']
    refine ⟨rfl, fun there found => ⟨[], ?_⟩⟩
    cases found
    rw [List.append_nil]
  | append_singleton outer name ih =>
    rw [List.mem_append, List.mem_singleton, not_or] at down
    obtain ⟨agree, inside⟩ := ih down.1
    rw [FilePath.onward_append]
    cases text : FilePath.textTrouble? ((root.onward outer).within name).text with
    | some trouble => simp [locate, text]
    | none =>
      rw [locate_eq_bind text, locate_eq_bind text, agree]
      cases around : d.locate (root.onward outer) with
      | error trouble =>
        refine ⟨rfl, fun there found => ?_⟩
        cases found
      | ok place =>
        obtain ⟨rest, rfl⟩ := inside place around
        have step : d'.follow (here ++ rest) name = d.follow (here ++ rest) name := by
          rw [follow, follow, same]
        refine ⟨step, fun there found => ⟨rest ++ [name], ?_⟩⟩
        rw [eq_concat_of_follow (Ne.symm down.2) found, List.append_assoc]

/-- What is below a directory that holds the same on two disks, is found on both. -/
theorem find_of_isBelow {d d' : Disk} {root p : FilePath} {here : Place}
    (start : d.locate root = .ok here) (start' : d'.locate root = .ok here)
    (same : ∀ rest, d'.root.get? (here ++ rest) = d.root.get? (here ++ rest))
    (below : FilePath.IsBelow root p) : d'.find p = d.find p := by
  obtain ⟨steps, rfl, -, down⟩ := below
  obtain ⟨agree, inside⟩ := locate_onward start start' same down
  rw [find, find, agree]
  cases found : d.locate (root.onward steps) with
  | error trouble => rfl
  | ok there =>
    obtain ⟨rest, rfl⟩ := inside there found
    simp only [bind, Except.bind, same]

end Disk

namespace SourceTree
open FilePath (IsBelow StartsAtRoot)

/-! ### The paths of a module -/

/-- The steps that the name of a module stands for. -/
def stepsOf (module : String) : List String :=
  (Text.splitAt '.' module).flatMap FilePath.stepsOf

/-- The name of a module names a place below any directory: no segment of it starts again at the root
of the file system, and it has at least one step. -/
structure LeadsDown (module : String) : Prop where
  relative : ∀ segment ∈ Text.splitAt '.' module, ¬ StartsAtRoot segment
  steps : stepsOf module ≠ []

theorem foldl_child_of_relative {segments : List String}
    (relative : ∀ segment ∈ segments, ¬ StartsAtRoot segment) (p : FilePath) :
    segments.foldl FilePath.child p = p.onward (segments.flatMap FilePath.stepsOf) := by
  induction segments generalizing p with
  | nil => simp [FilePath.onward]
  | cons segment segments ih =>
    obtain ⟨first, others⟩ := List.forall_mem_cons.mp relative
    rw [List.foldl_cons, FilePath.child_of_relative first, ih others, FilePath.onward_onward,
      List.flatMap_cons]

/-- Once a segment starts at the root, it makes no difference where the path has been before. -/
theorem foldl_child_of_absolute {segments : List String}
    (absolute : ∃ segment ∈ segments, StartsAtRoot segment) :
    ∃ steps, ∀ p, segments.foldl FilePath.child p = ⟨true, steps⟩ := by
  induction segments using List.reverseRecOn with
  | nil =>
    obtain ⟨segment, here, -⟩ := absolute
    cases here
  | append_singleton init last ih =>
    by_cases starts : StartsAtRoot last
    · refine ⟨FilePath.stepsOf last, fun p => ?_⟩
      rw [List.foldl_append, List.foldl_cons, List.foldl_nil, FilePath.child_of_absolute starts]
    · obtain ⟨segment, here, atRoot⟩ := absolute
      have before : segment ∈ init := by
        rcases List.mem_append.mp here with before | same
        · exact before
        · rw [List.mem_singleton.mp same] at atRoot
          exact absurd atRoot starts
      obtain ⟨steps, outer⟩ := ih ⟨segment, before, atRoot⟩
      refine ⟨steps ++ FilePath.stepsOf last, fun p => ?_⟩
      rw [List.foldl_append, List.foldl_cons, List.foldl_nil, outer,
        FilePath.child_of_relative starts]
      rfl

theorem basePath_of_relative {module : String}
    (relative : ∀ segment ∈ Text.splitAt '.' module, ¬ StartsAtRoot segment) (root : FilePath) :
    basePath root module = root.onward (stepsOf module) :=
  foldl_child_of_relative relative root

theorem not_mem_of_mem_stepsOf {module step : String} (here : step ∈ stepsOf module) :
    '.' ∉ step.toList := by
  obtain ⟨segment, inside, inner⟩ := List.mem_flatMap.mp here
  exact FilePath.not_mem_of_mem_stepsOf (not_mem_of_mem_splitAt inside) inner

theorem up_not_mem_stepsOf (module : String) : ".." ∉ stepsOf module := by
  intro here
  exact not_mem_of_mem_stepsOf here (by decide)

theorem child_package (p : FilePath) : p.child "__init__.py" = p.onward ["__init__.py"] := by
  rw [FilePath.child_eq_within (by decide) (by decide) (by decide)]
  rfl

/-- The files of a module whose name leads down: that of its last step, and that of its package. -/
theorem candidates_of_leadsDown {module : String} (down : LeadsDown module) (root : FilePath) :
    ∃ outer last, stepsOf module = outer ++ [last] ∧ candidates root module =
      [root.onward (outer ++ [last ++ ".py"]), root.onward (stepsOf module ++ ["__init__.py"])] := by
  obtain ⟨outer, last, steps⟩ : ∃ outer last, stepsOf module = outer ++ [last] :=
    ⟨_, _, (List.dropLast_append_getLast down.steps).symm⟩
  have inside : last ∈ stepsOf module := by simp [steps]
  have plain : '.' ∉ last.toList := not_mem_of_mem_stepsOf inside
  refine ⟨outer, last, steps, ?_⟩
  rw [candidates, basePath_of_relative down.relative, child_package, FilePath.onward_onward]
  rw [steps, FilePath.onward_append, FilePath.withExtension?_within plain]
  simp only [Option.toList_some, List.singleton_append, FilePath.onward_append]

theorem isBelow_of_candidate {root file : FilePath} {module : String} (down : LeadsDown module)
    (here : file ∈ candidates root module) : IsBelow root file := by
  have noUp := up_not_mem_stepsOf module
  obtain ⟨outer, last, steps, paths⟩ := candidates_of_leadsDown down root
  rw [paths] at here
  rcases List.mem_pair.mp here with rfl | rfl
  · refine FilePath.isBelow_onward (by simp) ?_
    rw [steps] at noUp
    rw [List.mem_append, List.mem_singleton, not_or]
    refine ⟨fun inner => noUp (List.mem_append_left _ inner), fun same => ?_⟩
    have letter : 'p' ∈ "..".toList := by
      rw [same, String.toList_append]
      exact List.mem_append_right _ (by decide)
    exact absurd letter (by decide)
  · refine FilePath.isBelow_onward (by simp) ?_
    rw [List.mem_append, List.mem_singleton, not_or]
    exact ⟨noUp, by decide⟩

/-- The files of a module of which a segment starts at the root are the same for all directories. -/
theorem candidates_of_absolute {root file : FilePath} {module : String}
    (absolute : ∃ segment ∈ Text.splitAt '.' module, StartsAtRoot segment)
    (here : file ∈ candidates root module) :
    file.isAbsolute = true ∧ ∀ other, file ∈ candidates other module := by
  obtain ⟨steps, base⟩ := foldl_child_of_absolute absolute
  have same (other : FilePath) : candidates other module = candidates root module := by
    rw [candidates, candidates, basePath, basePath, base, base]
  constructor
  · rw [candidates, basePath, base, child_package] at here
    rcases List.mem_append.mp here with source | package
    · rw [FilePath.withExtension?] at source
      cases last : steps.getLast? with
      | none => simp [last] at source
      | some name =>
        simp only [last, Option.toList_some, List.mem_singleton] at source
        rw [source]
    · rw [List.mem_singleton.mp package]
      rfl
  · intro other
    rwa [same]

/-- The files of a module without steps: the one beside the directory, and the one that makes the
directory itself a package. -/
theorem candidates_of_stepless {root file : FilePath} {module : String}
    (relative : ∀ segment ∈ Text.splitAt '.' module, ¬ StartsAtRoot segment)
    (stepless : stepsOf module = []) (here : file ∈ candidates root module) :
    file = root.onward ["__init__.py"] ∨
      root.withExtension? ".py" = some file ∧ ¬ IsBelow root file := by
  have base : basePath root module = root := by
    rw [basePath_of_relative relative, stepless]
    simp [FilePath.onward]
  rw [candidates, base, child_package] at here
  rcases List.mem_append.mp here with beside | package
  · right
    rw [Option.mem_toList] at beside
    refine ⟨beside, FilePath.not_isBelow_of_length ?_⟩
    rw [FilePath.withExtension?] at beside
    cases last : root.steps.getLast? with
    | none =>
      rw [last] at beside
      cases beside
    | some name =>
      have nonempty : root.steps ≠ [] := by
        rintro empty
        rw [empty] at last
        cases last
      have := List.length_pos_iff.mpr nonempty
      rw [last] at beside
      cases beside
      rw [List.length_append, List.length_dropLast, List.length_singleton]
      omega
  · exact .inl (List.mem_singleton.mp package)

/-! ### What a look-up sees -/

variable {disk : Disk} {root : FilePath} {cache : Cache} {controller action : String}

theorem firstFile_congr {disk' : Disk} {paths : List FilePath}
    (same : ∀ p ∈ paths, disk'.find p = disk.find p) :
    disk'.firstFile paths = disk.firstFile paths := by
  induction paths with
  | nil => rfl
  | cons p paths ih =>
    obtain ⟨first, others⟩ := List.forall_mem_cons.mp same
    rw [Disk.firstFile, Disk.firstFile, Disk.find?, Disk.find?, first, ih others]

/-- Where the file of a module is, depends on the paths alone at which it can be. -/
theorem file?_congr {disk' : Disk} {module : String}
    (same : ∀ p ∈ candidates root module, disk'.find p = disk.find p) :
    file? disk' root module = file? disk root module := by
  rw [file?, file?]
  cases named : (basePath root module).withExtension? ".py" with
  | none => rfl
  | some file =>
    rw [candidates, named] at same
    have first := firstFile_congr same
    rw [Option.toList_some, List.singleton_append] at first
    simp only [first]

theorem Opens.candidate {file : FilePath} (opens : Opens disk root cache controller action file) :
    file ∈ candidates root (Controller.split controller).1 :=
  (of_file? opens.located.found).1

/-- A look-up sees nothing but the paths at which the file of the module can be. -/
theorem lookup_congr_of_candidates {disk' : Disk}
    (same : ∀ p ∈ candidates root (Controller.split controller).1, disk'.find p = disk.find p) :
    lookup disk' root cache controller action = lookup disk root cache controller action := by
  refine lookup_congr (file?_congr same) fun file opens => ?_
  rw [Disk.readText, Disk.readText, Disk.readBytes, Disk.readBytes, same file opens.candidate]

/-- **Where the file lies that is read.** If the name of the controller's module leads down, the file
that a look-up reads lies below the root: it is the one of the module's last step, or the one that makes
the module a package. The look-up then depends on nothing that is not below the root. All other names
read a file that has nothing to do with the root, since a segment starts again at the root of the file
system; or, since there are no steps, one that makes the root itself a package or stands beside it. -/
theorem opened_file_lies_below_root (disk : Disk) (root : FilePath) (cache : Cache)
    (controller action : String) :
    let module := (Controller.split controller).1
    (LeadsDown module →
      (∀ file, Opens disk root cache controller action file → IsBelow root file ∧
        ∃ outer last, stepsOf module = outer ++ [last] ∧
          (file = root.onward (outer ++ [last ++ ".py"]) ∨
            file = root.onward (stepsOf module ++ ["__init__.py"]))) ∧
      ∀ disk' : Disk, (∀ p, IsBelow root p → disk'.find p = disk.find p) →
        lookup disk' root cache controller action = lookup disk root cache controller action) ∧
    (¬ LeadsDown module → ∀ file, Opens disk root cache controller action file →
      (∃ segment ∈ Text.splitAt '.' module, StartsAtRoot segment) ∧ file.isAbsolute = true ∧
        (∀ other, file ∈ candidates other module) ∨
      stepsOf module = [] ∧ (file = root.onward ["__init__.py"] ∨
        root.withExtension? ".py" = some file ∧ ¬ IsBelow root file)) := by
  intro module
  constructor
  · intro down
    constructor
    · intro file opens
      refine ⟨isBelow_of_candidate down opens.candidate, ?_⟩
      obtain ⟨outer, last, steps, paths⟩ := candidates_of_leadsDown down root
      have here := opens.candidate
      rw [paths] at here
      exact ⟨outer, last, steps, List.mem_pair.mp here⟩
    · intro disk' same
      exact lookup_congr_of_candidates fun p here => same p (isBelow_of_candidate down here)
  · intro notDown file opens
    by_cases absolute : ∃ segment ∈ Text.splitAt '.' module, StartsAtRoot segment
    · left
      obtain ⟨isAbsolute, everywhere⟩ := candidates_of_absolute absolute opens.candidate
      exact ⟨absolute, isAbsolute, everywhere⟩
    · right
      have relative : ∀ segment ∈ Text.splitAt '.' module, ¬ StartsAtRoot segment := by
        intro segment here starts
        exact absolute ⟨segment, here, starts⟩
      have stepless : stepsOf module = [] := by
        by_contra steps
        exact notDown ⟨relative, steps⟩
      exact ⟨stepless, candidates_of_stepless relative stepless opens.candidate⟩

/-! ### Controllers inside and outside -/

/-- A disk with a directory and a module below it. -/
def innerDisk : Disk := diskOf [(["r", "a", "b.py"], "class C:\n def m(self):\n  'd'\n")]

/-- The disk with a module beside the directory. -/
def rootedDisk : Disk := diskOf [(["r", "a", "b.py"], "class C:\n def m(self):\n  'd'\n"),
  (["r.py"], "class C:\n def m(self):\n  'e'\n")]

/-- Empty segments are no steps, and one with a `/` is two. What is beside the directory makes no
difference. -/
theorem opened_file_lies_below_root_nested :
    Opens rootedDisk (.ofText "r") .empty "a/b..C" "m" (.ofText "r/a/b.py") ∧
    IsBelow (.ofText "r") (.ofText "r/a/b.py") ∧
    lookup innerDisk (.ofText "r") .empty "a/b..C" "m" =
      lookup rootedDisk (.ofText "r") .empty "a/b..C" "m" := by
  have down : LeadsDown (Controller.split "a/b..C").1 := by
    have segments : Text.splitAt '.' (Controller.split "a/b..C").1 = ["a/b", ""] := by decide +kernel
    refine ⟨?_, by decide +kernel⟩
    rw [segments]
    simp [StartsAtRoot]
  have opens : Opens rootedDisk (.ofText "r") .empty "a/b..C" "m" (.ofText "r/a/b.py") :=
    ⟨⟨by decide +kernel, by decide, by decide +kernel⟩, rfl⟩
  obtain ⟨inside, -⟩ := opened_file_lies_below_root rootedDisk (.ofText "r") .empty "a/b..C" "m"
  obtain ⟨below, frame⟩ := inside down
  refine ⟨opens, (below _ opens).1, frame innerDisk fun p isBelow => ?_⟩
  have here : rootedDisk.locate (.ofText "r") = .ok ["r"] := by rfl
  have here' : innerDisk.locate (.ofText "r") = .ok ["r"] := by rfl
  exact Disk.find_of_isBelow here here' (fun rest => rfl) isBelow

/-- For a module whose name is a point the file beside the root is read, and for one that starts with
`/` a file that has nothing to do with the root. -/
theorem opened_file_can_lie_outside :
    Opens rootedDisk (.ofText "r") .empty "..C" "m" (.ofText "r.py") ∧
    ¬ IsBelow (.ofText "r") (.ofText "r.py") ∧
    (lookup rootedDisk (.ofText "r") .empty "..C" "m").doc.toOption = some (some "e") ∧
    Opens rootedDisk (.ofText "r") .empty "/r.C" "m" (.ofText "/r.py") ∧
    ¬ IsBelow (.ofText "r") (.ofText "/r.py") ∧
    (lookup rootedDisk (.ofText "r") .empty "/r.C" "m").doc.toOption = some (some "e") := by
  refine ⟨⟨⟨by decide +kernel, by decide, by decide +kernel⟩, rfl⟩, ?_, by decide +kernel,
    ⟨⟨by decide +kernel, by decide, by decide +kernel⟩, rfl⟩, ?_, by decide +kernel⟩
  · exact FilePath.not_isBelow_of_length (by decide +kernel)
  · exact FilePath.not_isBelow_of_length (by decide +kernel)

end SourceTree
end RouteDocs
