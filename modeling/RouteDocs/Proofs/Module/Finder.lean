import RouteDocs.Lookup.Source
import RouteDocs.Module.Finder
import RouteDocs.Proofs.Disk
import RouteDocs.Proofs.Text.Separator

namespace RouteDocs
open RouteDocs.Module

namespace FilePath

theorem stepsOf_eq_self {name : String} (nonempty : name ≠ "") (moves : name ≠ ".")
    (whole : '/' ∉ name.toList) : stepsOf name = [name] := by
  have parts : Text.splitAt '/' name = [name] := by
    have joined : ('/' : Char).toString.intercalate [name] = name := String.intercalate_singleton
    have clear : ∀ part ∈ [name], '/' ∉ part.toList := by simpa using whole
    have read := Text.splitAt_intercalate (List.cons_ne_nil name []) clear
    rwa [joined] at read
  simp [stepsOf, parts, nonempty, moves]

theorem child_eq_within {name : String} (nonempty : name ≠ "") (moves : name ≠ ".")
    (whole : '/' ∉ name.toList) (p : FilePath) : p.child name = p.within name := by
  have relative : (name.toList.head? == some '/') = false := by
    cases shape : name.toList with
    | nil => rfl
    | cons c cs =>
      rw [shape] at whole
      have other : c ≠ '/' := fun same => whole (same ▸ List.mem_cons_self)
      simpa using other
  simp [child, join, ofText, relative, stepsOf_eq_self nonempty moves whole, within]

theorem withExtension?_within {name : String} (plain : '.' ∉ name.toList) (p : FilePath)
    (extension : String) :
    (p.within name).withExtension? extension = some (p.within (name ++ extension)) := by
  simp [withExtension?, within, Text.cutLast_eq_self plain]

theorem within_injective {p q : FilePath} {name other : String}
    (same : p.within name = q.within other) : p = q ∧ name = other := by
  obtain ⟨absolute, steps⟩ := p
  obtain ⟨absolute', steps'⟩ := q
  have fields := FilePath.mk.inj same
  obtain ⟨outer, last⟩ := List.append_inj' fields.2 rfl
  exact ⟨congrArg₂ FilePath.mk fields.1 outer, List.singleton_inj.mp last⟩

theorem within_ne_self (p : FilePath) (name : String) : p.within name ≠ p := by
  intro same
  have steps := congrArg (fun q => q.steps.length) same
  simp [within] at steps

end FilePath

namespace Disk

/-- What has something below it is a directory. -/
theorem isDirectory_of_find_within {disk : Disk} {p : FilePath} {name : String} {t : FileTree}
    (found : disk.find (p.within name) = .ok t) : disk.isDirectory p = true := by
  cases text : FilePath.textTrouble? (p.within name).text with
  | some trouble => simp [find, locate, text, bind, Except.bind] at found
  | none =>
    rw [find, locate_eq_bind text] at found
    cases outer : disk.locate p with
    | error trouble => simp [outer, bind, Except.bind] at found
    | ok here =>
      cases held : disk.root.get? here with
      | none => simp [outer, follow, held, bind, Except.bind] at found
      | some t =>
        cases t with
        | file content => simp [outer, follow, held, bind, Except.bind] at found
        | directory entries =>
          simp [isDirectory, find, outer, held, bind, Except.bind, FileTree.isDirectory,
            FileTree.isFile]

theorem isDirectory_of_isFile_within {disk : Disk} {p : FilePath} {name : String}
    (found : disk.isFile (p.within name) = true) : disk.isDirectory p = true := by
  rw [isFile] at found
  cases tree : disk.find (p.within name) with
  | error trouble => simp [tree] at found
  | ok t => exact isDirectory_of_find_within tree

theorem isDirectory_of_isDirectory_within {disk : Disk} {p : FilePath} {name : String}
    (found : disk.isDirectory (p.within name) = true) : disk.isDirectory p = true := by
  rw [isDirectory] at found
  cases tree : disk.find (p.within name) with
  | error trouble => simp [tree] at found
  | ok t => exact isDirectory_of_find_within tree

theorem of_firstFile {disk : Disk} {paths : List FilePath} {p : FilePath}
    (found : disk.firstFile paths = .ok (some p)) : p ∈ paths ∧ disk.isFile p = true := by
  induction paths with
  | nil => cases found
  | cons q paths ih =>
    have later (rest : disk.firstFile paths = .ok (some p)) :
        p ∈ q :: paths ∧ disk.isFile p = true :=
      (ih rest).imp_left (List.mem_cons_of_mem q)
    rw [firstFile, find?] at found
    cases tree : disk.find q with
    | error trouble =>
      rw [tree] at found
      cases trouble <;> first | exact later found | cases found
    | ok t =>
      rw [tree] at found
      cases t with
      | directory entries => exact later found
      | file content =>
        obtain rfl : q = p := Option.some.inj (Except.ok.inj found)
        exact ⟨List.mem_cons_self, by simp [isFile, tree, FileTree.isFile]⟩

/-- The ends of the names of files that can hold a module. -/
def endings : List String := moduleEnds.map Prod.fst

theorem moduleFile?_eq_none {disk : Disk} {directory : FilePath} {name : String}
    (nowhere : ∀ ending ∈ endings, disk.isFile (directory.within (name ++ ending)) = false) :
    disk.moduleFile? directory name = none := by
  rw [moduleFile?, List.findSome?_eq_none_iff]
  rintro ⟨ending, kind⟩ here
  have absent := nowhere ending (List.mem_map_of_mem here)
  rw [FilePath.within] at absent
  simp [absent]

theorem moduleFile?_eq_source {disk : Disk} {directory : FilePath} {name : String}
    (file : disk.isFile (directory.within (name ++ ".py")) = true)
    (only : ∀ ending ∈ endings, disk.isFile (directory.within (name ++ ending)) = true →
      ending = ".py") :
    disk.moduleFile? directory name = some (.source, directory.within (name ++ ".py")) := by
  have other (ending : String) (here : ending ∈ endings) (differs : ending ≠ ".py") :
      disk.isFile { directory with steps := directory.steps ++ [name ++ ending] } = false :=
    Bool.eq_false_iff.mpr fun found => differs (only ending here found)
  rw [FilePath.within] at file ⊢
  simp only [moduleFile?, moduleEnds, List.findSome?_cons]
  rw [other ".cpython-311-x86_64-linux-gnu.so" (by decide) (by decide),
    other ".abi3.so" (by decide) (by decide), other ".so" (by decide) (by decide), file]
  rfl

section
variable {disk : Disk} {place file : FilePath} {name : String} (nonempty : name ≠ "")
  (whole : '/' ∉ name.toList) (isDirectory : disk.isDirectory place = true)
include nonempty whole isDirectory

theorem findIn_of_package
    (package : disk.moduleFile? (place.within name) "__init__" = some (.source, file)) :
    disk.findIn place name = some (.file .source file (some (place.within name))) := by
  have found : disk.moduleFile? { place with steps := place.steps ++ [name] } "__init__" =
      some (.source, file) := package
  rw [findIn]
  simp only [List.contains_eq_mem, whole, decide_false, isDirectory, Bool.not_true, Bool.or_false,
    Bool.false_eq_true, if_false, String.isEmpty_iff, nonempty, found]
  rfl

theorem findIn_of_file
    (noPackage : disk.moduleFile? (place.within name) "__init__" = none)
    (source : disk.moduleFile? place name = some (.source, file)) :
    disk.findIn place name = some (.file .source file none) := by
  have absent : disk.moduleFile? { place with steps := place.steps ++ [name] } "__init__" = none :=
    noPackage
  rw [findIn]
  simp only [List.contains_eq_mem, whole, decide_false, isDirectory, Bool.not_true, Bool.or_false,
    Bool.false_eq_true, if_false, String.isEmpty_iff, nonempty, absent, source]

end

end Disk

namespace SourceTree

/-- A segment of a module's name that is one step on a path. -/
def IsSegment (s : String) : Prop := s ≠ "" ∧ '/' ∉ s.toList

theorem not_mem_of_mem_splitAt {module segment : String}
    (here : segment ∈ Text.splitAt '.' module) : '.' ∉ segment.toList := by
  obtain ⟨piece, inside, rfl⟩ := List.mem_map.mp here
  intro point
  rw [String.toList_ofList] at point
  simpa using Text.not_of_mem_pieces inside '.' point

theorem foldl_child_eq {segments : List String}
    (plain : ∀ s ∈ segments, IsSegment s ∧ '.' ∉ s.toList) (root : FilePath) :
    segments.foldl FilePath.child root = { root with steps := root.steps ++ segments } := by
  induction segments generalizing root with
  | nil => simp
  | cons s segments ih =>
    obtain ⟨⟨⟨nonempty, whole⟩, pointless⟩, later⟩ := List.forall_mem_cons.mp plain
    have moves : s ≠ "." := fun same => pointless (same ▸ List.mem_singleton_self '.')
    rw [List.foldl_cons, FilePath.child_eq_within nonempty moves whole, ih later]
    simp [FilePath.within]

/-- The path of a module whose segments are steps. -/
theorem basePath_eq {root : FilePath} {module : String}
    (plain : ∀ s ∈ Text.splitAt '.' module, IsSegment s) :
    basePath root module = { root with steps := root.steps ++ Text.splitAt '.' module } :=
  foldl_child_eq (fun s here => ⟨plain s here, not_mem_of_mem_splitAt here⟩) root

/-- The paths below a directory that files of a module with an ending have. -/
def filesEnding (root : FilePath) (module ending : String) : List FilePath :=
  ((basePath root module).withExtension? ending).toList ++
    [(basePath root module).child ("__init__" ++ ending)]

/-- The file is the one in which the source of the module is found below the directory, and no other
file there can hold the module. -/
structure IsOnlyFile (disk : Disk) (root : FilePath) (module : String) (file : FilePath) :
    Prop where
  segments : ∀ s ∈ Text.splitAt '.' module, IsSegment s
  found : file? disk root module = .ok (some file)
  only : ∀ ending ∈ Disk.endings, ∀ p ∈ filesEnding root module ending,
    disk.isFile p = true → p = file

/-- The directory in which the file of a module is searched for, where the module lies in packages
with these names, the last first. -/
def directoryOf (root : FilePath) (outer : List String) : FilePath :=
  { root with steps := root.steps ++ outer.reverse }

variable {disk : Disk} {root file : FilePath} {module last : String} {outer : List String}

theorem basePath_eq_within (plain : ∀ s ∈ Text.splitAt '.' module, IsSegment s)
    (parts : (Text.splitAt '.' module).reverse = last :: outer) :
    basePath root module = (directoryOf root outer).within last := by
  have whole : Text.splitAt '.' module = outer.reverse ++ [last] := by
    rw [← List.reverse_reverse (Text.splitAt '.' module), parts, List.reverse_cons]
  rw [basePath_eq plain, whole, FilePath.within, directoryOf, List.append_assoc]

theorem filesEnding_eq (plain : ∀ s ∈ Text.splitAt '.' module, IsSegment s)
    (parts : (Text.splitAt '.' module).reverse = last :: outer) {ending : String}
    (here : ending ∈ Disk.endings) :
    filesEnding root module ending = [(directoryOf root outer).within (last ++ ending),
      ((directoryOf root outer).within last).within ("__init__" ++ ending)] := by
  have inside : last ∈ Text.splitAt '.' module := by
    rw [← List.mem_reverse, parts]
    exact List.mem_cons_self
  have whole : ∀ ending ∈ Disk.endings, "__init__" ++ ending ≠ "" ∧ "__init__" ++ ending ≠ "." ∧
      '/' ∉ ("__init__" ++ ending).toList := by
    decide +kernel
  obtain ⟨nonempty, moves, single⟩ := whole ending here
  rw [filesEnding, basePath_eq_within plain parts,
    FilePath.withExtension?_within (not_mem_of_mem_splitAt inside),
    FilePath.child_eq_within nonempty moves single]
  rfl

theorem of_file? (found : file? disk root module = .ok (some file)) :
    file ∈ filesEnding root module ".py" ∧ disk.isFile file = true := by
  rw [file?] at found
  cases named : (basePath root module).withExtension? ".py" with
  | none => simp [named] at found
  | some source =>
    have paths : filesEnding root module ".py" =
        [source, (basePath root module).child "__init__.py"] := by
      rw [filesEnding, named]
      rfl
    rw [paths]
    simp only [named] at found
    cases first : disk.firstFile [source, (basePath root module).child "__init__.py"] with
    | error cause => simp [first] at found
    | ok path =>
      rw [first] at found
      cases found
      exact Disk.of_firstFile first

/-- The only file of a module is found where the modules of its package are searched for. -/
theorem IsOnlyFile.findIn (only : IsOnlyFile disk root module file)
    (parts : (Text.splitAt '.' module).reverse = last :: outer) :
    ∃ package, disk.findIn (directoryOf root outer) last = some (.file .source file package) := by
  have plain := only.segments
  have inside : last ∈ Text.splitAt '.' module := by
    rw [← List.mem_reverse, parts]
    exact List.mem_cons_self
  obtain ⟨nonempty, whole⟩ := plain last inside
  have paths (ending : String) (here : ending ∈ Disk.endings) :
      filesEnding root module ending = [(directoryOf root outer).within (last ++ ending),
        ((directoryOf root outer).within last).within ("__init__" ++ ending)] :=
    filesEnding_eq plain parts here
  obtain ⟨among, isFile⟩ := of_file? only.found
  rw [paths ".py" (by decide)] at among
  generalize directoryOf root outer = place at paths among ⊢
  have beside (ending : String) (here : ending ∈ Disk.endings)
      (found : disk.isFile (place.within (last ++ ending)) = true) :
      place.within (last ++ ending) = file :=
    only.only ending here _ (by simp [paths ending here]) found
  have within (ending : String) (here : ending ∈ Disk.endings)
      (found : disk.isFile ((place.within last).within ("__init__" ++ ending)) = true) :
      (place.within last).within ("__init__" ++ ending) = file :=
    only.only ending here _ (by simp [paths ending here]) found
  rcases List.mem_pair.mp among with rfl | rfl
  · have noPackage : disk.moduleFile? (place.within last) "__init__" = none := by
      refine Disk.moduleFile?_eq_none fun ending here => ?_
      refine Bool.eq_false_iff.mpr fun found => ?_
      exact FilePath.within_ne_self place last
        (FilePath.within_injective (within ending here found)).1
    refine ⟨none, Disk.findIn_of_file nonempty whole (Disk.isDirectory_of_isFile_within isFile)
      noPackage (Disk.moduleFile?_eq_source isFile fun ending here found => ?_)⟩
    exact (String.append_right_inj last).mp
      (FilePath.within_injective (beside ending here found)).2
  · have package := Disk.isDirectory_of_isFile_within isFile
    refine ⟨some (place.within last), Disk.findIn_of_package nonempty whole
      (Disk.isDirectory_of_isDirectory_within package)
      (Disk.moduleFile?_eq_source isFile fun ending here found => ?_)⟩
    exact (String.append_right_inj "__init__").mp
      (FilePath.within_injective (within ending here found)).2

end SourceTree
end RouteDocs
