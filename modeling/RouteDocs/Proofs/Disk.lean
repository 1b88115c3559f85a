import RouteDocs.Proofs.FilePath
import RouteDocs.Proofs.FileTree

/-!
# Making and removing directories

A plain path names the place below the start of its steps. Main statements:

* `Disk.locate_within`, `Disk.locate_within_error`: where a path leads, by what is around its end;
* `Disk.makeDirectories_cases`: a missing directory and those around it are made, or a file is in
  the way and nothing changes;
* `Disk.removeDirectory_of_directory`, `Disk.writeFile_of_missing`: what else the disk holds stays.
-/

namespace RouteDocs
namespace Disk

open FileTree (Node)

/-- Where the steps of a path start. -/
def start (d : Disk) (p : FilePath) : Place := if p.isAbsolute then [] else d.working

/-- The place that a path names, if each of its steps leads down. -/
def spot (d : Disk) (p : FilePath) : Place := d.start p ++ p.steps

/-- What a place of the disk holds, apart from what is below it. -/
def node? (d : Disk) (place : Place) : Option Node := d.root.node? place

/-- A file is at a place or on the way to it. -/
def Blocked (d : Disk) (place : Place) : Prop :=
  ∃ q content, q <+: place ∧ d.node? q = some (.file content)

variable {d : Disk} {p : FilePath} {name : String}

theorem spot_within (d : Disk) (p : FilePath) (name : String) :
    d.spot (p.within name) = d.spot p ++ [name] :=
  (List.append_assoc (d.start p) p.steps [name]).symm

theorem Blocked.mono {place inner : Place} (h : d.Blocked place) (hp : place <+: inner) :
    d.Blocked inner := by
  obtain ⟨q, content, hq, file⟩ := h
  exact ⟨q, content, hq.trans hp, file⟩

theorem node?_of_append {place rest : Place} (hr : rest ≠ [])
    (h : d.node? (place ++ rest) ≠ none) : d.node? place = some .directory :=
  FileTree.node?_of_append hr h

theorem node?_on_way {place q : Place} (h : d.node? place = some .directory)
    (hq : q <+: place) : d.node? q = some .directory := by
  obtain ⟨rest, rfl⟩ := hq
  by_cases hr : rest = []
  · rwa [hr, List.append_nil] at h
  · exact node?_of_append hr (by simp [h])

theorem not_blocked_of_directory {place : Place} (h : d.node? place = some .directory) :
    ¬ d.Blocked place := by
  rintro ⟨q, content, hq, file⟩
  rw [node?_on_way h hq] at file
  simp at file

/-! ### Finding a place -/

theorem locate_eq_bind (h : FilePath.textTrouble? (p.within name).text = none) :
    d.locate (p.within name) = (d.locate p).bind fun here => d.follow here name := by
  have outer := FilePath.textTrouble?_within h
  unfold locate
  rw [h, outer]
  show (p.steps ++ [name]).foldlM d.follow (d.start p) = _
  simp only [List.foldlM_append, List.foldlM_cons, List.foldlM_nil, bind_pure]
  rfl

theorem locate_of_no_steps (hp : p.IsPlain) (h : p.steps = []) : d.locate p = .ok (d.spot p) := by
  simp [locate, hp.text, h, spot, start, pure, Except.pure]

theorem follow_directory {here : Place} (hp : (p.within name).IsPlain)
    (h : d.node? here = some .directory) : d.follow here name = .ok (here ++ [name]) := by
  obtain ⟨entries, he⟩ := (FileTree.node?_eq_directory_iff _ _).mp h
  have fits := Nat.not_lt.mpr hp.name_fits
  simp [follow, he, fits, hp.ne_up]

theorem follow_file {here : Place} {content : ByteArray}
    (h : d.node? here = some (.file content)) : d.follow here name = .error .notDirectory := by
  simp [follow, (FileTree.node?_eq_file_iff _ _ _).mp h]

theorem follow_none {here : Place} (h : d.node? here = none) :
    d.follow here name = .error .notFound := by
  simp [follow, (FileTree.node?_eq_none_iff _ _).mp h]

/-- A path whose parent is a directory leads to its own place. -/
theorem locate_within (hp : (p.within name).IsPlain) (h : d.node? (d.spot p) = some .directory) :
    d.locate (p.within name) = .ok (d.spot (p.within name)) := by
  induction p using FilePath.within_induction generalizing name with
  | start p none =>
    rw [locate_eq_bind hp.text, locate_of_no_steps hp.of_within none, spot_within]
    exact follow_directory hp h
  | step outer last ih =>
    have around : d.node? (d.spot outer) = some .directory :=
      node?_on_way h ⟨[last], (spot_within ..).symm⟩
    rw [locate_eq_bind hp.text, ih hp.of_within around, spot_within d (outer.within last)]
    exact follow_directory hp h

/-- A path to a directory leads to its own place. -/
theorem locate_of_directory (hp : p.IsPlain) (h : d.node? (d.spot p) = some .directory) :
    d.locate p = .ok (d.spot p) := by
  cases p using FilePath.within_induction with
  | start p none => exact locate_of_no_steps hp none
  | step outer last ih =>
    exact locate_within hp (node?_on_way h ⟨[last], (spot_within ..).symm⟩)

theorem follow_not_directory (name : String) {here : Place}
    (h : d.node? here ≠ some .directory) :
    d.follow here name = .error .notDirectory ∧ d.Blocked here ∨
      d.follow here name = .error .notFound ∧ d.node? here = none := by
  cases hn : d.node? here with
  | none => exact .inr ⟨follow_none hn, rfl⟩
  | some node =>
    cases node with
    | directory => exact absurd hn h
    | file content => exact .inl ⟨follow_file hn, here, content, List.prefix_refl _, hn⟩

/-- A path whose parent is no directory leads nowhere: a file is in the way, or nothing is there. -/
theorem locate_within_error (hp : p.IsPlain)
    (text : FilePath.textTrouble? (p.within name).text = none)
    (h : d.node? (d.spot p) ≠ some .directory) :
    d.locate (p.within name) = .error .notDirectory ∧ d.Blocked (d.spot p) ∨
      d.locate (p.within name) = .error .notFound ∧ d.node? (d.spot p) = none := by
  induction p using FilePath.within_induction generalizing name with
  | start p none =>
    rw [locate_eq_bind text, locate_of_no_steps hp none]
    exact follow_not_directory name h
  | step outer last ih =>
    rw [locate_eq_bind text]
    by_cases around : d.node? (d.spot outer) = some .directory
    · rw [locate_within hp around]
      exact follow_not_directory name h
    · rcases ih hp.of_within hp.text around with ⟨located, blocked⟩ | ⟨located, nothing⟩
      · rw [located]
        exact .inl ⟨rfl, blocked.mono ⟨[last], (spot_within ..).symm⟩⟩
      · rw [located]
        refine .inr ⟨rfl, ?_⟩
        rw [spot_within]
        by_contra something
        exact around (node?_of_append (by simp) something)

/-! ### Making directories -/

/-- The directory at a place is there with those around it, and no other place changed. -/
structure HasMade (d : Disk) (place : Place) (made : Disk) : Prop where
  working : made.working = d.working
  clear : ¬ d.Blocked place
  on_way : ∀ q, q <+: place → made.node? q = some .directory
  elsewhere : ∀ q, ¬ q <+: place → made.node? q = d.node? q

theorem HasMade.of_directory {place : Place} (h : d.node? place = some .directory) :
    d.HasMade place d where
  working := rfl
  clear := not_blocked_of_directory h
  on_way _ hq := node?_on_way h hq
  elsewhere _ _ := rfl

theorem not_blocked_concat {place : Place} (clear : ¬ d.Blocked place)
    (h : d.node? (place ++ [name]) = none) : ¬ d.Blocked (place ++ [name]) := by
  rintro ⟨q, content, hq, file⟩
  rcases List.prefix_concat_iff.mp hq with rfl | hq
  · rw [h] at file
    cases file
  · exact clear ⟨q, content, hq, file⟩

theorem makeDirectory_of_error {trouble : FileTrouble} (h : d.locate p = .error trouble) :
    d.makeDirectory p = .error trouble := by
  simp [makeDirectory, h, bind, Except.bind]

theorem makeDirectory_of_present (hp : (p.within name).IsPlain)
    (h : d.node? (d.spot (p.within name)) ≠ none) :
    d.makeDirectory (p.within name) = .error .alreadyExists := by
  have around : d.node? (d.spot p) = some .directory := by
    rw [spot_within] at h
    exact node?_of_append (by simp) h
  have present : (d.root.get? (d.spot (p.within name))).isSome := by
    rw [Option.isSome_iff_ne_none]
    exact fun nothing => h ((FileTree.node?_eq_none_iff _ _).mpr nothing)
  simp [makeDirectory, locate_within hp around, bind, Except.bind, present]

theorem place_within {t : FileTree} {entries : List (String × FileTree)}
    (h : d.root.get? (d.spot p) = some (.directory entries)) :
    d.place t (d.spot (p.within name)) =
      .ok { d with root := d.root.onEntries (FileTree.setEntry name t) (d.spot p) } := by
  rw [place, spot_within, FileTree.put?_eq_onEntries t name h]

theorem makeDirectory_of_missing (hp : (p.within name).IsPlain)
    (around : d.node? (d.spot p) = some .directory)
    (h : d.node? (d.spot (p.within name)) = none) :
    ∃ made, d.makeDirectory (p.within name) = .ok made ∧
      d.HasMade (d.spot (p.within name)) made := by
  obtain ⟨entries, he⟩ := (FileTree.node?_eq_directory_iff _ _).mp around
  have missing := (FileTree.node?_eq_none_iff _ _).mp h
  refine ⟨{ d with root := d.root.onEntries (FileTree.setEntry name (.directory [])) (d.spot p) },
    ?_, rfl, ?_, fun q hq => ?_, fun q hq => ?_⟩
  · simp only [makeDirectory, locate_within hp around, bind, Except.bind, missing,
      Option.isSome_none, Bool.false_eq_true, if_false]
    exact place_within he
  · rw [spot_within] at h ⊢
    exact not_blocked_concat (not_blocked_of_directory around) h
  · have made := FileTree.get?_onEntries_setEntry (.directory []) name [] he
    rw [List.append_nil, ← spot_within] at made
    exact node?_on_way ((FileTree.node?_eq_directory_iff _ _).mpr ⟨[], made⟩) hq
  · by_cases below : d.spot (p.within name) <+: q
    · obtain ⟨rest, rfl⟩ := below
      obtain ⟨m, rest, rfl⟩ := List.exists_cons_of_ne_nil (l := rest) (by
        rintro rfl
        exact hq (by simp))
      have made := FileTree.get?_onEntries_setEntry (.directory []) name (m :: rest) he
      rw [← spot_within] at made
      rw [node?, FileTree.node?, made, node?, FileTree.node?, FileTree.get?_append, missing]
      rfl
    · rw [spot_within] at below
      exact FileTree.node?_onEntries_setEntry _ name he below

theorem spot_of_working {d' : Disk} (h : d'.working = d.working) (p : FilePath) :
    d'.spot p = d.spot p := by
  rw [spot, start, h]
  rfl

theorem HasMade.spot_eq {place : Place} {made : Disk} (h : d.HasMade place made) (p : FilePath) :
    made.spot p = d.spot p := spot_of_working h.working p

theorem isDirectory_of_error {trouble : FileTrouble} (h : d.locate p = .error trouble) :
    d.isDirectory p = false := by
  simp [isDirectory, find, h, bind, Except.bind]

theorem isDirectory_of_located {here : Place} (h : d.locate p = .ok here) :
    d.isDirectory p = true ↔ d.node? here = some .directory := by
  simp only [isDirectory, find, h, bind, Except.bind, node?, FileTree.node?]
  rcases d.root.get? here with _ | ⟨content⟩ | ⟨entries⟩ <;>
    simp [FileTree.isDirectory, FileTree.isFile, FileTree.node]

/-- A name can be made in a directory that was itself just made. -/
theorem HasMade.makeDirectory {made : Disk} (h : d.HasMade (d.spot p) made)
    (hp : (p.within name).IsPlain) (missing : d.node? (d.spot p) = none) :
    ∃ last, made.makeDirectory (p.within name) = .ok last ∧
      d.HasMade (d.spot (p.within name)) last := by
  have inner : d.node? (d.spot (p.within name)) = none := by
    rw [spot_within]
    by_contra something
    rw [node?_of_append (by simp) something] at missing
    cases missing
  have apart : ¬ d.spot (p.within name) <+: d.spot p := by
    rw [spot_within]
    intro short
    have := short.length_le
    rw [List.length_append, List.length_singleton] at this
    omega
  have around : made.node? (made.spot p) = some .directory := by
    rw [h.spot_eq]
    exact h.on_way _ (List.prefix_refl _)
  have still : made.node? (made.spot (p.within name)) = none := by
    rw [h.spot_eq, h.elsewhere _ apart, inner]
  obtain ⟨last, hlast, has⟩ := makeDirectory_of_missing hp around still
  rw [h.spot_eq] at has
  refine ⟨last, hlast, has.working.trans h.working, ?_, has.on_way, fun q hq => ?_⟩
  · rw [spot_within] at inner ⊢
    exact not_blocked_concat h.clear inner
  · rw [has.elsewhere q hq, h.elsewhere q fun short => hq (short.trans ?_)]
    exact ⟨[name], (spot_within ..).symm⟩

/-- Makes the directory of a path and those around it, where they are missing. -/
def makeWay (d : Disk) (p : FilePath) : Disk × Option FileTrouble :=
  makeAll p.isAbsolute p.steps.reverse d

theorem makeWay_of_no_steps (h : p.steps = []) : d.makeWay p = (d, none) := by
  rw [makeWay, h, List.reverse_nil, makeAll]

/-- How a directory is made, by what happens to the one with the last name alone. -/
theorem makeWay_within (d : Disk) (p : FilePath) (name : String) :
    d.makeWay (p.within name) =
      match d.makeDirectory (p.within name) with
      | .ok made => (made, none)
      | .error .notFound =>
        match d.makeWay p with
        | (outer, some trouble) => (outer, some trouble)
        | (outer, none) =>
          match outer.makeDirectory (p.within name) with
          | .ok made => (made, none)
          | .error trouble =>
            (outer, if outer.isDirectory (p.within name) then none else some trouble)
      | .error trouble => (d, if d.isDirectory (p.within name) then none else some trouble) := by
  have whole : (⟨p.isAbsolute, (name :: p.steps.reverse).reverse⟩ : FilePath) = p.within name := by
    simp [FilePath.within]
  rw [makeWay, FilePath.reverse_steps_within, makeAll, FilePath.isAbsolute_within, whole]
  rfl

/-- The directories on the way are made, or a file is in the way and nothing is. -/
theorem makeWay_cases (hp : p.IsPlain) (hstart : d.node? (d.start p) = some .directory) :
    (∃ made, d.makeWay p = (made, none) ∧ d.HasMade (d.spot p) made) ∨
      (∃ trouble, d.makeWay p = (d, some trouble)) ∧ d.Blocked (d.spot p) := by
  induction p using FilePath.within_induction with
  | start p none =>
    refine .inl ⟨d, makeWay_of_no_steps none, .of_directory ?_⟩
    rwa [spot, none, List.append_nil]
  | step outer last ih =>
    rw [makeWay_within]
    by_cases around : d.node? (d.spot outer) = some .directory
    · by_cases missing : d.node? (d.spot (outer.within last)) = none
      · obtain ⟨made, hmade, has⟩ := makeDirectory_of_missing hp around missing
        exact .inl ⟨made, by rw [hmade], has⟩
      · rw [makeDirectory_of_present hp missing]
        have found := isDirectory_of_located (locate_within hp around)
        cases hn : d.node? (d.spot (outer.within last)) with
        | none => exact absurd hn missing
        | some node =>
          cases node with
          | directory =>
            exact .inl ⟨d, by simp [found.mpr hn], .of_directory hn⟩
          | file content =>
            refine .inr ⟨⟨.alreadyExists, ?_⟩, _, content, List.prefix_refl _, hn⟩
            simp [mt found.mp (by simp [hn])]
    · rcases locate_within_error hp.of_within hp.text around with
        ⟨located, blocked⟩ | ⟨located, nothing⟩
      · rw [makeDirectory_of_error located]
        refine .inr ⟨⟨.notDirectory, ?_⟩, blocked.mono ⟨[last], (spot_within ..).symm⟩⟩
        simp [isDirectory_of_error located]
      · rw [makeDirectory_of_error located]
        rcases ih hp.of_within hstart with ⟨made, hmade, has⟩ | ⟨⟨trouble, failed⟩, blocked⟩
        · obtain ⟨made', hmade', has'⟩ := has.makeDirectory hp nothing
          exact .inl ⟨made', by simp [hmade, hmade'], has'⟩
        · exact .inr ⟨⟨trouble, by simp [failed]⟩,
            blocked.mono ⟨[last], (spot_within ..).symm⟩⟩

/-- Where nothing can start, no directory is made on the way. -/
theorem makeWay_of_no_start (hp : p.IsPlain) (hstart : d.node? (d.start p) ≠ some .directory) :
    (d.makeWay p).1 = d := by
  induction p using FilePath.within_induction with
  | start p none => rw [makeWay_of_no_steps none]
  | step outer last ih =>
    have around : d.node? (d.spot outer) ≠ some .directory := fun here =>
      hstart (node?_on_way here ⟨outer.steps, rfl⟩)
    rw [makeWay_within]
    rcases locate_within_error hp.of_within hp.text around with ⟨located, -⟩ | ⟨located, -⟩
    · rw [makeDirectory_of_error located]
    · rw [makeDirectory_of_error located]
      have same := ih hp.of_within hstart
      rcases hall : d.makeWay outer with ⟨d', trouble⟩
      rw [hall] at same
      subst same
      cases trouble <;> simp [makeDirectory_of_error located]

theorem makeDirectories_within (d : Disk) (p : FilePath) (name : String) :
    d.makeDirectories (p.within name) =
      match d.makeDirectory (p.within name) with
      | .ok made => (made, none)
      | .error .notFound =>
        match d.makeWay p with
        | (outer, some trouble) => (outer, some trouble)
        | (outer, none) =>
          match outer.makeDirectory (p.within name) with
          | .ok made => (made, none)
          | .error trouble => (outer, some trouble)
      | .error trouble => (d, some trouble) := by
  rw [makeDirectories, FilePath.dropLast_steps_within, FilePath.isAbsolute_within]
  rfl

theorem makeDirectories_of_error {trouble : FileTrouble} (h : d.locate p = .error trouble)
    (other : trouble ≠ .notFound) : d.makeDirectories p = (d, some trouble) := by
  rw [makeDirectories, makeDirectory_of_error h]
  cases trouble <;> first | rfl | exact absurd rfl other

/-- A missing directory is made with those around it, or a file is in the way and nothing is. -/
theorem makeDirectories_cases (hp : (p.within name).IsPlain)
    (hstart : d.node? (d.start p) = some .directory)
    (missing : d.node? (d.spot (p.within name)) = none) :
    (∃ made, d.makeDirectories (p.within name) = (made, none) ∧
        d.HasMade (d.spot (p.within name)) made) ∨
      (∃ trouble, d.makeDirectories (p.within name) = (d, some trouble)) ∧
        d.Blocked (d.spot p) := by
  by_cases around : d.node? (d.spot p) = some .directory
  · obtain ⟨made, hmade, has⟩ := makeDirectory_of_missing hp around missing
    exact .inl ⟨made, by rw [makeDirectories, hmade], has⟩
  · rcases locate_within_error hp.of_within hp.text around with
      ⟨located, blocked⟩ | ⟨located, nothing⟩
    · exact .inr ⟨⟨_, makeDirectories_of_error located (by decide)⟩, blocked⟩
    · rw [makeDirectories_within, makeDirectory_of_error located]
      rcases makeWay_cases hp.of_within hstart with
        ⟨made, hmade, has⟩ | ⟨⟨trouble, failed⟩, blocked⟩
      · obtain ⟨last, hlast, has'⟩ := has.makeDirectory hp nothing
        exact .inl ⟨last, by simp [hmade, hlast], has'⟩
      · exact .inr ⟨⟨trouble, by simp [failed]⟩, blocked⟩

theorem makeDirectories_of_no_start (hp : (p.within name).IsPlain)
    (hstart : d.node? (d.start p) ≠ some .directory) :
    ∃ trouble, d.makeDirectories (p.within name) = (d, some trouble) := by
  have around : d.node? (d.spot p) ≠ some .directory := fun here =>
    hstart (node?_on_way here ⟨p.steps, rfl⟩)
  rcases locate_within_error hp.of_within hp.text around with ⟨located, -⟩ | ⟨located, -⟩
  · exact ⟨_, makeDirectories_of_error located (by decide)⟩
  · have same := makeWay_of_no_start hp.of_within hstart
    rcases hall : d.makeWay p with ⟨d', trouble⟩
    rw [hall] at same
    subst same
    rw [makeDirectories_within, makeDirectory_of_error located, hall]
    cases trouble <;> simp [makeDirectory_of_error located]

/-! ### Removing and writing -/

/-- A directory goes with all it holds, and no other place changes. -/
theorem removeDirectory_of_directory (hp : (p.within name).IsPlain)
    (h : d.node? (d.spot (p.within name)) = some .directory) :
    ∃ cleared, d.removeDirectory (p.within name) = .ok cleared ∧ cleared.working = d.working ∧
      (∀ q, d.spot (p.within name) <+: q → cleared.node? q = none) ∧
      ∀ q, ¬ d.spot (p.within name) <+: q → cleared.node? q = d.node? q := by
  have around : d.node? (d.spot p) = some .directory :=
    node?_on_way h ⟨[name], (spot_within ..).symm⟩
  obtain ⟨held, hheld⟩ := (FileTree.node?_eq_directory_iff _ _).mp h
  obtain ⟨entries, he⟩ := (FileTree.node?_eq_directory_iff _ _).mp around
  refine ⟨{ d with root := d.root.erase (d.spot (p.within name)) }, ?_, rfl, fun q hq => ?_,
    fun q hq => ?_⟩
  · simp [removeDirectory, locate_within hp around, bind, Except.bind, hheld]
  · obtain ⟨rest, rfl⟩ := hq
    simp only [node?, FileTree.node?_eq_none_iff, spot_within]
    rw [FileTree.erase_eq_onEntries name he]
    exact FileTree.get?_onEntries_filter name rest he
  · simp only [node?, spot_within] at hq ⊢
    rw [FileTree.erase_eq_onEntries name he]
    exact FileTree.node?_onEntries_filter name he hq

theorem removeDirectory_of_file (hp : (p.within name).IsPlain) {content : ByteArray}
    (h : d.node? (d.spot (p.within name)) = some (.file content)) :
    d.removeDirectory (p.within name) = .error .notDirectory := by
  have around : d.node? (d.spot p) = some .directory := by
    rw [spot_within] at h
    exact node?_of_append (List.cons_ne_nil name []) (by simp [h])
  simp [removeDirectory, locate_within hp around, bind, Except.bind,
    (FileTree.node?_eq_file_iff _ _ _).mp h]

/-- A new file joins the entries of its directory, and no other place changes. -/
theorem writeFile_of_missing (hp : (p.within name).IsPlain) (content : ByteArray)
    {entries : List (String × FileTree)}
    (around : d.root.get? (d.spot p) = some (.directory entries))
    (missing : d.node? (d.spot (p.within name)) = none) :
    ∃ written, d.writeFile (p.within name) content = .ok written ∧ written.working = d.working ∧
      written.root.get? (d.spot p) =
        some (.directory (FileTree.setEntry name (.file content) entries)) ∧
      ∀ q, ¬ d.spot (p.within name) <+: q → written.node? q = d.node? q := by
  have nothing := (FileTree.node?_eq_none_iff _ _).mp missing
  have directory := (FileTree.node?_eq_directory_iff d.root (d.spot p)).mpr ⟨entries, around⟩
  refine ⟨{ d with root := d.root.onEntries (FileTree.setEntry name (.file content)) (d.spot p) },
    ?_, rfl, FileTree.get?_onEntries around, fun q hq => ?_⟩
  · simp only [writeFile, locate_within hp directory, bind, Except.bind, nothing]
    exact place_within around
  · rw [spot_within] at hq
    exact FileTree.node?_onEntries_setEntry _ name around hq

end Disk
end RouteDocs
