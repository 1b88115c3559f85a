import RouteDocs.Proofs.Failing
import RouteDocs.Proofs.Output

namespace RouteDocs

namespace FileTree
variable {t t' new : FileTree} {p q : Place} {name : String}

/-- Only a directory has something placed in it. -/
theorem exists_entries_of_put? (h : t.put? new (p ++ [name]) = some t') :
    ∃ entries, t.get? p = some (.directory entries) := by
  induction p generalizing t t' with
  | nil =>
    cases t with
    | file content => cases h
    | directory entries => exact ⟨entries, rfl⟩
  | cons first rest ih =>
    cases t with
    | file content => cases h
    | directory entries =>
      obtain ⟨next, more, tail⟩ := List.exists_cons_of_ne_nil
        (List.append_ne_nil_of_right_ne_nil rest (List.cons_ne_nil name []))
      rw [List.cons_append, tail, put?] at h
      obtain ⟨below, hbelow, h⟩ := Option.bind_eq_some_iff.mp h
      obtain ⟨inner, placed, -⟩ := Option.bind_eq_some_iff.mp h
      obtain ⟨held, hheld⟩ := ih (tail ▸ placed)
      exact ⟨held, by rw [get?, entry?, hbelow, Option.bind_some, hheld]⟩

theorem get?_put? (h : t.put? new p = some t') : t'.get? p = some new := by
  rcases List.eq_nil_or_concat p with rfl | ⟨outer, name, rfl⟩
  · rw [put?] at h
    rw [Option.some.inj h, get?]
  · rw [List.concat_eq_append] at *
    obtain ⟨entries, around⟩ := exists_entries_of_put? h
    rw [put?_eq_onEntries new name around] at h
    have held := get?_onEntries_setEntry new name [] around
    rwa [Option.some.inj h, List.append_nil] at held

/-- The directories of a tree stay where they are when something else is placed. -/
theorem node?_put?_of_directory (h : t.put? new p = some t') (apart : t.node? p ≠ some .directory)
    (hq : t.node? q = some .directory) : t'.node? q = some .directory := by
  rcases List.eq_nil_or_concat p with rfl | ⟨outer, name, rfl⟩
  · by_cases root : q = []
    · exact absurd (root ▸ hq) apart
    · exact absurd (node?_of_append (p := []) root (by simp [hq])) apart
  · rw [List.concat_eq_append] at *
    obtain ⟨entries, around⟩ := exists_entries_of_put? h
    rw [put?_eq_onEntries new name around] at h
    rw [← Option.some.inj h, node?_onEntries_setEntry new name around ?_, hq]
    rintro ⟨rest, rfl⟩
    by_cases same : rest = []
    · rw [same, List.append_nil] at hq
      exact apart hq
    · exact apart (node?_of_append same (by rw [hq]; exact Option.some_ne_none _))

end FileTree

namespace Disk
variable {d : Disk} {p : FilePath}

/-- A path leads to the same place as long as the directories on its way stay. -/
theorem foldlM_follow_of_directories {d' : Disk} {steps : List String} {here there : Place}
    (stay : ∀ q, d.node? q = some .directory → d'.node? q = some .directory)
    (h : steps.foldlM d.follow here = .ok there) : steps.foldlM d'.follow here = .ok there := by
  induction steps generalizing here with
  | nil => exact h
  | cons step steps ih =>
    obtain ⟨next, followed, rest⟩ := ok_of_bind h
    have same : d'.follow here step = .ok next := by
      rw [follow] at followed
      split at followed
      · cases followed
      · cases followed
      · next entries held =>
        have directory := stay here ((FileTree.node?_eq_directory_iff _ _).mpr ⟨entries, held⟩)
        obtain ⟨others, held'⟩ := (FileTree.node?_eq_directory_iff _ _).mp directory
        rw [follow, held']
        exact followed
    rw [List.foldlM_cons, same]
    exact ih rest

/-- A file that was written is read back. -/
theorem readBytes_of_writeFile {content : ByteArray} {written : Disk}
    (h : d.writeFile p content = .ok written) : written.readBytes p = .ok content := by
  obtain ⟨here, located, placing⟩ := ok_of_bind h
  split at placing
  · cases placing
  · next noDirectory =>
    have apart : d.root.node? here ≠ some .directory := by
      intro directory
      obtain ⟨entries, held⟩ := (FileTree.node?_eq_directory_iff _ _).mp directory
      exact noDirectory entries held
    rw [place] at placing
    split at placing
    · next root placed =>
      cases placing
      have again : ({ d with root } : Disk).locate p = .ok here := by
        rw [locate] at located ⊢
        cases text : FilePath.textTrouble? p.text with
        | some trouble => simp [text] at located
        | none =>
          rw [text] at located
          exact foldlM_follow_of_directories
            (fun q => FileTree.node?_put?_of_directory placed apart) located
      have found : ({ d with root } : Disk).find p = .ok (.file content) := by
        simp only [find, again, bind, Except.bind, FileTree.get?_put? placed]
      rw [readBytes, found]
      rfl
    · cases placing

/-- A document that was written is read back. -/
theorem readBytes_of_writeDocument {storage : FilePath} {document : ApiDocument} {after : Disk}
    (h : d.writeDocument storage document = (after, none)) :
    after.readBytes (outputFile storage) = .ok document.text.toUTF8 := by
  obtain ⟨fresh, written⟩ := writeFresh_of_writeDocument h
  rcases fresh.writeFresh_cases storage document with
    ⟨_, _, failed⟩ | ⟨_, failed⟩ | ⟨made, final, done, -, writing⟩
  · cases failed.symm.trans written
  · cases failed.symm.trans written
  · cases done.symm.trans written
    exact readBytes_of_writeFile writing

end Disk
end RouteDocs
