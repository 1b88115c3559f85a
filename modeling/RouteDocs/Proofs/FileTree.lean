import RouteDocs.FileTree

/-!
# What the places of a tree hold after a change

A tree is looked at place by place, without the order of its entries. Main statements:

* `FileTree.put?_eq_onEntries`, `FileTree.erase_eq_onEntries`: placing and taking away change the
  entries of the directory around the place;
* `FileTree.node?_onEntries`: every place that these entries do not lead to holds what it held.
-/

namespace RouteDocs
namespace FileTree

/-- What a place holds, apart from what is below it. -/
inductive Node where
  | file (content : ByteArray)
  | directory

def node : FileTree → Node
  | .file content => .file content
  | .directory _ => .directory

def node? (t : FileTree) (p : Place) : Option Node := (t.get? p).map node

theorem get?_append (t : FileTree) (p q : Place) :
    t.get? (p ++ q) = (t.get? p).bind fun below => below.get? q := by
  induction p generalizing t with
  | nil => rfl
  | cons name rest ih =>
    cases h : t.entry? name with
    | none => simp [get?, h]
    | some below => simpa [get?, h] using ih below

theorem node?_eq_none_iff (t : FileTree) (p : Place) : t.node? p = none ↔ t.get? p = none := by
  simp [node?]

theorem node?_eq_directory_iff (t : FileTree) (p : Place) :
    t.node? p = some .directory ↔ ∃ entries, t.get? p = some (.directory entries) := by
  rcases h : t.get? p with _ | ⟨content⟩ | ⟨entries⟩ <;> simp [node?, node, h]

theorem node?_eq_file_iff (t : FileTree) (p : Place) (content : ByteArray) :
    t.node? p = some (.file content) ↔ t.get? p = some (.file content) := by
  rcases h : t.get? p with _ | ⟨bytes⟩ | ⟨entries⟩ <;> simp [node?, node, h]

/-- Only a directory has something below it. -/
theorem node?_of_append {t : FileTree} {p q : Place} (hq : q ≠ []) (h : t.node? (p ++ q) ≠ none) :
    t.node? p = some .directory := by
  obtain ⟨name, rest, rfl⟩ := List.exists_cons_of_ne_nil hq
  rcases hp : t.get? p with _ | ⟨content⟩ | ⟨entries⟩
  · exact absurd (by simp [node?, get?_append, hp]) h
  · exact absurd (by simp [node?, get?_append, hp, get?, entry?]) h
  · exact (node?_eq_directory_iff t p).mpr ⟨entries, hp⟩

theorem lookup_cons_eq_ite (name m : String) (t : FileTree) (entries : List (String × FileTree)) :
    ((name, t) :: entries).lookup m = if m = name then some t else entries.lookup m := by
  by_cases h : m = name
  · simp [h]
  · simp [List.lookup_cons, beq_false_of_ne h, h]

theorem lookup_setEntry (name m : String) (t : FileTree) (entries : List (String × FileTree)) :
    (setEntry name t entries).lookup m = if m = name then some t else entries.lookup m := by
  induction entries with
  | nil => exact lookup_cons_eq_ite name m t []
  | cons entry rest ih =>
    obtain ⟨n, old⟩ := entry
    by_cases hn : n = name
    · subst hn
      simp only [setEntry, if_true, lookup_cons_eq_ite]
      split <;> rfl
    · simp only [setEntry, if_neg hn, lookup_cons_eq_ite, ih]
      grind

theorem lookup_filter_ne (name m : String) (entries : List (String × FileTree)) :
    (entries.filter (·.1 ≠ name)).lookup m = if m = name then none else entries.lookup m := by
  induction entries with
  | nil => simp
  | cons entry rest ih =>
    obtain ⟨n, old⟩ := entry
    by_cases hn : n = name
    · rw [List.filter_cons_of_neg (by simpa using hn), ih, lookup_cons_eq_ite, hn]
      split <;> rfl
    · rw [List.filter_cons_of_pos (by simpa using hn), lookup_cons_eq_ite, ih, lookup_cons_eq_ite]
      grind

/-- The tree with other entries in the directory at a place. -/
def onEntries (f : List (String × FileTree) → List (String × FileTree)) :
    FileTree → Place → FileTree
  | .file content, _ => .file content
  | .directory entries, [] => .directory (f entries)
  | .directory entries, name :: rest =>
    match entries.lookup name with
    | some below => .directory (setEntry name (below.onEntries f rest) entries)
    | none => .directory entries

section
variable {t : FileTree} {p q : Place} {entries : List (String × FileTree)}
variable {f : List (String × FileTree) → List (String × FileTree)}

/-- A place below a name is a place of the entry with that name. -/
theorem get?_cons_eq_directory (h : t.get? (name :: rest) = some (.directory entries)) :
    ∃ around below, t = .directory around ∧ around.lookup name = some below ∧
      below.get? rest = some (.directory entries) := by
  cases t with
  | file content => simp [get?, entry?] at h
  | directory around =>
    obtain ⟨below, hbelow, hrest⟩ := Option.bind_eq_some_iff.mp h
    exact ⟨around, below, rfl, hbelow, hrest⟩

theorem get?_onEntries (h : t.get? p = some (.directory entries)) :
    (t.onEntries f p).get? p = some (.directory (f entries)) := by
  induction p generalizing t with
  | nil =>
    cases h
    rfl
  | cons name rest ih =>
    obtain ⟨around, below, rfl, hbelow, hrest⟩ := get?_cons_eq_directory h
    simpa [onEntries, hbelow, get?, entry?, lookup_setEntry] using ih hrest

theorem node?_onEntries (h : t.get? p = some (.directory entries))
    (same : ∀ name rest, q = p ++ name :: rest → (f entries).lookup name = entries.lookup name) :
    (t.onEntries f p).node? q = t.node? q := by
  induction p generalizing t q with
  | nil =>
    cases h
    cases q with
    | nil => rfl
    | cons name rest => simp [node?, onEntries, get?, entry?, same name rest rfl]
  | cons name rest ih =>
    obtain ⟨around, below, rfl, hbelow, hrest⟩ := get?_cons_eq_directory h
    cases q with
    | nil => simp [node?, onEntries, hbelow, get?, node]
    | cons m q =>
      by_cases hm : m = name
      · subst hm
        have below_same := ih (q := q) hrest fun n r hq => same n r (by simp [hq])
        simpa [node?, onEntries, hbelow, get?, entry?, lookup_setEntry] using below_same
      · simp [node?, onEntries, hbelow, get?, entry?, lookup_setEntry, hm]

theorem put?_eq_onEntries (new : FileTree) (name : String)
    (h : t.get? p = some (.directory entries)) :
    t.put? new (p ++ [name]) = some (t.onEntries (setEntry name new) p) := by
  induction p generalizing t with
  | nil =>
    cases h
    rfl
  | cons first rest ih =>
    obtain ⟨around, below, rfl, hbelow, hrest⟩ := get?_cons_eq_directory h
    have put_below := ih hrest
    cases rest <;> simp_all [put?, onEntries]

theorem erase_eq_onEntries (name : String) (h : t.get? p = some (.directory entries)) :
    t.erase (p ++ [name]) = t.onEntries (List.filter (·.1 ≠ name)) p := by
  induction p generalizing t with
  | nil =>
    cases h
    rfl
  | cons first rest ih =>
    obtain ⟨around, below, rfl, hbelow, hrest⟩ := get?_cons_eq_directory h
    have erase_below := ih hrest
    cases rest <;> simp_all [erase, onEntries]

theorem node?_onEntries_of_not_below {name : String}
    (h : t.get? p = some (.directory entries)) (hq : ¬ p ++ [name] <+: q)
    (same : ∀ m, m ≠ name → (f entries).lookup m = entries.lookup m) :
    (t.onEntries f p).node? q = t.node? q := by
  refine node?_onEntries h fun m rest hm => same m ?_
  rintro rfl
  exact hq ⟨rest, by simp [hm]⟩

theorem get?_onEntries_setEntry (new : FileTree) (name : String) (rest : Place)
    (h : t.get? p = some (.directory entries)) :
    (t.onEntries (setEntry name new) p).get? (p ++ [name] ++ rest) = new.get? rest := by
  rw [List.append_assoc, get?_append, get?_onEntries h]
  simp [get?, entry?, lookup_setEntry]

theorem node?_onEntries_setEntry (new : FileTree) (name : String)
    (h : t.get? p = some (.directory entries)) (hq : ¬ p ++ [name] <+: q) :
    (t.onEntries (setEntry name new) p).node? q = t.node? q := by
  refine node?_onEntries_of_not_below h hq fun m hm => ?_
  rw [lookup_setEntry, if_neg hm]

theorem get?_onEntries_filter (name : String) (rest : Place)
    (h : t.get? p = some (.directory entries)) :
    (t.onEntries (List.filter (·.1 ≠ name)) p).get? (p ++ [name] ++ rest) = none := by
  have gone := lookup_filter_ne name name entries
  rw [if_pos rfl] at gone
  rw [List.append_assoc, get?_append, get?_onEntries h, Option.bind_some, List.singleton_append,
    get?, entry?, gone, Option.bind_none]

theorem node?_onEntries_filter (name : String)
    (h : t.get? p = some (.directory entries)) (hq : ¬ p ++ [name] <+: q) :
    (t.onEntries (List.filter (·.1 ≠ name)) p).node? q = t.node? q := by
  refine node?_onEntries_of_not_below h hq fun m hm => ?_
  rw [lookup_filter_ne, if_neg hm]

end

end FileTree
end RouteDocs
