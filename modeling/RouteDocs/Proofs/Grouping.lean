import Mathlib.Data.Finset.Card
import Mathlib.Data.List.Perm.Basic
import RouteDocs.Proofs.OrderedMap

namespace RouteDocs

/-- Repetitions can be dropped before or after other elements are. -/
theorem filter_eraseDups {α : Type} [DecidableEq α] (p : α → Bool) (xs : List α) :
    xs.eraseDups.filter p = (xs.filter p).eraseDups := by
  -- what is left without the first element's repetitions is shorter, but it is not the tail
  induction len : xs.length using Nat.strongRecOn generalizing xs with
  | ind n ih =>
    cases xs with
    | nil => rfl
    | cons x xs =>
      have shorter : (xs.filter fun y => !y == x).length < n := by
        have := List.length_filter_le (fun y => !y == x) xs
        rw [List.length_cons] at len
        omega
      have rest := ih _ shorter (xs.filter fun y => !y == x) rfl
      rw [List.eraseDups_cons, List.filter_cons, List.filter_cons, rest, List.filter_filter]
      split
      · rw [List.eraseDups_cons, List.filter_filter]
        simp only [Bool.and_comm]
      · next out =>
        have gone : ∀ y ∈ xs, (p y && !y == x) = p y := by
          intro y _
          by_cases same : y = x
          · simp [same, out]
          · simp [same]
        rw [List.filter_congr gone]

/-- What is left without repetitions stands in the order of the first places. -/
theorem pairwise_idxOf_eraseDups {α : Type} [DecidableEq α] (xs : List α) :
    xs.eraseDups.Pairwise fun x y => xs.idxOf x < xs.idxOf y := by
  induction xs using List.reverseRecOn with
  | nil => exact .nil
  | append_singleton xs last ih =>
    -- a first place stays where it is when the list grows at its end
    have first : ∀ x ∈ xs.eraseDups, (xs ++ [last]).idxOf x = xs.idxOf x :=
      fun x here => List.idxOf_append_of_mem (List.mem_eraseDups.mp here)
    have kept : xs.eraseDups.Pairwise fun x y =>
        (xs ++ [last]).idxOf x < (xs ++ [last]).idxOf y := by
      apply ih.imp_of_mem
      intro x y hx hy before
      rwa [first x hx, first y hy]
    by_cases seen : last ∈ xs
    · rw [eraseDups_append_cons_of_mem seen, List.append_nil]
      exact kept
    · have new : [last].removeAll xs = [last] := by
        simp [List.removeAll, seen]
      rw [List.eraseDups_append, new, List.pairwise_append]
      refine ⟨kept, List.pairwise_singleton _ _, ?_⟩
      intro x hx y hy
      obtain rfl := List.mem_singleton.mp hy
      rw [first x hx, List.idxOf_append_of_notMem seen]
      have inside := List.idxOf_lt_length_of_mem (List.mem_eraseDups.mp hx)
      omega

namespace OrderedMap
section
variable {κ α : Type} [DecidableEq κ]

/-- A map is its keys, each with the value at it. -/
theorem entries_eq (m : OrderedMap κ α) :
    m.entries = m.keys.filterMap fun k => (m.find? k).map (k, ·) := by
  have here : ∀ entry ∈ m.entries, (m.find? entry.1).map (entry.1, ·) = some entry := by
    intro entry listed
    rw [find?_of_mem listed]
    rfl
  rw [keys, List.filterMap_map]
  exact ((List.filterMap_congr here).trans List.filterMap_some).symm

/-- Adding to a group adds to all values. -/
theorem flatten_values_alter (m : OrderedMap κ (List α)) (key : κ) (added : List α) :
    (m.alter key fun group => group.getD [] ++ added).values.flatten.Perm
      (m.values.flatten ++ added) := by
  obtain ⟨entries, distinct⟩ := m
  simp only [alter, values]
  clear distinct
  induction entries with
  | nil => simp [alterEntries]
  | cons entry rest ih =>
    obtain ⟨k, group⟩ := entry
    by_cases same : k = key
    · simp only [alterEntries, same, if_true, List.map_cons, List.flatten_cons, Option.getD_some,
        List.append_assoc]
      exact List.Perm.append_left _ List.perm_append_comm
    · simp only [alterEntries, same, if_false, List.map_cons, List.flatten_cons, List.append_assoc]
      exact List.Perm.append_left _ ih

end

section
variable {κ α ι : Type} [DecidableEq κ] (key : ι → κ) (value : ι → α)

/-- The values of the elements of a list, grouped by the keys of the elements. -/
def group (xs : List ι) : OrderedMap κ (List α) :=
  xs.foldl (fun groups x => groups.alter (key x) fun known => known.getD [] ++ [value x]) empty

/-- The values of the elements with a key. -/
def valuesAt (xs : List ι) (k : κ) : List α := (xs.filter (key · = k)).map value

theorem group_concat (xs : List ι) (x : ι) : group key value (xs ++ [x]) =
    (group key value xs).alter (key x) fun known => known.getD [] ++ [value x] := by
  rw [group, List.foldl_append]
  rfl

theorem keys_group (xs : List ι) : (group key value xs).keys = (xs.map key).eraseDups :=
  keys_foldl_alter key (fun x known => known.getD [] ++ [value x]) xs empty

theorem filter_key_eq_nil_iff (xs : List ι) (k : κ) :
    xs.filter (key · = k) = [] ↔ k ∉ xs.map key := by
  simp [List.filter_eq_nil_iff]

theorem valuesAt_of_not_mem {xs : List ι} {k : κ} (absent : k ∉ xs.map key) :
    valuesAt key value xs k = [] := by
  rw [valuesAt, (filter_key_eq_nil_iff key xs k).mpr absent, List.map_nil]

theorem valuesAt_append (xs ys : List ι) (k : κ) :
    valuesAt key value (xs ++ ys) k = valuesAt key value xs k ++ valuesAt key value ys k := by
  rw [valuesAt, List.filter_append, List.map_append, valuesAt, valuesAt]

theorem find?_group (xs : List ι) (k : κ) : (group key value xs).find? k =
    if k ∈ xs.map key then some (valuesAt key value xs k) else none := by
  have found := find?_foldl_alter_getD key [] (fun known x => known ++ [value x]) xs k
  have listed : ∀ ys : List ι, ys.foldl (fun known x => known ++ [value x]) [] = ys.map value := by
    intro ys
    induction ys using List.reverseRecOn with
    | nil => rfl
    | append_singleton ys y ih => rw [List.foldl_append, ih, List.map_append]; rfl
  rw [listed] at found
  refine found.trans ?_
  by_cases here : k ∈ xs.map key
  · have some_x := mt (filter_key_eq_nil_iff key xs k).mp (not_not_intro here)
    rw [if_neg some_x, if_pos here, valuesAt]
  · rw [if_pos ((filter_key_eq_nil_iff key xs k).mpr here), if_neg here]

/-- The keys stand in the order of their first elements, and under each the values of its elements in
the order of the list. -/
theorem entries_group (xs : List ι) : (group key value xs).entries =
    (xs.map key).eraseDups.map fun k => (k, valuesAt key value xs k) := by
  have here : ∀ k ∈ (xs.map key).eraseDups, ((group key value xs).find? k).map (k, ·) =
      some (k, valuesAt key value xs k) := by
    intro k listed
    rw [find?_group, if_pos (List.mem_eraseDups.mp listed)]
    rfl
  rw [entries_eq, keys_group, List.filterMap_congr here]
  exact congrFun List.filterMap_eq_map' _

/-- One key stands before another if it comes first in the list. -/
theorem pairwise_keys_group (xs : List ι) : (group key value xs).keys.Pairwise fun j k =>
    (xs.map key).idxOf j < (xs.map key).idxOf k := by
  rw [keys_group]
  exact pairwise_idxOf_eraseDups (xs.map key)

theorem length_keys_group (xs : List ι) :
    (group key value xs).keys.length = (xs.map key).toFinset.card := by
  have same : (group key value xs).keys.toFinset = (xs.map key).toFinset := by
    ext k
    rw [keys_group, List.mem_toFinset, List.mem_toFinset, List.mem_eraseDups]
  rw [← same]
  exact (List.toFinset_card_of_nodup (group key value xs).distinct).symm

/-- A key has a group only with its first element. -/
theorem ne_nil_of_mem_values_group {xs : List ι} {found : List α}
    (here : found ∈ (group key value xs).values) : found ≠ [] := by
  rw [values, entries_group, List.map_map] at here
  obtain ⟨k, listed, rfl⟩ := List.mem_map.mp here
  intro noValue
  have noElement : xs.filter (key · = k) = [] := List.map_eq_nil_iff.mp noValue
  exact (filter_key_eq_nil_iff key xs k).mp noElement (List.mem_eraseDups.mp listed)

/-- No value is lost and none is added. -/
theorem flatten_values_group (xs : List ι) :
    (group key value xs).values.flatten.Perm (xs.map value) := by
  induction xs using List.reverseRecOn with
  | nil => exact .nil
  | append_singleton xs x ih =>
    rw [group_concat, List.map_append, List.map_singleton]
    exact (flatten_values_alter _ _ _).trans (ih.append_right _)

theorem sum_lengths_group (xs : List ι) :
    ((group key value xs).values.map List.length).sum = xs.length := by
  rw [← List.length_flatten, (flatten_values_group key value xs).length_eq, List.length_map]

theorem getD_find?_group (xs : List ι) (k : κ) :
    ((group key value xs).find? k).getD [] = valuesAt key value xs k := by
  rw [find?_group]
  split
  · rfl
  · next absent => exact (valuesAt_of_not_mem key value absent).symm

/-- The elements of a further list are added to the groups that are there, and what they have of other
keys comes after these groups. -/
theorem entries_group_append (xs ys : List ι) : (group key value (xs ++ ys)).entries =
    ((group key value xs).entries.map fun (k, values) =>
      (k, values ++ ((group key value ys).find? k).getD [])) ++
    (group key value ys).entries.filter (·.1 ∉ (group key value xs).keys) := by
  -- a key of the second list that the first has not keeps its place among the others
  have others : ((ys.map key).removeAll (xs.map key)).eraseDups =
      (ys.map key).eraseDups.filter (· ∉ (group key value xs).keys) := by
    rw [filter_eraseDups, List.removeAll, keys_group]
    simp only [List.elem_eq_mem, List.mem_eraseDups, decide_not]
  have kept : ∀ k, valuesAt key value (xs ++ ys) k =
      valuesAt key value xs k ++ ((group key value ys).find? k).getD [] := by
    intro k
    rw [valuesAt_append, getD_find?_group]
  have added : ∀ k ∈ (ys.map key).eraseDups.filter (· ∉ (group key value xs).keys),
      valuesAt key value (xs ++ ys) k = valuesAt key value ys k := by
    intro k further
    have absent := of_decide_eq_true (List.mem_filter.mp further).2
    rw [keys_group, List.mem_eraseDups] at absent
    rw [valuesAt_append, valuesAt_of_not_mem key value absent, List.nil_append]
  rw [entries_group, List.map_append, List.eraseDups_append, List.map_append, others]
  congr 1
  · rw [entries_group, List.map_map]
    exact List.map_congr_left fun k _ => congrArg (k, ·) (kept k)
  · rw [entries_group key value ys, List.filter_map]
    exact List.map_congr_left fun k further => congrArg (k, ·) (added k further)

end
end OrderedMap
end RouteDocs
