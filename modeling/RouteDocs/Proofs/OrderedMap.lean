import Mathlib.Algebra.GroupWithZero.Nat
import Mathlib.Data.List.Induction
import Mathlib.Data.List.Nodup
import RouteDocs.OrderedMap

namespace RouteDocs

/-- A list without repetitions loses nothing when repetitions are dropped. -/
theorem eraseDups_of_nodup {α : Type} [DecidableEq α] {xs : List α} (distinct : xs.Nodup) :
    xs.eraseDups = xs := by
  induction xs with
  | nil => rfl
  | cons x xs ih =>
    obtain ⟨absent, rest⟩ := List.nodup_cons.mp distinct
    have kept : xs.filter (fun y => !y == x) = xs := by
      apply List.filter_eq_self.mpr
      intro y hy
      have other : y ≠ x := fun same => absent (same ▸ hy)
      simpa using other
    rw [List.eraseDups_cons, kept, ih rest]

/-- A repetition of what stands further left is dropped. -/
theorem eraseDups_append_cons_of_mem {α : Type} [DecidableEq α] {xs ys : List α} {x : α}
    (seen : x ∈ xs) : (xs ++ x :: ys).eraseDups = (xs ++ ys).eraseDups := by
  have gone : (x :: ys).removeAll xs = ys.removeAll xs := by
    simp [List.removeAll, seen]
  rw [List.eraseDups_append, List.eraseDups_append, gone]

namespace OrderedMap
section
variable {κ α ι : Type}

@[simp]
theorem keys_empty : (empty : OrderedMap κ α).keys = [] := rfl

/-- A map with a key is not empty. -/
theorem ne_empty_of_mem {m : OrderedMap κ α} {key : κ} (here : key ∈ m.keys) : m ≠ empty := by
  rintro rfl
  simp at here

variable [DecidableEq κ]

@[simp]
theorem find?_empty (key : κ) : (empty : OrderedMap κ α).find? key = none := rfl

theorem find?_eq_none_iff (m : OrderedMap κ α) (key : κ) : m.find? key = none ↔ key ∉ m.keys := by
  simp only [find?, keys, Option.map_eq_none_iff, List.find?_eq_none, List.mem_map]
  constructor
  · rintro absent ⟨entry, here, same⟩
    exact absent entry here (decide_eq_true same)
  · intro absent entry here same
    exact absent ⟨entry, here, of_decide_eq_true same⟩

theorem find?_alter (m : OrderedMap κ α) (key other : κ) (f : Option α → α) :
    (m.alter key f).find? other =
      if key = other then some (f (m.find? other)) else m.find? other := by
  split
  · next same => subst same; exact find?_alter_self m key f
  · next differ => exact find?_alter_of_ne m (Ne.symm differ) f

theorem find?_of_mem {m : OrderedMap κ α} {entry : κ × α} (here : entry ∈ m.entries) :
    m.find? entry.1 = some entry.2 := by
  cases found : m.entries.find? (·.1 = entry.1) with
  | none => exact absurd (decide_eq_true rfl) (List.find?_eq_none.mp found entry here)
  | some other =>
    have same : other.1 = entry.1 := by simpa using List.find?_some found
    have only : other = entry :=
      List.inj_on_of_nodup_map m.distinct (List.mem_of_find?_eq_some found) here same
    rw [find?, found, only]
    rfl

/-- The values at some of the keys, in their order. -/
theorem filterMap_find? (m : OrderedMap κ α) (p : κ → Bool) :
    (m.keys.filter p).filterMap m.find? = (m.entries.filter (p ·.1)).map Prod.snd := by
  rw [keys, List.filter_map, List.filterMap_map]
  have found : ∀ entry ∈ m.entries.filter (p ∘ Prod.fst),
      (m.find? ∘ Prod.fst) entry = some entry.2 :=
    fun entry here => find?_of_mem (List.mem_filter.mp here).1
  rw [List.filterMap_congr found]
  exact congrFun List.filterMap_eq_map' _

theorem alterEntries_of_not_mem {key : κ} {f : Option α → α} {entries : List (κ × α)}
    (absent : key ∉ entries.map Prod.fst) :
    alterEntries key f entries = entries ++ [(key, f none)] := by
  induction entries with
  | nil => rfl
  | cons entry rest ih =>
    obtain ⟨k, a⟩ := entry
    rw [List.map_cons, List.mem_cons, not_or] at absent
    have apart : ¬ k = key := fun same => absent.1 same.symm
    rw [alterEntries, if_neg apart, ih absent.2, List.cons_append]

theorem ofList_concat (entries : List (κ × α)) (entry : κ × α) :
    ofList (entries ++ [entry]) = (ofList entries).insert entry.1 entry.2 := by
  rw [ofList, List.foldl_append]
  rfl

/-- Entries with distinct keys are kept as they stand. -/
theorem entries_ofList {entries : List (κ × α)} (distinct : (entries.map Prod.fst).Nodup) :
    (ofList entries).entries = entries := by
  induction entries using List.reverseRecOn with
  | nil => rfl
  | append_singleton earlier entry ih =>
    rw [List.map_append, List.map_singleton, List.nodup_append] at distinct
    obtain ⟨apart, -, others⟩ := distinct
    have kept := ih apart
    have absent : entry.1 ∉ (ofList earlier).entries.map Prod.fst := by
      rw [kept]
      intro here
      exact others _ here _ (List.mem_singleton_self _) rfl
    rw [ofList_concat]
    exact (alterEntries_of_not_mem absent).trans (congrArg (· ++ [entry]) kept)

theorem ofList_entries (m : OrderedMap κ α) : ofList m.entries = m :=
  ext (entries_ofList m.distinct)

variable (key : ι → κ) (f : ι → Option α → α)

theorem keys_foldl_alter (writes : List ι) (m : OrderedMap κ α) :
    (writes.foldl (fun m w => m.alter (key w) (f w)) m).keys =
      (m.keys ++ writes.map key).eraseDups := by
  induction writes generalizing m with
  | nil =>
    rw [List.foldl_nil, List.map_nil, List.append_nil]
    exact (eraseDups_of_nodup m.distinct).symm
  | cons w rest ih =>
    rw [List.foldl_cons, ih, keys_alter, List.map_cons]
    split
    · next present => rw [eraseDups_append_cons_of_mem present]
    · rw [List.append_assoc, List.singleton_append]

theorem find?_foldl_alter (writes : List ι) (m : OrderedMap κ α) (k : κ) :
    (writes.foldl (fun m w => m.alter (key w) (f w)) m).find? k =
      (writes.filter (key · = k)).foldl (fun value w => some (f w value)) (m.find? k) := by
  induction writes generalizing m with
  | nil => rfl
  | cons w rest ih =>
    rw [List.foldl_cons, ih, find?_alter]
    by_cases same : key w = k
    · subst same
      simp only [if_true, List.filter_cons, decide_true, List.foldl_cons]
    · simp only [same, if_false, List.filter_cons, decide_false, Bool.false_eq_true]

/-- Where every write adds to what is there, and a new key to `start`, the value at a key is what
the writes at this key make of `start`. -/
theorem find?_foldl_alter_getD (start : α) (add : α → ι → α) (writes : List ι) (k : κ) :
    (writes.foldl (fun m w => m.alter (key w) fun value => add (value.getD start) w)
        (empty : OrderedMap κ α)).find? k =
      if writes.filter (key · = k) = [] then none
      else some ((writes.filter (key · = k)).foldl add start) := by
  have added : ∀ (ws : List ι) (first : α),
      ws.foldl (fun value w => some (add (value.getD start) w)) (some first) =
        some (ws.foldl add first) := by
    intro ws
    induction ws with
    | nil => intro first; rfl
    | cons w ws ih => intro first; exact ih (add first w)
  rw [find?_foldl_alter key (fun w value => add (value.getD start) w), find?_empty]
  cases writes.filter (key · = k) with
  | nil => rfl
  | cons w ws => exact added ws (add start w)

theorem keys_foldl_insert (value : ι → α) (writes : List ι) (m : OrderedMap κ α) :
    (writes.foldl (fun m w => m.insert (key w) (value w)) m).keys =
      (m.keys ++ writes.map key).eraseDups :=
  keys_foldl_alter key (fun w _ => value w) writes m

theorem find?_foldl_insert (value : ι → α) (writes : List ι) (m : OrderedMap κ α) (k : κ) :
    (writes.foldl (fun m w => m.insert (key w) (value w)) m).find? k =
      (((writes.filter (key · = k)).getLast?).map value).or (m.find? k) := by
  have written := find?_foldl_alter key (fun w _ => value w) writes m k
  have last : ∀ (ws : List ι) (start : Option α),
      ws.foldl (fun _ w => some (value w)) start = (ws.getLast?.map value).or start := by
    intro ws
    induction ws with
    | nil => intro start; rfl
    | cons w ws ih =>
      intro start
      rw [List.foldl_cons, ih]
      cases ws with
      | nil => rfl
      | cons w' ws => rw [List.getLast?_cons_cons]; simp [List.getLast?_cons]
  exact written.trans (last _ _)

variable {μ : Type} [DecidableEq μ] (inner : ι → μ) (value : ι → α)

/-- The map of maps that a list of writes at two keys amounts to. -/
def nest (writes : List ι) : OrderedMap κ (OrderedMap μ α) :=
  writes.foldl (fun m w => m.alter (key w) fun found => (found.getD .empty).insert (inner w) (value w))
    .empty

theorem keys_nest (writes : List ι) : (nest key inner value writes).keys =
    (writes.map key).eraseDups :=
  keys_foldl_alter key (fun w (found : Option (OrderedMap μ α)) =>
    (found.getD .empty).insert (inner w) (value w)) writes .empty

theorem find?_nest (writes : List ι) (k : κ) : (nest key inner value writes).find? k =
    if writes.filter (key · = k) = [] then none
    else some ((writes.filter (key · = k)).foldl (fun m w => m.insert (inner w) (value w)) .empty) :=
  find?_foldl_alter_getD key (.empty : OrderedMap μ α)
    (fun (m : OrderedMap μ α) w => m.insert (inner w) (value w)) writes k

theorem keys_of_find?_nest {writes : List ι} {k : κ} {m : OrderedMap μ α}
    (here : (nest key inner value writes).find? k = some m) :
    m.keys = ((writes.filter (key · = k)).map inner).eraseDups ∧ m ≠ .empty := by
  rw [find?_nest] at here
  split at here
  · cases here
  · next some_here =>
    cases here
    have keys := keys_foldl_insert inner value (writes.filter (key · = k)) .empty
    rw [keys_empty, List.nil_append] at keys
    refine ⟨keys, ?_⟩
    obtain ⟨w, hw⟩ := List.exists_mem_of_ne_nil _ some_here
    have here : inner w ∈ ((writes.filter (key · = k)).map inner).eraseDups := by
      rw [List.mem_eraseDups]
      exact List.mem_map_of_mem hw
    exact ne_empty_of_mem (keys ▸ here)

/-- The value at two keys is that of the last write at both. -/
theorem find?_find?_nest (writes : List ι) (k : κ) (j : μ) :
    ((nest key inner value writes).find? k).bind (·.find? j) =
      ((writes.filter fun w => key w = k ∧ inner w = j).getLast?).map value := by
  have both : (writes.filter fun w => key w = k ∧ inner w = j) =
      (writes.filter (key · = k)).filter (inner · = j) := by
    rw [List.filter_filter]
    apply List.filter_congr
    intro w _
    rw [Bool.decide_and, Bool.and_comm]
  rw [both, find?_nest]
  split
  · next none_here => rw [none_here]; rfl
  · rw [Option.bind_some, find?_foldl_insert, find?_empty, Option.or_none]

/-- A write replaces the share of its key in a sum over the values. -/
theorem sum_values_alter (m : OrderedMap κ α) (key : κ) (f : Option α → α) (share : α → Nat) :
    ((m.alter key f).values.map share).sum + (m.find? key).elim 0 share =
      (m.values.map share).sum + share (f (m.find? key)) := by
  obtain ⟨entries, distinct⟩ := m
  simp only [find?, alter, values]
  clear distinct
  induction entries with
  | nil => simp [alterEntries]
  | cons entry rest ih =>
    obtain ⟨k, a⟩ := entry
    by_cases same : k = key
    · simp only [alterEntries, same, if_true, List.map_cons, List.sum_cons, List.find?_cons,
        decide_true, Option.map_some, Option.elim_some]
      omega
    · simp only [alterEntries, same, if_false, List.map_cons, List.sum_cons, List.find?_cons,
        decide_false] at ih ⊢
      omega

/-- The number of values of a map of maps. -/
def size (m : OrderedMap κ (OrderedMap μ α)) : Nat := (m.values.map (·.keys.length)).sum

/-- A write at a pair of keys that has no value adds one value. -/
theorem size_alter {m : OrderedMap κ (OrderedMap μ α)} {k : κ} {j : μ}
    (absent : (m.find? k).bind (·.find? j) = none) (a : α) :
    (m.alter k fun found => (found.getD .empty).insert j a).size = m.size + 1 := by
  have total := sum_values_alter m k (fun found => (found.getD .empty).insert j a) (·.keys.length)
  have fresh : j ∉ ((m.find? k).getD .empty).keys := by
    cases here : m.find? k with
    | none => simp
    | some inside =>
      rw [here, Option.bind_some] at absent
      exact (find?_eq_none_iff inside j).mp absent
  have longer : (((m.find? k).getD .empty).insert j a).keys.length =
      ((m.find? k).getD .empty).keys.length + 1 := by
    rw [insert, keys_alter, if_neg fresh, List.length_append, List.length_singleton]
  have before : ((m.find? k).getD .empty).keys.length =
      (m.find? k).elim 0 (·.keys.length) := by
    cases m.find? k <;> rfl
  rw [longer, before] at total
  simp only [size]
  omega

/-- Writes at distinct pairs of keys leave as many values as there are writes. -/
theorem size_nest {writes : List ι} (distinct : (writes.map fun w => (key w, inner w)).Nodup) :
    (nest key inner value writes).size = writes.length := by
  induction writes using List.reverseRecOn with
  | nil => rfl
  | append_singleton earlier w ih =>
    rw [List.map_append, List.map_singleton, List.nodup_append] at distinct
    obtain ⟨apart, -, others⟩ := distinct
    have unwritten : (earlier.filter fun v => key v = key w ∧ inner v = inner w) = [] := by
      rw [List.filter_eq_nil_iff]
      intro v hv same
      obtain ⟨sameKey, sameInner⟩ := of_decide_eq_true same
      exact others _ (List.mem_map_of_mem hv) _ (List.mem_singleton_self _)
        (Prod.ext sameKey sameInner)
    have absent : ((nest key inner value earlier).find? (key w)).bind (·.find? (inner w)) = none := by
      rw [find?_find?_nest, unwritten]
      rfl
    have step : nest key inner value (earlier ++ [w]) =
        (nest key inner value earlier).alter (key w) fun found =>
          (found.getD .empty).insert (inner w) (value w) := by
      rw [nest, List.foldl_append]
      rfl
    rw [step, size_alter absent, ih apart, List.length_append, List.length_singleton]

/-- Of writes at distinct pairs of keys none replaces another. -/
theorem find?_find?_nest_of_mem {writes : List ι}
    (distinct : (writes.map fun w => (key w, inner w)).Nodup) {w : ι} (here : w ∈ writes) :
    ((nest key inner value writes).find? (key w)).bind (·.find? (inner w)) = some (value w) := by
  rw [find?_find?_nest]
  have found : w ∈ writes.filter fun v => key v = key w ∧ inner v = inner w :=
    List.mem_filter.mpr ⟨here, by simp⟩
  obtain ⟨v, last⟩ := Option.isSome_iff_exists.mp
    (List.getLast?_isSome.mpr (List.ne_nil_of_mem found))
  obtain ⟨hv, same⟩ := List.mem_filter.mp (List.mem_of_getLast? last)
  obtain ⟨sameKey, sameInner⟩ := of_decide_eq_true same
  have only : v = w := List.inj_on_of_nodup_map distinct hv here (Prod.ext sameKey sameInner)
  rw [last, only]
  rfl

end
end OrderedMap
end RouteDocs
