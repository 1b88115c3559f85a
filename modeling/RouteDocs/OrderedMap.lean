namespace RouteDocs

section
variable {κ α : Type} [DecidableEq κ]

/-- Writes `f` of the present value at `key`, in place, or at the end when the key is new. -/
def alterEntries (key : κ) (f : Option α → α) : List (κ × α) → List (κ × α)
  | [] => [(key, f none)]
  | (k, a) :: rest =>
    if k = key then (k, f (some a)) :: rest else (k, a) :: alterEntries key f rest

theorem map_fst_alterEntries (key : κ) (f : Option α → α) (entries : List (κ × α)) :
    (alterEntries key f entries).map Prod.fst =
      if key ∈ entries.map Prod.fst then entries.map Prod.fst
      else entries.map Prod.fst ++ [key] := by
  induction entries with
  | nil => simp [alterEntries]
  | cons entry rest ih =>
    obtain ⟨k, a⟩ := entry
    by_cases same : k = key
    · simp [alterEntries, same]
    · have other : key ≠ k := fun h => same h.symm
      simp only [alterEntries, same, if_false, List.map_cons, ih, List.mem_cons, other, false_or]
      split <;> simp

theorem nodup_alterEntries (key : κ) (f : Option α → α) {entries : List (κ × α)}
    (distinct : (entries.map Prod.fst).Nodup) :
    ((alterEntries key f entries).map Prod.fst).Nodup := by
  rw [map_fst_alterEntries]
  split
  · exact distinct
  · next absent =>
    rw [List.nodup_append]
    refine ⟨distinct, by simp, ?_⟩
    intro a ha b hb
    simp only [List.mem_singleton] at hb
    rintro rfl
    exact absent (hb ▸ ha)

end

/-- A finite map whose entries stand in the order in which their keys were first written. -/
structure OrderedMap (κ α : Type) where
  entries : List (κ × α)
  distinct : (entries.map Prod.fst).Nodup

namespace OrderedMap
variable {κ α β : Type}

def empty : OrderedMap κ α := ⟨[], List.nodup_nil⟩

instance : Inhabited (OrderedMap κ α) := ⟨empty⟩

def keys (m : OrderedMap κ α) : List κ := m.entries.map Prod.fst

def values (m : OrderedMap κ α) : List α := m.entries.map Prod.snd

@[ext]
theorem ext {m n : OrderedMap κ α} (same : m.entries = n.entries) : m = n := by
  cases m; cases n; simp_all

def map (f : α → β) (m : OrderedMap κ α) : OrderedMap κ β :=
  ⟨m.entries.map fun (k, a) => (k, f a), by
    simpa [List.map_map, Function.comp_def] using m.distinct⟩

variable [DecidableEq κ]

instance [DecidableEq α] : DecidableEq (OrderedMap κ α) := fun m n =>
  decidable_of_iff (m.entries = n.entries) ⟨ext, congrArg entries⟩

def find? (m : OrderedMap κ α) (key : κ) : Option α :=
  (m.entries.find? (·.1 = key)).map Prod.snd

/-- The map with `f` of the present value written at `key`: in place if the key is present,
otherwise at the end. -/
def alter (m : OrderedMap κ α) (key : κ) (f : Option α → α) : OrderedMap κ α :=
  ⟨alterEntries key f m.entries, nodup_alterEntries key f m.distinct⟩

/-- The map with `value` at `key`; a key that is present keeps its place. -/
def insert (m : OrderedMap κ α) (key : κ) (value : α) : OrderedMap κ α :=
  m.alter key fun _ => value

def erase (m : OrderedMap κ α) (key : κ) : OrderedMap κ α :=
  ⟨m.entries.filter (·.1 ≠ key), m.distinct.sublist (List.filter_sublist.map Prod.fst)⟩

/-- The map of a list of entries; the last value of a key counts, at the key's first place. -/
def ofList (entries : List (κ × α)) : OrderedMap κ α :=
  entries.foldl (fun m (key, value) => m.insert key value) empty

theorem keys_alter (m : OrderedMap κ α) (key : κ) (f : Option α → α) :
    (m.alter key f).keys = if key ∈ m.keys then m.keys else m.keys ++ [key] :=
  map_fst_alterEntries key f m.entries

theorem find?_alter_self (m : OrderedMap κ α) (key : κ) (f : Option α → α) :
    (m.alter key f).find? key = some (f (m.find? key)) := by
  obtain ⟨entries, distinct⟩ := m
  simp only [find?, alter]
  clear distinct
  induction entries with
  | nil => simp [alterEntries]
  | cons entry rest ih =>
    obtain ⟨k, a⟩ := entry
    by_cases same : k = key
    · simp [alterEntries, same]
    · simp [alterEntries, same, ih]

theorem find?_alter_of_ne (m : OrderedMap κ α) {key other : κ} (ne : other ≠ key)
    (f : Option α → α) : (m.alter key f).find? other = m.find? other := by
  obtain ⟨entries, distinct⟩ := m
  simp only [find?, alter]
  clear distinct
  induction entries with
  | nil => simp [alterEntries, Ne.symm ne]
  | cons entry rest ih =>
    obtain ⟨k, a⟩ := entry
    by_cases same : k = key
    · subst same; simp [alterEntries, Ne.symm ne]
    · by_cases here : k = other
      · subst here; simp [alterEntries, same]
      · simp [alterEntries, same, here, ih]

end OrderedMap
end RouteDocs
