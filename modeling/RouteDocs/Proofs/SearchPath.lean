import RouteDocs.Proofs.Agreement
import Mathlib.Data.List.Dedup

/-!
# The search path of modules

* `World.searchPath_withSearchPath`: the places that a look-up puts in front are those that are not
  there yet, in their order;
* `World.startsWith_iff`: when the search path then starts with all of them;
* `World.count_withAll`: how often an entry is there after any number of look-ups;
* `Disk.findModule?_append`: a file that is found in the places in front is the module's file;
* `World.new_places_come_first`: the search path after the look-ups of a program;
* `World.present_places_stay_behind`: look-ups whose places do not come first.
-/

namespace RouteDocs

namespace Disk

theorem findFrom_append {disk : Disk} {name : String} {kind : FileKind} {file : FilePath}
    {package : Option FilePath} {front : List FilePath} {portions : List FilePath}
    (found : disk.findFrom name portions front = some (.file kind file package))
    (behind : List FilePath) :
    disk.findFrom name portions (front ++ behind) = some (.file kind file package) := by
  induction front generalizing portions with
  | nil =>
    rw [findFrom] at found
    split at found <;> cases found
  | cons place front ih =>
    rw [findFrom] at found
    rw [List.cons_append, findFrom]
    cases here : disk.findIn place name with
    | none =>
      simp only [here] at found
      exact ih found
    | some what =>
      cases what with
      | directories paths =>
        simp only [here] at found
        exact ih found
      | file kind' file' package' =>
        simp only [here] at found
        exact found

/-- The places in front decide about a module of which they have a file. -/
theorem findModule?_append {disk : Disk} {name : String} {kind : FileKind} {file : FilePath}
    {package : Option FilePath} {front : List FilePath}
    (found : disk.findModule? name front = some (.file kind file package))
    (behind : List FilePath) :
    disk.findModule? name (front ++ behind) = some (.file kind file package) :=
  findFrom_append found behind

end Disk

namespace Module.World

/-- What stands for places on the search path. -/
def entries (places : List FilePath) : List Object := places.map fun place => .text place.text

variable {w : World} {place : FilePath} {places : List FilePath}

theorem prepend_of_mem {path : List Object} (here : .text place.text ∈ path) :
    prepend path place = path := by
  rw [prepend, if_pos (List.contains_iff_mem.mpr here)]

theorem prepend_of_not_mem {path : List Object} (new : .text place.text ∉ path) :
    prepend path place = .text place.text :: path := by
  rw [prepend, if_neg]
  intro here
  exact new (List.contains_iff_mem.mp here)

/-- The places that are not there yet are put in front, in their order. One that is given more than
once counts where it is given last. -/
theorem searchPath_withSearchPath (w : World) (places : List FilePath) :
    (w.withSearchPath places).searchPath =
      ((entries places).filter (· ∉ w.searchPath)).dedup ++ w.searchPath := by
  rw [withSearchPath]
  dsimp only
  rw [List.foldl_reverse]
  -- the last place is put in front first, so a place meets those behind it in the list
  induction places with
  | nil => rfl
  | cons place places ih =>
    have more : entries (place :: places) = .text place.text :: entries places := rfl
    rw [List.foldr_cons, ih, more]
    by_cases here : .text place.text ∈ w.searchPath
    · rw [prepend_of_mem (List.mem_append_right _ here),
        List.filter_cons_of_neg (by simpa using here)]
    · rw [List.filter_cons_of_pos (by simpa using here)]
      by_cases later : .text place.text ∈ (entries places).filter (· ∉ w.searchPath)
      · rw [prepend_of_mem (List.mem_append_left _ (List.mem_dedup.mpr later)),
          List.dedup_cons_of_mem later]
      · rw [prepend_of_not_mem, List.dedup_cons_of_notMem later, List.cons_append]
        rw [List.mem_append, List.mem_dedup]
        exact fun either => either.elim later here

/-- Places that are given once each are put in front in their order. -/
theorem searchPath_of_nodup (distinct : (entries places).Nodup) (w : World) :
    (w.withSearchPath places).searchPath =
      (entries places).filter (· ∉ w.searchPath) ++ w.searchPath := by
  rw [searchPath_withSearchPath, (distinct.filter _).dedup]

/-- The search path starts with the places given exactly if those that were there already are the last
of them, and it started with these. -/
theorem startsWith_iff {given path : List Object} :
    given <+: given.filter (· ∉ path) ++ path ↔
      ∃ new present, given = new ++ present ∧ (∀ o ∈ new, o ∉ path) ∧ present <+: path := by
  constructor
  · intro starts
    refine ⟨given.filter (· ∉ path), given.drop (given.filter (· ∉ path)).length, ?_, ?_, ?_⟩
    · have front : given.filter (· ∉ path) <+: given := by
        apply List.prefix_of_prefix_length_le (List.prefix_append _ path) starts
        exact List.length_filter_le _ given
      conv_lhs => rw [← List.take_append_drop (given.filter (· ∉ path)).length given]
      rw [← List.prefix_iff_eq_take.mp front]
    · intro o new
      exact of_decide_eq_true (List.mem_filter.mp new).2
    · obtain ⟨behind, split⟩ := starts
      refine ⟨behind, ?_⟩
      have rest := congrArg (List.drop (given.filter (· ∉ path)).length) split
      rwa [List.drop_append_of_le_length (List.length_filter_le _ given), List.drop_left] at rest
  · rintro ⟨new, present, rfl, apart, behind, rfl⟩
    have all : new.filter (· ∉ present ++ behind) = new :=
      List.filter_eq_self.mpr fun o here => decide_eq_true (apart o here)
    have none : present.filter (· ∉ present ++ behind) = [] := by
      rw [List.filter_eq_nil_iff]
      intro o here
      simp [here]
    rw [List.filter_append, all, none, List.append_nil]
    exact ⟨behind, List.append_assoc new present behind⟩

theorem count_withSearchPath (w : World) (places : List FilePath) (o : Object) :
    (w.withSearchPath places).searchPath.count o =
      if o ∈ w.searchPath then w.searchPath.count o
      else if o ∈ entries places then 1 else 0 := by
  rw [searchPath_withSearchPath, List.count_append, List.count_dedup]
  by_cases here : o ∈ w.searchPath
  · simp [List.mem_filter, here]
  · simp [List.mem_filter, here, List.count_eq_zero_of_not_mem here]

theorem mem_withSearchPath (w : World) (places : List FilePath) (o : Object) :
    o ∈ (w.withSearchPath places).searchPath ↔ o ∈ w.searchPath ∨ o ∈ entries places := by
  rw [searchPath_withSearchPath, List.mem_append, List.mem_dedup, List.mem_filter]
  by_cases here : o ∈ w.searchPath <;> simp [here]

/-- The world after look-ups with these places, one after the other. -/
def withAll (w : World) (lookups : List (List FilePath)) : World :=
  lookups.foldl withSearchPath w

theorem withAll_cons (w : World) (places : List FilePath) (lookups : List (List FilePath)) :
    w.withAll (places :: lookups) = (w.withSearchPath places).withAll lookups :=
  rfl

theorem withAll_concat (w : World) (lookups : List (List FilePath)) (places : List FilePath) :
    w.withAll (lookups ++ [places]) = (w.withAll lookups).withSearchPath places := by
  rw [withAll, List.foldl_append]
  rfl

/-- What has been on the search path stays at its end. -/
theorem suffix_withAll (w : World) (lookups : List (List FilePath)) :
    w.searchPath <:+ (w.withAll lookups).searchPath := by
  induction lookups generalizing w with
  | nil => exact List.suffix_rfl
  | cons places lookups ih =>
    have first : w.searchPath <:+ (w.withSearchPath places).searchPath := by
      rw [searchPath_withSearchPath]
      exact List.suffix_append _ _
    exact first.trans (ih (w.withSearchPath places))

/-- After look-ups an entry is there as often as before, or once if it was not there and one of them
has put it there. -/
theorem count_withAll (w : World) (lookups : List (List FilePath)) (o : Object) :
    (w.withAll lookups).searchPath.count o =
      if o ∈ w.searchPath then w.searchPath.count o
      else if ∃ places ∈ lookups, o ∈ entries places then 1 else 0 := by
  induction lookups generalizing w with
  | nil =>
    by_cases here : o ∈ w.searchPath
    · simp [withAll, here]
    · simp [withAll, here, List.count_eq_zero_of_not_mem here]
  | cons places lookups ih =>
    rw [withAll_cons, ih, count_withSearchPath]
    by_cases here : o ∈ w.searchPath
    · simp [mem_withSearchPath, here]
    · by_cases given : o ∈ entries places
      · simp [mem_withSearchPath, here, given]
      · simp [mem_withSearchPath, here, given]

/-- **New places come first.** Look-ups have put their places on the search path, one after the other,
and the next one puts `places` there, each given once:

* those that are not there yet come to the front, in their order, and nothing else changes;
* hence the search path starts with all of them exactly if those that were there already are the last
  of them, and it started with these;
* no entry is there more often than at the start, but for those that were not there and are there once
  now;
* the other entries keep their order, and what was there at the start is still its end;
* if none of the places was there, a module of which they have a file is found in them.
-/
theorem new_places_come_first (w : World) (earlier : List (List FilePath))
    (distinct : (entries places).Nodup) :
    let before := (w.withAll earlier).searchPath
    let now := ((w.withAll earlier).withSearchPath places).searchPath
    now = (entries places).filter (· ∉ before) ++ before ∧
    (entries places <+: now ↔ ∃ new present, entries places = new ++ present ∧
      (∀ o ∈ new, o ∉ before) ∧ present <+: before) ∧
    (∀ o, now.count o = if o ∈ w.searchPath then w.searchPath.count o
      else if ∃ given ∈ earlier ++ [places], o ∈ entries given then 1 else 0) ∧
    now.filter (· ∉ entries places) = before.filter (· ∉ entries places) ∧
    w.searchPath <:+ now ∧
    ((∀ o ∈ entries places, o ∉ before) → ∀ (disk : Disk) name kind file package,
      disk.findModule? name (placesOf (entries places)) = some (.file kind file package) →
      disk.findModule? name ((w.withAll earlier).withSearchPath places).places =
        some (.file kind file package)) := by
  intro before now
  have path : now = (entries places).filter (· ∉ before) ++ before := searchPath_of_nodup distinct _
  refine ⟨path, ?_, ?_, ?_, ?_, ?_⟩
  · rw [path]
    exact startsWith_iff
  · intro o
    rw [← count_withAll, withAll_concat]
  · have none : ((entries places).filter (· ∉ before)).filter (· ∉ entries places) = [] := by
      rw [List.filter_eq_nil_iff]
      intro o new
      simp [(List.mem_filter.mp new).1]
    rw [path, List.filter_append, none, List.nil_append]
  · have kept := suffix_withAll w (earlier ++ [places])
    rwa [withAll_concat] at kept
  · intro new disk name kind file package found
    have all : (entries places).filter (· ∉ before) = entries places :=
      List.filter_eq_self.mpr fun o here => decide_eq_true (new o here)
    have front : ((w.withAll earlier).withSearchPath places).places =
        placesOf (entries places) ++ placesOf before := by
      show placesOf now = _
      rw [path, all, placesOf, List.filterMap_append, ← placesOf, ← placesOf]
    rw [front]
    exact Disk.findModule?_append found _

/-- Two directories with a module of one name. -/
def twoRoots : Disk := diskOf [(["a", "c.py"], ""), (["b", "c.py"], "")]

/-- Two look-ups with one place each: the later one comes first, and the module is found there. -/
theorem new_places_come_first_twice :
    (entries [.ofText "b"]).Nodup ∧
    ((bareWorld.withAll [[.ofText "a"]]).withSearchPath [.ofText "b"]).searchPath =
      [.text "b", .text "a", .text "."] ∧
    twoRoots.findModule? "c" ((bareWorld.withAll [[.ofText "a"]]).withSearchPath
      [.ofText "b"]).places = some (.file .source (.ofText "b/c.py") none) := by
  have distinct : (entries [.ofText "b"]).Nodup := by decide +kernel
  obtain ⟨path, -, -, -, -, found⟩ := new_places_come_first bareWorld [[.ofText "a"]] distinct
  refine ⟨distinct, path.trans (by decide +kernel), ?_⟩
  exact found (by decide +kernel) twoRoots "c" _ _ _ (by decide +kernel)

/-- The world after a look-up that comes back to the place of the first, with another one between
them. -/
def returned : World :=
  (bareWorld.withAll [[.ofText "a"], [.ofText "b"]]).withSearchPath [.ofText "a"]

/-- A place that is there already stays behind one that was put in front of it since, so a module is
found in the wrong one; and it comes to stand behind a place that is given after it. -/
theorem present_places_stay_behind :
    returned.searchPath = [.text "b", .text "a", .text "."] ∧
    ¬ entries [.ofText "a"] <+: returned.searchPath ∧
    twoRoots.findModule? "c" [.ofText "a"] = some (.file .source (.ofText "a/c.py") none) ∧
    twoRoots.findModule? "c" returned.places = some (.file .source (.ofText "b/c.py") none) ∧
    ((bareWorld.withAll [[.ofText "a"]]).withSearchPath [.ofText "a", .ofText "b"]).searchPath =
      [.text "b", .text "a", .text "."] := by
  decide +kernel

end Module.World
end RouteDocs
