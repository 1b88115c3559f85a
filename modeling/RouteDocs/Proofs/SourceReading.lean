import RouteDocs.Lookup.Source
import RouteDocs.Proofs.OrderedMap

/-!
# What the look-up in source files reads, and what it keeps

* `SourceTree.lookup_eq`, `SourceTree.lookup_cases`: a look-up reads no file at all, or the one of the
  controller's module;
* `SourceTree.Opens`, `SourceTree.lookup_congr`: the file that is read, on which alone the answer
  depends;
* `SourceTree.Cache.IsFaithful`: a cache that holds of each file what is read from it;
* `SourceTree.lookup_of_faithful`, `SourceTree.faithful_lookup`: such a cache does not show in the
  answer, and a look-up leaves such a cache;
* `SourceTree.answers_as_if_fresh`: the answers to any queries, one after the other.
-/

namespace RouteDocs

/-- The answers to queries for a controller and an action, each in the state that the one before it
left. -/
def Lookup.answers {σ : Type} (lookup : Lookup σ) : σ → List (String × String) → List (Answer σ)
  | _, [] => []
  | state, (controller, action) :: queries =>
    let answer := lookup state controller action
    answer :: lookup.answers answer.state queries

namespace SourceTree

variable {disk : Disk} {root file : FilePath} {cache : Cache} {controller action : String}

/-- A query with a controller in a module and an action is located in the file of the module. -/
structure Located (disk : Disk) (root : FilePath) (controller action : String) (file : FilePath) :
    Prop where
  inModule : (Controller.split controller).1 ≠ ""
  named : action ≠ ""
  found : file? disk root (Controller.split controller).1 = .ok (some file)

/-- What a look-up comes to, by the file of the controller's module. -/
theorem lookup_eq (disk : Disk) (root : FilePath) (cache : Cache) (controller action : String) :
    lookup disk root cache controller action =
      if (Controller.split controller).1 = "" ∨ action = "" then ⟨.ok none, .nothing, cache⟩
      else
        match file? disk root (Controller.split controller).1 with
        | .error cause => ⟨.error cause, .nothing, cache⟩
        | .ok none => ⟨.ok none, .nothing, cache⟩
        | .ok (some file) =>
          ⟨(readOnce disk cache file).1.map (documentation? · (Controller.split controller).2 action),
            .nothing, (readOnce disk cache file).2⟩ := by
  rw [lookup]
  obtain ⟨module, className⟩ := Controller.split controller
  by_cases empty : module = "" ∨ action = ""
  · have either : (module.isEmpty || action.isEmpty) = true := by simpa using empty
    simp only [either, if_true, empty]
  · have neither : (module.isEmpty || action.isEmpty) = false := by simpa using empty
    simp only [neither, Bool.false_eq_true, if_false]
    exact (if_neg empty).symm

/-- A look-up that is located answers from the statements of the file. -/
theorem lookup_of_located (located : Located disk root controller action file) (cache : Cache) :
    lookup disk root cache controller action =
      ⟨(readOnce disk cache file).1.map (documentation? · (Controller.split controller).2 action),
        .nothing, (readOnce disk cache file).2⟩ := by
  rw [lookup_eq, if_neg (not_or.mpr ⟨located.inModule, located.named⟩), located.found]

/-- A look-up answers without any file, in which case the cache has no part in it, or from the
statements of the file of the controller's module. -/
theorem lookup_cases (disk : Disk) (root : FilePath) (controller action : String) :
    (∃ doc, ∀ cache, lookup disk root cache controller action = ⟨doc, .nothing, cache⟩) ∨
    ∃ file, Located disk root controller action file ∧
      ∀ cache, lookup disk root cache controller action =
        ⟨(readOnce disk cache file).1.map
            (documentation? · (Controller.split controller).2 action),
          .nothing, (readOnce disk cache file).2⟩ := by
  by_cases empty : (Controller.split controller).1 = "" ∨ action = ""
  · exact .inl ⟨.ok none, fun cache => by rw [lookup_eq, if_pos empty]⟩
  · cases found : file? disk root (Controller.split controller).1 with
    | error cause =>
      exact .inl ⟨.error cause, fun cache => by rw [lookup_eq, if_neg empty, found]⟩
    | ok file? =>
      cases file? with
      | none => exact .inl ⟨.ok none, fun cache => by rw [lookup_eq, if_neg empty, found]⟩
      | some file =>
        have located : Located disk root controller action file :=
          ⟨(not_or.mp empty).1, (not_or.mp empty).2, found⟩
        exact .inr ⟨file, located, lookup_of_located located⟩

/-- The look-up reads a file: the one in which the query is located, unless its statements are kept. -/
structure Opens (disk : Disk) (root : FilePath) (cache : Cache) (controller action : String)
    (file : FilePath) : Prop where
  located : Located disk root controller action file
  unread : cache.find? file = none

/-- Statements that are kept are not read again. -/
theorem readOnce_of_some {body : List Module.Statement} (kept : cache.find? file = some body) :
    readOnce disk cache file = (.ok body, cache) := by
  simp only [readOnce, kept]

theorem readOnce_of_none (unread : cache.find? file = none) :
    readOnce disk cache file =
      (read disk file, (read disk file).toOption.elim cache (cache.insert file)) := by
  rw [readOnce]
  cases read disk file <;> simp [unread, Except.toOption]

/-- On disks with the same files, the answer depends on the text of the file alone that is read. -/
theorem lookup_congr {disk' : Disk}
    (files : file? disk' root (Controller.split controller).1 =
      file? disk root (Controller.split controller).1)
    (texts : ∀ file, Opens disk root cache controller action file →
      disk'.readText file = disk.readText file) :
    lookup disk' root cache controller action = lookup disk root cache controller action := by
  have read_eq (file : FilePath) (located : Located disk root controller action file) :
      readOnce disk' cache file = readOnce disk cache file := by
    cases kept : cache.find? file with
    | some body => rw [readOnce_of_some kept, readOnce_of_some kept]
    | none =>
      have same : read disk' file = read disk file := by
        rw [read, read, texts file ⟨located, kept⟩]
      rw [readOnce_of_none kept, readOnce_of_none kept, same]
  rw [lookup_eq, lookup_eq, files]
  split
  · rfl
  · next asked =>
    split
    · rfl
    · rfl
    · next file found => rw [read_eq file ⟨(not_or.mp asked).1, (not_or.mp asked).2, found⟩]

/-- A cache that holds of each file what is read from it. -/
def Cache.IsFaithful (disk : Disk) (cache : Cache) : Prop :=
  ∀ file body, cache.find? file = some body → read disk file = .ok body

theorem Cache.faithful_empty (disk : Disk) : Cache.IsFaithful disk .empty := by
  intro file body kept
  rw [OrderedMap.find?_empty] at kept
  cases kept

theorem Cache.IsFaithful.insert (faithful : cache.IsFaithful disk)
    {body : List Module.Statement} (source : read disk file = .ok body) :
    Cache.IsFaithful disk (cache.insert file body) := by
  intro other kept here
  rw [OrderedMap.insert, OrderedMap.find?_alter] at here
  split at here
  · next same =>
    subst same
    cases here
    exact source
  · exact faithful other kept here

/-- With a faithful cache, it makes no difference whether a file is read or its statements are kept. -/
theorem readOnce_of_faithful (faithful : cache.IsFaithful disk) (file : FilePath) :
    (readOnce disk cache file).1 = read disk file := by
  cases kept : cache.find? file with
  | some body => rw [readOnce_of_some kept, faithful file body kept]
  | none => rw [readOnce_of_none kept]

theorem faithful_readOnce (faithful : cache.IsFaithful disk) (file : FilePath) :
    Cache.IsFaithful disk (readOnce disk cache file).2 := by
  cases kept : cache.find? file with
  | some body =>
    rw [readOnce_of_some kept]
    exact faithful
  | none =>
    rw [readOnce_of_none kept]
    cases source : read disk file with
    | error cause => exact faithful
    | ok body => exact faithful.insert source

/-- A file at fault leaves nothing in the cache. -/
theorem readOnce_of_error {cause : Trouble} (fault : (readOnce disk cache file).1 = .error cause) :
    (readOnce disk cache file).2 = cache := by
  cases kept : cache.find? file with
  | some body =>
    rw [readOnce_of_some kept] at fault
    cases fault
  | none =>
    rw [readOnce_of_none kept] at fault ⊢
    dsimp only at fault ⊢
    rw [fault]
    rfl

/-- A faithful cache does not show in the answer. -/
theorem lookup_of_faithful (faithful : cache.IsFaithful disk) (root : FilePath)
    (controller action : String) :
    (lookup disk root cache controller action).doc =
      (lookup disk root .empty controller action).doc := by
  rcases lookup_cases disk root controller action with ⟨doc, answer⟩ | ⟨file, -, answer⟩
  · rw [answer, answer]
  · rw [answer, answer]
    dsimp only
    rw [readOnce_of_faithful faithful, readOnce_of_faithful (Cache.faithful_empty disk)]

/-- A look-up leaves a faithful cache. -/
theorem faithful_lookup (faithful : cache.IsFaithful disk) (root : FilePath)
    (controller action : String) :
    Cache.IsFaithful disk (lookup disk root cache controller action).state := by
  rcases lookup_cases disk root controller action with ⟨doc, answer⟩ | ⟨file, -, answer⟩
  · rw [answer]
    exact faithful
  · rw [answer]
    exact faithful_readOnce faithful file

/-- A look-up that fails leaves the cache as it was. -/
theorem lookup_of_error {cause : Trouble}
    (fails : (lookup disk root cache controller action).doc = .error cause) :
    (lookup disk root cache controller action).state = cache := by
  rcases lookup_cases disk root controller action with ⟨doc, answer⟩ | ⟨file, -, answer⟩
  · rw [answer]
  · rw [answer] at fails ⊢
    cases source : (readOnce disk cache file).1 with
    | error cause => exact readOnce_of_error source
    | ok body =>
      rw [source] at fails
      cases fails

theorem answers_of_faithful (faithful : cache.IsFaithful disk) (root : FilePath)
    (queries : List (String × String)) :
    ((Lookup.answers (lookup disk root) cache queries).map Answer.doc =
      queries.map fun (controller, action) => (lookup disk root .empty controller action).doc) ∧
    ∀ answer ∈ Lookup.answers (lookup disk root) cache queries,
      Cache.IsFaithful disk answer.state := by
  -- each answer leaves a faithful cache to those after it
  induction queries generalizing cache with
  | nil => exact ⟨rfl, nofun⟩
  | cons query queries ih =>
    obtain ⟨controller, action⟩ := query
    have left := faithful_lookup faithful root controller action
    obtain ⟨docs, kept⟩ := ih left
    rw [Lookup.answers]
    dsimp only
    constructor
    · rw [List.map_cons, List.map_cons, docs, lookup_of_faithful faithful]
    · rw [List.forall_mem_cons]
      exact ⟨left, kept⟩

/-- **Every query is answered as if it were the first.** On a disk that stays the same, the answers to
any queries for documentation, one after the other, are those that a new look-up gives to each of them,
trouble with a file included. What is kept on the way is what is read from each file, and a query that
fails leaves nothing. -/
theorem answers_as_if_fresh (disk : Disk) (root : FilePath) (queries : List (String × String)) :
    ((Lookup.answers (lookup disk root) .empty queries).map Answer.doc =
      queries.map fun (controller, action) => (lookup disk root .empty controller action).doc) ∧
    (∀ answer ∈ Lookup.answers (lookup disk root) .empty queries, ∀ file body,
      answer.state.find? file = some body → read disk file = .ok body) ∧
    ∀ cache controller action cause,
      (lookup disk root cache controller action).doc = .error cause →
      (lookup disk root cache controller action).state = cache := by
  obtain ⟨docs, kept⟩ := answers_of_faithful (Cache.faithful_empty disk) root queries
  exact ⟨docs, kept, fun cache controller action cause fails => lookup_of_error fails⟩

/-- A disk with two classes in one file, and a file at fault. -/
def sharedDisk : Disk := ⟨.directory [
  ("c.py", .file "class C:\n def m(self):\n  'd'\nclass D:\n def m(self):\n  'e'\n".toUTF8),
  ("f.py", .file "class".toUTF8)], []⟩

/-- A file at fault is at fault again after others have been read, and two classes of one file are told
apart. -/
theorem answers_as_if_fresh_shared :
    let queries := [("f.C", "m"), ("c.C", "m"), ("c.D", "m"), ("f.C", "m"), ("c.C", "n")]
    let answers := Lookup.answers (lookup sharedDisk (.ofText ".")) .empty queries
    answers.map (·.doc.toOption) =
      [none, some (some "d"), some (some "e"), none, some none] ∧
    ∀ answer ∈ answers, ∀ file body, answer.state.find? file = some body →
      read sharedDisk file = .ok body := by
  intro queries answers
  obtain ⟨docs, kept, -⟩ := answers_as_if_fresh sharedDisk (.ofText ".") queries
  refine ⟨?_, kept⟩
  have each := congrArg (List.map Except.toOption) docs
  rw [List.map_map, List.map_map] at each
  exact each.trans (by decide +kernel)

end SourceTree
end RouteDocs
