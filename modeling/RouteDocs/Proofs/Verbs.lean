import RouteDocs.Operation
import RouteDocs.Proofs.Text.Search
import RouteDocs.Proofs.Text.Separator

/-!
# The verb of a route

* `Route.toList_joined`: joined methods are the first one and then the others, each behind a bar;
* `Route.remove_head_joined`: what is left of joined methods without the text `|HEAD`;
* `Route.verb_drops_later_heads`: the verb of a route has all its methods but a later `HEAD`.
-/

namespace RouteDocs.Route

/-- The methods of which one that starts with `HEAD` is `HEAD`. -/
def HeadsStandAlone (methods : List String) : Prop :=
  ∀ m ∈ methods, "HEAD".toList <+: m.toList → m = "HEAD"

section
variable {first : String} {later : List String}

theorem toList_joined (first : String) (later : List String) :
    ("|".intercalate (first :: later)).toList =
      first.toList ++ (later.map String.toList).flatMap ('|' :: ·) := by
  rw [String.toList_intercalate, List.map_cons]
  exact Text.intercalate_cons_eq '|' first.toList (later.map String.toList)

/-- A method behind a bar loses nothing or is lost as a whole. -/
theorem flatMap_of_headsStandAlone (alone : HeadsStandAlone later) :
    ((later.map String.toList).flatMap fun m =>
      if "HEAD".toList <+: m then m.drop "HEAD".toList.length else '|' :: m) =
      ((later.filter (· ≠ "HEAD")).map String.toList).flatMap ('|' :: ·) := by
  induction later with
  | nil => rfl
  | cons m later ih =>
    obtain ⟨here, others⟩ := List.forall_mem_cons.mp alone
    rw [List.map_cons, List.flatMap_cons, ih others]
    by_cases head : m = "HEAD"
    · subst head
      rw [if_pos (List.prefix_refl _), List.drop_length, List.filter_cons_of_neg (by simp)]
      rfl
    · rw [if_neg (mt here head), List.filter_cons_of_pos (by simpa using head)]
      rfl

/-- Removing the text `|HEAD` from joined methods drops each later `HEAD`. -/
theorem remove_head_joined (clear : ∀ m ∈ first :: later, '|' ∉ m.toList)
    (alone : HeadsStandAlone later) :
    Text.remove "|HEAD" ("|".intercalate (first :: later)) =
      "|".intercalate (first :: later.filter (· ≠ "HEAD")) := by
  obtain ⟨firstClear, laterClear⟩ := List.forall_mem_cons.mp clear
  have once : '|' ∉ "HEAD".toList := by decide
  have removed : Text.removeFrom "|HEAD".toList 0
      (first.toList ++ (later.map String.toList).flatMap ('|' :: ·)) = _ :=
    Text.removeFrom_marked once firstClear (List.forall_mem_map.mpr laterClear)
  rw [flatMap_of_headsStandAlone alone] at removed
  apply String.toList_inj.mp
  rw [Text.remove, if_neg (by decide), String.toList_ofList, toList_joined, removed, toList_joined]

end

/-- **Of the methods of a route the verb leaves out each later `HEAD`.** Let no method have a bar in
it, and let no later one start with `HEAD` and go on. The verb is then made of the first method and of
the later ones that are not `HEAD`, in their order and with bars between them, in small letters;
before they are put in small letters, these very methods stand between the bars. -/
theorem verb_drops_later_heads (r : Route) {first : String} {later : List String}
    (methods : r.methods = first :: later) (clear : ∀ m ∈ r.methods, '|' ∉ m.toList)
    (alone : HeadsStandAlone later) :
    let kept := first :: later.filter (· ≠ "HEAD")
    r.verb = Text.lower ("|".intercalate kept) ∧
      Text.splitAt '|' (Text.remove "|HEAD" r.method) = kept := by
  intro kept
  rw [methods] at clear
  have removed : Text.remove "|HEAD" r.method = "|".intercalate kept := by
    rw [method, methods, remove_head_joined clear alone]
  have keptClear : ∀ m ∈ kept, '|' ∉ m.toList := by
    intro m here
    have among : kept ⊆ first :: later := List.cons_subset_cons first (List.filter_subset_self _)
    exact clear m (among here)
  rw [verb, removed]
  exact ⟨rfl, Text.splitAt_intercalate (List.cons_ne_nil _ _) keptClear⟩

/-- A route whose methods start and end with what is left out elsewhere. -/
def headsRoute : Route where
  host := none
  methods := ["HEAD", "HEAD", "GET", "HEAD", "OVERHEAD", "HEAD"]
  uri := "users"
  name := none
  controller := "app.Users"
  className := "Users"
  action := "show"

theorem verb_drops_later_heads_of_many :
    headsRoute.verb = "head|get|overhead" ∧
      Text.splitAt '|' (Text.remove "|HEAD" headsRoute.method) = ["HEAD", "GET", "OVERHEAD"] := by
  have alone : HeadsStandAlone ["HEAD", "GET", "HEAD", "OVERHEAD", "HEAD"] := by
    unfold HeadsStandAlone
    decide
  obtain ⟨verb, kept⟩ := verb_drops_later_heads headsRoute rfl (by decide) alone
  rw [verb, kept]
  decide +kernel

end RouteDocs.Route
