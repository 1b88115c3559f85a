import RouteDocs.Value.Display

namespace RouteDocs.Value

theorem sameKey_text (k key : String) : sameKey (.text k) (.text key) = (k == key) := by
  simp [sameKey, asInt?]

@[simp]
theorem get?_nil (key : String) : get? key [] = none := rfl

@[simp]
theorem get?_cons_text (key k : String) (v : Value) (rest : List (Value × Value)) :
    get? key ((.text k, v) :: rest) = if k = key then some v else get? key rest := by
  by_cases same : k = key
  · simp [get?, sameKey_text, same]
  · simp [get?, sameKey_text, same, beq_false_of_ne same]

mutual

theorem isShowable_cut (marks : List Nat) :
    ∀ v : Value, v.isShowable = true → (cut marks v).isShowable = true
  | .marked mark content => by
    intro shown
    simp only [cut]
    split
    · rfl
    · exact isShowable_cut marks content shown
  | .list items => areShowable_cutAll marks items
  | .pair first second => by
    intro shown
    have both := Bool.and_eq_true_iff.mp shown
    exact Bool.and_eq_true_iff.mpr
      ⟨isShowable_cut marks first both.1, isShowable_cut marks second both.2⟩
  | .mapping entries => areEntriesShowable_cutEntries marks entries
  | .null | .bool _ | .int _ | .float _ | .text _ | .bytes _ | .date _ | .moment _ | .set _
  | .again .. => by
    intro shown
    simpa only [cut] using shown

theorem areShowable_cutAll (marks : List Nat) :
    ∀ vs : List Value, areShowable vs = true → areShowable (cutAll marks vs) = true
  | [] => id
  | v :: vs => by
    intro shown
    have both := Bool.and_eq_true_iff.mp shown
    exact Bool.and_eq_true_iff.mpr
      ⟨isShowable_cut marks v both.1, areShowable_cutAll marks vs both.2⟩

theorem areEntriesShowable_cutEntries (marks : List Nat) :
    ∀ entries : List (Value × Value), areEntriesShowable entries = true →
      areEntriesShowable (cutEntries marks entries) = true
  | [] => id
  | (k, v) :: rest => by
    intro shown
    have all := Bool.and_eq_true_iff.mp shown
    have here := Bool.and_eq_true_iff.mp all.1
    exact Bool.and_eq_true_iff.mpr
      ⟨Bool.and_eq_true_iff.mpr ⟨isShowable_cut marks k here.1, isShowable_cut marks v here.2⟩,
        areEntriesShowable_cutEntries marks rest all.2⟩

end

mutual

theorem isShowable_complete {mark : Nat} {whole : Value} (solid : whole.isShowable = true)
    (around : List Nat) :
    ∀ v : Value, v.isShowable = true → (complete mark whole around v).isShowable = true
  | .again m isMapping => by
    intro _
    simp only [complete]
    split
    · exact isShowable_cut (mark :: around) whole solid
    · rfl
  | .marked m content => isShowable_complete solid (m :: around) content
  | .list items => areShowable_completeAll solid around items
  | .pair first second => by
    intro shown
    have both := Bool.and_eq_true_iff.mp shown
    exact Bool.and_eq_true_iff.mpr
      ⟨isShowable_complete solid around first both.1,
        isShowable_complete solid around second both.2⟩
  | .mapping entries => areEntriesShowable_completeEntries solid around entries
  | .null | .bool _ | .int _ | .float _ | .text _ | .bytes _ | .date _ | .moment _ | .set _ => by
    intro shown
    simpa only [complete] using shown

theorem areShowable_completeAll {mark : Nat} {whole : Value}
    (solid : whole.isShowable = true) (around : List Nat) :
    ∀ vs : List Value, areShowable vs = true →
      areShowable (completeAll mark whole around vs) = true
  | [] => id
  | v :: vs => by
    intro shown
    have both := Bool.and_eq_true_iff.mp shown
    exact Bool.and_eq_true_iff.mpr
      ⟨isShowable_complete solid around v both.1, areShowable_completeAll solid around vs both.2⟩

theorem areEntriesShowable_completeEntries {mark : Nat} {whole : Value}
    (solid : whole.isShowable = true) (around : List Nat) :
    ∀ entries : List (Value × Value), areEntriesShowable entries = true →
      areEntriesShowable (completeEntries mark whole around entries) = true
  | [] => id
  | (k, v) :: rest => by
    intro shown
    have all := Bool.and_eq_true_iff.mp shown
    have here := Bool.and_eq_true_iff.mp all.1
    exact Bool.and_eq_true_iff.mpr
      ⟨Bool.and_eq_true_iff.mpr
          ⟨isShowable_complete solid around k here.1,
            isShowable_complete solid around v here.2⟩,
        areEntriesShowable_completeEntries solid around rest all.2⟩

end

/-- Taking the items out of a collection leaves a value that can be written. -/
theorem isShowable_opened {v : Value} (shown : v.isShowable = true) :
    v.opened.isShowable = true := by
  fun_cases opened v with
  | case1 mark items =>
    have whole : (list items).isShowable = true := shown
    exact areShowable_completeAll whole [] items shown
  | case2 mark entries =>
    have whole : (mapping entries).isShowable = true := shown
    exact areEntriesShowable_completeEntries whole [] entries shown
  | case3 => exact shown

theorem isShowable_of_mem {items : List Value} (shown : areShowable items = true) {v : Value}
    (here : v ∈ items) : v.isShowable = true := by
  induction items with
  | nil => cases here
  | cons first items ih =>
    have both := Bool.and_eq_true_iff.mp shown
    rcases List.mem_cons.mp here with rfl | later
    · exact both.1
    · exact ih both.2 later

theorem isShowable_of_get? {entries : List (Value × Value)}
    (shown : areEntriesShowable entries = true) {key : String} {v : Value}
    (here : get? key entries = some v) : v.isShowable = true := by
  obtain ⟨⟨k, v'⟩, found, rfl⟩ := Option.map_eq_some_iff.mp here
  have member := List.mem_of_find?_eq_some found
  clear here found
  induction entries with
  | nil => cases member
  | cons entry rest ih =>
    obtain ⟨k', u⟩ := entry
    have all := Bool.and_eq_true_iff.mp shown
    rcases List.mem_cons.mp member with same | later
    · cases same
      exact (Bool.and_eq_true_iff.mp all.1).2
    · exact ih all.2 later

end RouteDocs.Value
