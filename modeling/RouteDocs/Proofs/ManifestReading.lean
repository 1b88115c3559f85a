import RouteDocs.Proofs.Failing
import RouteDocs.Proofs.Manifest
import RouteDocs.Proofs.Text.Separator

namespace RouteDocs.Manifest

theorem eq_plain_of_textOf {v : Value} {s : String} (read : textOf v = .ok s) : s = v.plain := by
  unfold textOf at read
  split at read
  · exact (Except.ok.inj read).symm
  · cases read

theorem eq_plain_of_mapM_textOf {vs : List Value} {ss : List String}
    (read : vs.mapM textOf = .ok ss) : ss = vs.map Value.plain := by
  induction vs generalizing ss with
  | nil => exact (Except.ok.inj read).symm
  | cons v vs ih =>
    rw [List.mapM_cons] at read
    obtain ⟨s, first, read⟩ := ok_of_bind read
    obtain ⟨rest, others, read⟩ := ok_of_bind read
    obtain rfl := Except.ok.inj read
    rw [eq_plain_of_textOf first, ih others, List.map_cons]

theorem methodTexts_of_ok {index : Nat} {entries : List (Value × Value)} {texts : List String}
    (read : methodTexts index entries = .ok texts) : MethodTexts entries texts := by
  obtain ⟨vs, given, written⟩ := ok_of_bind read
  obtain rfl := eq_plain_of_mapM_textOf written
  unfold methods at given
  split at given
  · next absent =>
    cases given
    exact .absent (Option.map_eq_none_iff.mp absent)
  · next s present =>
    cases given
    obtain ⟨v, here, opened⟩ := Option.map_eq_some_iff.mp present
    have parts : ((Text.splitAt '|' s).map Value.text).map Value.plain = Text.splitAt '|' s := by
      simp [Function.comp_def, Value.plain]
    rw [parts]
    exact .text here opened
  · next items present =>
    cases given
    obtain ⟨v, here, opened⟩ := Option.map_eq_some_iff.mp present
    exact .list here opened
  · cases given

theorem givesText_of_optionalText {name : String} {v : Option Value} {s : Option String}
    (read : Field.optionalText false name v = .ok s) : GivesText v s := by
  rcases optionalText_cases name v with ⟨s', given, read'⟩ | ⟨-, issues, refused⟩
  · obtain rfl := Except.ok.inj (read.symm.trans read')
    exact given
  · cases read.symm.trans refused

section
variable {entries : List (Value × Value)} {index : Nat}

theorem describes_of_keptRoute {uri : Value} {a : String} {r : Option Route}
    (hasUri : Value.get? "uri" entries = some uri) (read : keptRoute index entries uri a = .ok r) :
    ∃ r', r = some r' ∧ Describes entries a r' := by
  obtain ⟨texts, methods, read⟩ := ok_of_bind read
  obtain ⟨text, written, read⟩ := ok_of_bind read
  split at read
  · cases read
  · next host name checked =>
    cases read
    obtain ⟨hostRead, nameRead⟩ := Checked.ok_of_and checked
    refine ⟨_, rfl, ?_⟩
    exact ⟨by simp only [Prod.eta], ⟨uri, hasUri, eq_plain_of_textOf written⟩,
      ⟨texts, methodTexts_of_ok methods, rfl⟩,
      givesText_of_optionalText hostRead, givesText_of_optionalText nameRead⟩

/-- What an item is read as is what it describes. -/
theorem yields_of_route? {item : Value} {r : Option Route} (read : route? index item = .ok r) :
    Yields item r := by
  rcases route?_outcomes index item with
    ⟨failure, told, -, -⟩ | ⟨entries, uri, a, opened, hasUri, names, whole⟩
  · rw [told] at read
    cases read
  · rw [whole] at read
    split at read
    · next kept =>
      obtain ⟨r', rfl, described⟩ := describes_of_keptRoute hasUri read
      exact .route ⟨entries, a, opened, names, kept, described⟩
    · next skipped =>
      cases read
      exact .nothing ⟨entries, a, opened, by simp [hasUri], names, skipped⟩

end

theorem reads_of_routesFrom {its : List Value} {start : Nat} {rs : List Route}
    (read : routesFrom start its = .ok rs) : Reads its rs := by
  induction its generalizing start rs with
  | nil =>
    obtain rfl := Except.ok.inj read
    exact .nil
  | cons item its ih =>
    obtain ⟨r, first, read⟩ := ok_of_bind read
    obtain ⟨rest, others, read⟩ := ok_of_bind read
    obtain rfl := Except.ok.inj read
    exact .cons (yields_of_route? first) (ih others)

/-- The routes of a document that can be read are those that its items describe. -/
theorem reads_of_routes {path : String} {v : Value} {rs : List Route}
    (read : routes path v = .ok rs) : ∃ its, Lists v its ∧ Reads its rs := by
  obtain ⟨its, listed, read⟩ := ok_of_bind read
  exact ⟨its, lists_of_items listed, reads_of_routesFrom read⟩

theorem exists_item_of_mem {its : List Value} {rs : List Route} (reads : Reads its rs) {r : Route}
    (here : r ∈ rs) : ∃ item ∈ its, Gives item r := by
  induction reads with
  | nil => cases here
  | cons yields _ ih =>
    rcases List.mem_append.mp here with first | later
    · obtain rfl := Option.mem_toList.mp first
      cases yields with
      | route gives => exact ⟨_, List.mem_cons_self, gives⟩
    · obtain ⟨item, listed, gives⟩ := ih later
      exact ⟨item, List.mem_cons_of_mem _ listed, gives⟩

/-- The controller and the action of a handler are the parts of the action text around its first
`@`. -/
theorem handler_cases (action : String) :
    ('@' ∉ action.toList ∧ (handler action).1 = action ∧ (handler action).2.2 = "") ∨
      ∃ controller name, '@' ∉ controller.toList ∧ action = controller ++ "@" ++ name ∧
        (handler action).1 = controller ∧ (handler action).2.2 = name := by
  by_cases mark : '@' ∈ action.toList
  · obtain ⟨controller, name, clear, parts⟩ := Text.exists_append_of_mem mark
    have cut : Text.cut '@' action = (controller, name) := parts ▸ Text.cut_append clear name
    refine .inr ⟨controller, name, clear, parts, ?_⟩
    rw [handler, cut]
    exact ⟨rfl, rfl⟩
  · refine .inl ⟨mark, ?_⟩
    rw [handler, Text.cut_eq_self mark]
    exact ⟨rfl, rfl⟩

end RouteDocs.Manifest
