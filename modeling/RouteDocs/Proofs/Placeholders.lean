import RouteDocs.Proofs.Parameters
import RouteDocs.Proofs.Text.Separator

/-!
# The placeholders of a URI

* `Placeholder.MadeOf`: a URI is made of placeholders and of text around them;
* `Placeholder.scan_placeholder`, `Placeholder.scan_clear_append`, `Placeholder.scan_of_unclosed`: what
  is found in a placeholder, before it and after the last one;
* `Placeholder.ofUri_of_madeOf`, `Placeholder.exists_madeOf`: the bodies of the placeholders are found,
  and a URI of one line is made of them;
* `Placeholder.params_of_uri`: the same with the parameters that they stand for.
-/

namespace RouteDocs.Placeholder

/-- A URI is made of placeholders with these bodies. There is no opening brace before a placeholder, and
neither a closing brace nor the end of a line in its body. What is left behind the last one has no
closing brace after its first opening one. -/
inductive MadeOf : String → List String → Prop where
  | unclosed {rest : String} (unclosed : '}' ∉ (Text.cut '{' rest).2.toList) : MadeOf rest []
  | placeholder {lead body rest : String} {bodies : List String} (first : '{' ∉ lead.toList)
      (closed : '}' ∉ body.toList) (inLine : '\n' ∉ body.toList) (others : MadeOf rest bodies) :
      MadeOf (lead ++ "\x7b" ++ body ++ "\x7d" ++ rest) (body :: bodies)

theorem body?_append {body : List Char} (closed : '}' ∉ body) (inLine : '\n' ∉ body)
    (rest : List Char) : body? (body ++ '}' :: rest) = some (body, rest) := by
  induction body with
  | nil => rfl
  | cons c body ih =>
    rw [List.mem_cons, not_or] at closed inLine
    rw [List.cons_append, body?, if_neg (Ne.symm closed.1), if_neg (Ne.symm inLine.1),
      ih closed.2 inLine.2]
    rfl

theorem body?_eq_none {cs : List Char} (unended : '}' ∉ cs) : body? cs = none := by
  induction cs with
  | nil => rfl
  | cons c cs ih =>
    rw [List.mem_cons, not_or] at unended
    rw [body?, if_neg (Ne.symm unended.1), ih unended.2]
    exact ite_self none

/-- The characters of a placeholder already found are passed over. -/
theorem scan_length_append (found rest : List Char) :
    scan found.length (found ++ rest) = scan 0 rest := by
  induction found with
  | nil => rfl
  | cons c found ih => exact ih

theorem scan_placeholder {body : List Char} (closed : '}' ∉ body) (inLine : '\n' ∉ body)
    (rest : List Char) : scan 0 ('{' :: (body ++ '}' :: rest)) = body :: scan 0 rest := by
  have behind := scan_length_append (body ++ ['}']) rest
  rw [List.append_assoc, List.length_append, List.length_singleton, List.singleton_append] at behind
  rw [scan, if_pos rfl, body?_append closed inLine]
  exact congrArg (body :: ·) behind

theorem scan_clear_append {lead : List Char} (clear : '{' ∉ lead) (cs : List Char) :
    scan 0 (lead ++ cs) = scan 0 cs := by
  induction lead with
  | nil => rfl
  | cons c lead ih =>
    rw [List.mem_cons, not_or] at clear
    rw [List.cons_append, scan, if_neg (Ne.symm clear.1), ih clear.2]

theorem scan_of_no_end {cs : List Char} (unended : '}' ∉ cs) : scan 0 cs = [] := by
  induction cs with
  | nil => rfl
  | cons c cs ih =>
    have later : '}' ∉ cs := fun here => unended (List.mem_cons_of_mem c here)
    rw [scan, body?_eq_none later, ih later]
    exact ite_self []

theorem scan_of_unclosed {cs : List Char} (unclosed : '}' ∉ (Text.cutAtChar '{' cs).2) :
    scan 0 cs = [] := by
  by_cases brace : '{' ∈ cs
  · obtain ⟨lead, rest, rfl, clear⟩ := List.eq_append_cons_of_mem brace
    rw [Text.cutAtChar_append clear] at unclosed
    rw [scan_clear_append clear]
    exact scan_of_no_end (by simpa using unclosed)
  · rw [← List.append_nil cs, scan_clear_append brace]
    rfl

theorem toList_braced (lead body rest : String) :
    (lead ++ "\x7b" ++ body ++ "\x7d" ++ rest).toList =
      lead.toList ++ '{' :: (body.toList ++ '}' :: rest.toList) := by
  simp

/-- The bodies of the placeholders are found, in their order. -/
theorem ofUri_of_madeOf {uri : String} {bodies : List String} (made : MadeOf uri bodies) :
    ofUri uri = bodies := by
  induction made with
  | @unclosed rest unclosed =>
    have nothing : scan 0 rest.toList = [] := scan_of_unclosed (by simpa [Text.cut] using unclosed)
    rw [ofUri, nothing, List.map_nil]
  | @placeholder lead body rest bodies first closed inLine others ih =>
    rw [ofUri, toList_braced, scan_clear_append first, scan_placeholder closed inLine, List.map_cons,
      String.ofList_toList]
    exact congrArg (body :: ·) ih

/-- A URI of one line is made of placeholders. -/
theorem exists_madeOf {uri : String} (inLine : '\n' ∉ uri.toList) :
    ∃ bodies, MadeOf uri bodies := by
  -- what follows a placeholder is shorter than the URI
  induction size : uri.toList.length using Nat.strongRecOn generalizing uri with
  | ind n ih =>
    by_cases brace : '{' ∈ uri.toList
    · obtain ⟨lead, behind, first, rfl⟩ := Text.exists_append_of_mem brace
      by_cases ends : '}' ∈ behind.toList
      · obtain ⟨body, rest, closed, rfl⟩ := Text.exists_append_of_mem ends
        have whole : lead ++ '{'.toString ++ (body ++ '}'.toString ++ rest) =
            lead ++ "\x7b" ++ body ++ "\x7d" ++ rest := by
          rw [← String.append_assoc, ← String.append_assoc]
          rfl
        rw [whole, toList_braced] at inLine size
        rw [whole]
        have shorter : rest.toList.length < n := by
          rw [← size]
          simp
          omega
        have inBody : '\n' ∉ body.toList := fun here => inLine (by simp [here])
        have inRest : '\n' ∉ rest.toList := fun here => inLine (by simp [here])
        obtain ⟨bodies, others⟩ := ih _ shorter inRest rfl
        exact ⟨body :: bodies, .placeholder first closed inBody others⟩
      · have cut : Text.cut '{' (lead ++ '{'.toString ++ behind) = (lead, behind) :=
          Text.cut_append first behind
        exact ⟨[], .unclosed (by rw [cut]; exact ends)⟩
    · exact ⟨[], .unclosed (by rw [Text.cut_eq_self brace]; exact List.not_mem_nil)⟩

theorem exists_last_of_mem {bodies : List String} {n : String} (here : n ∈ bodies.map name) :
    ∃ earlier last later, bodies = earlier ++ last :: later ∧ name last = n ∧
      (∀ body ∈ later, name body ≠ n) ∧
      (bodies.filter (name · = n)).getLast? = some last := by
  induction bodies using List.reverseRecOn with
  | nil => cases here
  | append_singleton bodies body ih =>
    by_cases named : name body = n
    · refine ⟨bodies, body, [], rfl, named, nofun, ?_⟩
      rw [List.filter_append, List.filter_singleton]
      simp [named]
    · rw [List.map_append, List.mem_append] at here
      have before : n ∈ bodies.map name := here.resolve_right (by simpa using Ne.symm named)
      obtain ⟨earlier, last, later, rfl, same, others, found⟩ := ih before
      refine ⟨earlier, last, later ++ [body], by simp, same, ?_, ?_⟩
      · exact List.forall_mem_append.mpr ⟨others, List.forall_mem_singleton.mpr named⟩
      · rw [List.filter_append, found.symm]
        simp [named]

/-- **The placeholders of a URI are the texts between its braces.** If a URI is made of placeholders, its
placeholders are found in their order. The parameters that they stand for have the names of the
placeholders, each at the place of its first one, and a name has what the last placeholder with that name
says: it is required exactly if there is no question mark in it. Every URI of one line is made of
placeholders. -/
theorem params_of_uri :
    (∀ uri bodies, MadeOf uri bodies →
      ofUri uri = bodies ∧ (params uri).keys = (bodies.map name).eraseDups ∧
      ∀ n ∈ bodies.map name, ∃ earlier last later, bodies = earlier ++ last :: later ∧
        name last = n ∧ (∀ body ∈ later, name body ≠ n) ∧
        (params uri).find? n = some {
          name := n, location := .path, description := "Param in path"
          required := '?' ∉ last.toList, type := "integer", format := none }) ∧
    ∀ uri : String, '\n' ∉ uri.toList → ∃ bodies, MadeOf uri bodies := by
  refine ⟨fun uri bodies made => ?_, fun uri => exists_madeOf⟩
  have found := ofUri_of_madeOf made
  refine ⟨found, ?_, ?_⟩
  · rw [keys_params, names, found]
  · intro n here
    obtain ⟨earlier, last, later, parts, named, others, isLast⟩ := exists_last_of_mem here
    refine ⟨earlier, last, later, parts, named, others, ?_⟩
    rw [find?_params, last?, found, isLast]
    rfl

/-- A URI with a stray closing brace, an opening brace inside a placeholder, a name that comes twice and
a placeholder that is not closed. -/
def strayUri : String := "a\x7db\x7bx\x7by?\x7dc\x7bid\x7d\x7d\x7bx\x7by\x7d\x7bopen"

theorem params_of_uri_stray :
    MadeOf strayUri ["x\x7by?", "id", "x\x7by"] ∧
      ofUri strayUri = ["x\x7by?", "id", "x\x7by"] ∧
      (params strayUri).keys = ["x\x7by", "id"] ∧
      (params strayUri).find? "x\x7by" = some {
        name := "x\x7by", location := .path, description := "Param in path", required := true
        type := "integer", format := none } := by
  have shape : strayUri = "a\x7db" ++ "\x7b" ++ "x\x7by?" ++ "\x7d" ++
      ("c" ++ "\x7b" ++ "id" ++ "\x7d" ++
        ("\x7d" ++ "\x7b" ++ "x\x7by" ++ "\x7d" ++ "\x7bopen")) := by
    decide
  have made : MadeOf strayUri ["x\x7by?", "id", "x\x7by"] := by
    rw [shape]
    exact .placeholder (by decide) (by decide) (by decide)
      (.placeholder (by decide) (by decide) (by decide)
        (.placeholder (by decide) (by decide) (by decide) (.unclosed (by decide))))
  obtain ⟨found, keys, values⟩ := params_of_uri.1 _ _ made
  obtain ⟨earlier, last, later, parts, named, others, value⟩ := values "x\x7by" (by decide +kernel)
  refine ⟨made, found, keys.trans (by decide +kernel), ?_⟩
  have isLast : last = "x\x7by" := by
    match earlier, parts with
    | [], parts =>
      cases parts
      exact absurd rfl (others "x\x7by" (by decide))
    | [_], parts =>
      cases parts
      exact absurd named (by decide)
    | [_, _], parts =>
      cases parts
      rfl
    | _ :: _ :: _ :: _, parts => simp at parts
  rw [value, isLast]
  rfl

end RouteDocs.Placeholder
