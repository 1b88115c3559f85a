import RouteDocs.Operation
import RouteDocs.Proofs.Grouping
import RouteDocs.Proofs.Text.Separator

/-!
# Responses by status code

* `Responses.Says`: the code and the description that a declaration gives;
* `Responses.ofDeclarations_eq`: the responses are the descriptions grouped by their codes;
* `Responses.grouped_by_code`: which responses a list of declarations declares, how many, and what a
  further list adds to them.
-/

namespace RouteDocs.Responses

/-- What a declaration says: a code before its first bar and a description after it, each without the
blanks at its ends. A declaration without a bar is a code with an empty description. -/
inductive Says : String → String × String → Prop where
  | described {code : String} (clear : '|' ∉ code.toList) (description : String) :
      Says (code ++ "|" ++ description) (Text.strip code, Text.strip description)
  | bare {code : String} (clear : '|' ∉ code.toList) : Says code (Text.strip code, "")

def read (declaration : String) : String × String :=
  (Text.strip (Text.cut '|' declaration).1, Text.strip (Text.cut '|' declaration).2)

theorem says_read (declaration : String) : Says declaration (read declaration) := by
  by_cases bar : '|' ∈ declaration.toList
  · obtain ⟨code, description, clear, rfl⟩ := Text.exists_append_of_mem bar
    rw [read, Text.cut_append clear]
    exact .described clear description
  · rw [read, Text.cut_eq_self bar]
    exact .bare bar

theorem forall₂_says_read (declarations : List String) :
    List.Forall₂ Says declarations (declarations.map read) :=
  List.forall₂_map_right_iff.mpr (List.forall₂_same.mpr fun d _ => says_read d)

/-- The responses are the descriptions of the declarations, grouped by their codes. -/
theorem ofDeclarations_eq (declarations : List String) :
    ofDeclarations declarations = OrderedMap.group Prod.fst Prod.snd (declarations.map read) := by
  rw [OrderedMap.group, List.foldl_map]
  rfl

/-- **Responses are grouped by their codes.** For every list of declarations, with what each of them
says:

* the codes stand in the order in which they first come, and under each code are the descriptions of
  all its declarations, in their order; in an operation they stand under `description`;
* there are as many descriptions as declarations.

The declarations of a second list add their descriptions to the codes that are there already, and
their other codes come last. -/
theorem grouped_by_code :
    (∀ declarations, ∃ said, List.Forall₂ Says declarations said ∧
      (ofDeclarations declarations).entries = (said.map Prod.fst).eraseDups.map (fun code =>
        (code, (said.filter (·.1 = code)).map Prod.snd)) ∧
      ((Operation.describe (ofDeclarations declarations)).entries.map fun (code, response) =>
        (code, response.entries)) = (said.map Prod.fst).eraseDups.map (fun code =>
          (code, [("description", (said.filter (·.1 = code)).map Prod.snd)])) ∧
      ((ofDeclarations declarations).values.map List.length).sum = declarations.length) ∧
    ∀ xs ys, (ofDeclarations (xs ++ ys)).entries =
      ((ofDeclarations xs).entries.map fun (code, descriptions) =>
        (code, descriptions ++ ((ofDeclarations ys).find? code).getD [])) ++
      (ofDeclarations ys).entries.filter (·.1 ∉ (ofDeclarations xs).keys) := by
  constructor
  · intro declarations
    have entries := OrderedMap.entries_group Prod.fst Prod.snd (declarations.map read)
    have count := OrderedMap.sum_lengths_group Prod.fst Prod.snd (declarations.map read)
    rw [← ofDeclarations_eq] at entries count
    rw [List.length_map] at count
    refine ⟨declarations.map read, forall₂_says_read declarations, entries, ?_, count⟩
    rw [Operation.describe, OrderedMap.map, List.map_map, entries, List.map_map]
    rfl
  · intro xs ys
    rw [ofDeclarations_eq, ofDeclarations_eq, ofDeclarations_eq, List.map_append]
    exact OrderedMap.entries_group_append Prod.fst Prod.snd (xs.map read) (ys.map read)

example : (ofDeclarations ["404 | Gone", "500", " 404|Not here | yet"]).entries =
    [("404", ["Gone", "Not here | yet"]), ("500", [""])] := by
  decide +kernel

end RouteDocs.Responses
