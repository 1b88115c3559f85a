import RouteDocs.Proofs.Text.Trimming
import RouteDocs.Text.Cut

namespace RouteDocs.Text

section
variable {sep : Char}

theorem cutAtChar_append {before : List Char} (clear : sep ∉ before) (after : List Char) :
    cutAtChar sep (before ++ sep :: after) = (before, after) := by
  induction before with
  | nil => simp [cutAtChar]
  | cons c before ih =>
    have apart : c ≠ sep := fun same => clear (same ▸ List.mem_cons_self)
    have rest := ih fun here => clear (List.mem_cons_of_mem c here)
    simp [cutAtChar, apart, rest]

/-- A text is cut at its first separator. -/
theorem cut_append {before : String} (clear : sep ∉ before.toList) (after : String) :
    cut sep (before ++ sep.toString ++ after) = (before, after) := by
  simp [cut, cutAtChar_append clear]

theorem cutAtChar_eq_self {cs : List Char} (clear : sep ∉ cs) : cutAtChar sep cs = (cs, []) := by
  induction cs with
  | nil => rfl
  | cons c cs ih =>
    have apart : c ≠ sep := fun same => clear (same ▸ List.mem_cons_self)
    rw [cutAtChar, if_neg apart, ih fun here => clear (List.mem_cons_of_mem c here)]

/-- A text without a separator is all before it. -/
theorem cut_eq_self {s : String} (clear : sep ∉ s.toList) : cut sep s = (s, "") := by
  simp [cut, cutAtChar_eq_self clear]

/-- A text with a separator is two parts with the first separator between them. -/
theorem exists_append_of_mem {s : String} (here : sep ∈ s.toList) :
    ∃ before after, sep ∉ before.toList ∧ s = before ++ sep.toString ++ after := by
  obtain ⟨before, after, parts, clear⟩ := List.eq_append_cons_of_mem here
  refine ⟨.ofList before, .ofList after, by rwa [String.toList_ofList], ?_⟩
  apply String.toList_inj.mp
  simp [parts]

/-- A text is cut at its last separator. -/
theorem cutLast_append {after : String} (clear : sep ∉ after.toList) (before : String) :
    cutLast sep (before ++ sep.toString ++ after) = (before, after) := by
  have turned : (before.toList ++ sep :: after.toList).reverse =
      after.toList.reverse ++ sep :: before.toList.reverse := by
    simp
  have clear' : sep ∉ after.toList.reverse := by simpa using clear
  simp [cutLast, cutAtLastChar, turned, cutAtChar_append clear']

/-- A text without a separator is all behind it. -/
theorem cutLast_eq_self {s : String} (clear : sep ∉ s.toList) : cutLast sep s = ("", s) := by
  simp [cutLast, cutAtLastChar, clear]

theorem pieces_append {p : Char → Bool} {piece : List Char} (clear : ∀ c ∈ piece, p c = false)
    {mark : Char} (marks : p mark = true) (rest : List Char) :
    pieces p (piece ++ mark :: rest) = piece :: pieces p rest := by
  induction piece with
  | nil => exact pieces_cons_of_mark marks rest
  | cons c piece ih =>
    obtain ⟨inner, others⟩ := List.forall_mem_cons.mp clear
    exact pieces_cons_of_clear inner (ih others)

theorem pieces_eq_self {p : Char → Bool} {piece : List Char} (clear : ∀ c ∈ piece, p c = false) :
    pieces p piece = [piece] := by
  induction piece with
  | nil => rfl
  | cons c piece ih =>
    obtain ⟨inner, others⟩ := List.forall_mem_cons.mp clear
    exact pieces_cons_of_clear inner (ih others)

theorem pieces_intercalate {parts : List (List Char)} (full : parts ≠ [])
    (clear : ∀ part ∈ parts, sep ∉ part) :
    pieces (· == sep) ([sep].intercalate parts) = parts := by
  induction parts with
  | nil => exact absurd rfl full
  | cons part parts ih =>
    have first : ∀ c ∈ part, (c == sep) = false := by
      intro c hc
      rw [beq_eq_false_iff_ne]
      rintro rfl
      exact clear part List.mem_cons_self hc
    cases parts with
    | nil =>
      rw [List.intercalate_singleton]
      exact pieces_eq_self first
    | cons next parts =>
      rw [List.intercalate_cons_cons, List.append_assoc, List.singleton_append,
        pieces_append first (by simp)]
      exact congrArg (part :: ·)
        (ih (List.cons_ne_nil next parts) fun p hp => clear p (List.mem_cons_of_mem part hp))

theorem intercalate_append {sep : List Char} {parts others : List (List Char)} (full : parts ≠ [])
    (full' : others ≠ []) :
    sep.intercalate (parts ++ others) = sep.intercalate parts ++ sep ++ sep.intercalate others := by
  induction parts with
  | nil => exact absurd rfl full
  | cons part parts ih =>
    cases parts with
    | nil =>
      cases others with
      | nil => exact absurd rfl full'
      | cons other others => simp [List.intercalate_cons_cons]
    | cons next parts =>
      have later := ih (List.cons_ne_nil next parts)
      simp only [List.cons_append] at later ⊢
      simp only [List.intercalate_cons_cons, later, List.append_assoc]

theorem intercalate_cons_eq (sep : Char) (part : List Char) (parts : List (List Char)) :
    [sep].intercalate (part :: parts) = part ++ parts.flatMap (sep :: ·) := by
  induction parts generalizing part with
  | nil => simp
  | cons next parts ih =>
    rw [List.intercalate_cons_cons, ih next, List.flatMap_cons, List.append_assoc,
      List.singleton_append, List.cons_append]

theorem intercalate_pieces (sep : Char) (cs : List Char) :
    [sep].intercalate (pieces (· == sep) cs) = cs := by
  induction cs with
  | nil => rfl
  | cons c cs ih =>
    obtain ⟨w, ws, first⟩ := exists_pieces (· == sep) cs
    rw [first] at ih
    cases mark : c == sep with
    | true =>
      rw [pieces_cons_of_mark (p := (· == sep)) mark, first, List.intercalate_cons_cons, ih,
        eq_of_beq mark]
      rfl
    | false =>
      rw [pieces_cons_of_clear (p := (· == sep)) mark first]
      cases ws with
      | nil => simpa using congrArg (c :: ·) ih
      | cons w' ws =>
        rw [List.intercalate_cons_cons] at ih ⊢
        simpa using congrArg (c :: ·) ih

/-- The parts between separators, joined by them, are the text. -/
theorem intercalate_splitAt (sep : Char) (s : String) :
    sep.toString.intercalate (splitAt sep s) = s := by
  apply String.toList_inj.mp
  rw [String.toList_intercalate, splitAt, List.map_map]
  simp [Function.comp_def, intercalate_pieces]

/-- A text that does not start with a separator has something before the first one. -/
theorem head?_splitAt {s : String} (nonempty : s ≠ "") (start : s.toList.head? ≠ some sep) :
    ∀ part ∈ (splitAt sep s).head?, part ≠ "" := by
  cases shape : s.toList with
  | nil => exact absurd (String.toList_eq_nil_iff.mp shape) nonempty
  | cons c cs =>
    have other : (c == sep) = false := by
      rw [shape] at start
      simpa using start
    obtain ⟨w, ws, first⟩ := exists_pieces (· == sep) cs
    rw [splitAt, shape, pieces_cons_of_clear (p := (· == sep)) other first]
    simp

/-- Parts that are joined by a separator are read back, if none has it inside. -/
theorem splitAt_intercalate {parts : List String} (full : parts ≠ [])
    (clear : ∀ part ∈ parts, sep ∉ part.toList) :
    splitAt sep (sep.toString.intercalate parts) = parts := by
  have read : pieces (· == sep) ([sep].intercalate (parts.map String.toList)) =
      parts.map String.toList := by
    apply pieces_intercalate
    · simpa using full
    · intro part hpart
      obtain ⟨s, hs, rfl⟩ := List.mem_map.mp hpart
      exact clear s hs
  rw [splitAt, String.toList_intercalate]
  simp only [Char.toString_eq_singleton, String.toList_singleton]
  rw [read, List.map_map]
  simp [Function.comp_def]

end

end RouteDocs.Text
