import RouteDocs.Json.Reader

namespace RouteDocs.Json

theorem hexValue?_hexDigit {n : Nat} (h : n < 16) : hexValue? (hexDigit n) = some n := by
  revert n
  decide

/-- The unit that the escape of a character below U+0020 spells. -/
theorem hexUnit?_escape {n : Nat} (low : n < 0x20) :
    hexUnit? '0' '0' (hexDigit (n / 16)) (hexDigit (n % 16)) = some n := by
  have zero : hexValue? '0' = some 0 := by decide
  have sixteens : hexValue? (hexDigit (n / 16)) = some (n / 16) := hexValue?_hexDigit (by omega)
  have ones : hexValue? (hexDigit (n % 16)) = some (n % 16) := hexValue?_hexDigit (by omega)
  have sum : ((0 * 16 + 0) * 16 + n / 16) * 16 + n % 16 = n := by omega
  simp only [hexUnit?, zero, sixteens, ones, Option.bind_eq_bind, Option.bind_some, sum]
  rfl

/-- Four characters that are not all hexadecimal digits are no escape. -/
theorem readText_of_hexUnit?_none {a b c d : Char} (none_here : hexUnit? a b c d = none)
    (rest : List Char) : readText ('\\' :: 'u' :: a :: b :: c :: d :: rest) = none := by
  by_cases pair : ∃ e f g h left, rest = '\\' :: 'u' :: e :: f :: g :: h :: left
  · obtain ⟨e, f, g, h, left, rfl⟩ := pair
    rw [readText, none_here]
  · rw [readText, none_here]
    · rfl
    · exact fun e f g h left same => pair ⟨e, f, g, h, left, same⟩

/-- An escape below the surrogates is read on its own, even if another escape follows. -/
theorem readText_unit {a b c d : Char} {n : Nat} (unit : hexUnit? a b c d = some n)
    (low : n < 0xD800) (rest : List Char) :
    readText ('\\' :: 'u' :: a :: b :: c :: d :: rest) =
      (readText rest).map fun p => (.ofNat n :: p.1, p.2) := by
  have whole : charOfUnit? n = some (.ofNat n) := by rw [charOfUnit?, if_neg (by omega)]
  by_cases pair : ∃ e f g h left, rest = '\\' :: 'u' :: e :: f :: g :: h :: left
  · obtain ⟨e, f, g, h, left, rfl⟩ := pair
    rw [readText, unit]
    cases next : hexUnit? e f g h with
    | none => rw [readText_of_hexUnit?_none next]; rfl
    | some second =>
      have noPair : charOfPair? n second = none := by rw [charOfPair?, if_neg (by omega)]
      simp only [noPair, whole]
      cases readText ('\\' :: 'u' :: e :: f :: g :: h :: left) <;> rfl
  · rw [readText, unit]
    · simp only [Option.bind_eq_bind, Option.bind_some, whole]
      cases readText rest <;> rfl
    · exact fun e f g h left same => pair ⟨e, f, g, h, left, same⟩

theorem readText_short {c ch : Char} (short : shortEscape? c = some ch) (rest : List Char) :
    readText ('\\' :: c :: rest) = (readText rest).map fun p => (ch :: p.1, p.2) := by
  have noUnit : c ≠ 'u' := by
    rintro rfl
    cases short
  rw [readText]
  · simp only [short, Option.bind_eq_bind, Option.bind_some]
    cases readText rest <;> rfl
  · exact fun _ _ _ _ _ _ _ _ _ same _ => noUnit same
  · exact fun _ _ _ _ _ same _ => noUnit same

/-- A character that is not escaped is read as itself. -/
theorem readText_raw {c : Char} (quote : c ≠ '"') (backslash : c ≠ '\\')
    (printable : 0x20 ≤ c.toNat) (rest : List Char) :
    readText (c :: rest) = (readText rest).map fun p => (c :: p.1, p.2) := by
  have kept : ¬ (c = '\\' ∨ c.toNat < 0x20) := by
    rintro (same | low)
    · exact backslash same
    · omega
  rw [readText]
  · rw [if_neg kept]
  · exact quote
  · exact fun _ _ _ _ _ _ _ _ _ same _ => backslash same
  · exact fun _ _ _ _ _ same _ => backslash same
  · exact fun _ _ same _ => backslash same

/-- One character is read back from what was written for it. -/
theorem readText_escapeChar (c : Char) (rest : List Char) :
    readText (escapeChar c ++ rest) = (readText rest).map fun p => (c :: p.1, p.2) := by
  -- a character below U+0020 is told by its number
  have coded (n : Nat) (same : c.toNat = n) : .ofNat n = c := by rw [← same, Char.ofNat_toNat]
  unfold escapeChar
  split
  · next quote => subst quote; exact readText_short (by decide) rest
  split
  · next backslash => subst backslash; exact readText_short (by decide) rest
  split
  · exact readText_raw ‹_› ‹_› ‹_› rest
  split
  · next code => obtain rfl := coded 8 code; exact readText_short (by decide) rest
  split
  · next code => obtain rfl := coded 9 code; exact readText_short (by decide) rest
  split
  · next code => obtain rfl := coded 10 code; exact readText_short (by decide) rest
  split
  · next code => obtain rfl := coded 12 code; exact readText_short (by decide) rest
  split
  · next code => obtain rfl := coded 13 code; exact readText_short (by decide) rest
  · next low _ _ _ _ _ =>
    have unit := hexUnit?_escape (n := c.toNat) (by omega)
    have read := readText_unit unit (by omega) rest
    rwa [Char.ofNat_toNat] at read

theorem readText_escape (cs rest : List Char) :
    readText (escape cs ++ '"' :: rest) = some (cs, rest) := by
  induction cs with
  | nil => rw [escape, List.flatMap_nil, List.nil_append, readText]
  | cons c cs ih =>
    have step := readText_escapeChar c (escape cs ++ '"' :: rest)
    rw [ih] at step
    rw [escape, List.flatMap_cons, List.append_assoc]
    exact step

/-- Every number of the value is spelled as one, and no object in it repeats a key. -/
inductive WellFormed : Json → Prop where
  | null : WellFormed .null
  | bool (b : Bool) : WellFormed (.bool b)
  | number (spelling : String) (spelled : isNumber spelling.toList = true)
      (chars : ∀ c ∈ spelling.toList, isNumberChar c = true) : WellFormed (.number spelling)
  | text (s : String) : WellFormed (.text s)
  | array (items : List Json) (each : ∀ item ∈ items, WellFormed item) : WellFormed (.array items)
  | object (members : List (String × Json)) (distinct : (members.map Prod.fst).Nodup)
      (each : ∀ m ∈ members, WellFormed m.2) : WellFormed (.object members)

/-- What follows a value: it starts with no character that could go on with a number. -/
def Follows (rest : List Char) : Prop := ∀ c ∈ rest.head?, isNumberChar c = false

theorem follows_nil : Follows [] := nofun

theorem follows_cons {c : Char} (h : isNumberChar c = false) (rest : List Char) :
    Follows (c :: rest) := by
  intro c' first
  obtain rfl := Option.some.inj first
  exact h

theorem takeWhile_of_follows {rest : List Char} (follows : Follows rest) :
    rest.takeWhile isNumberChar = [] := by
  cases rest with
  | nil => rfl
  | cons c cs => rw [List.takeWhile_cons, follows c rfl, if_neg Bool.false_ne_true]

theorem dropWhile_of_follows {rest : List Char} (follows : Follows rest) :
    rest.dropWhile isNumberChar = rest := by
  cases rest with
  | nil => rfl
  | cons c cs => rw [List.dropWhile_cons, follows c rfl, if_neg Bool.false_ne_true]

/-- Whether a character that starts a value is no white space and closes no array. -/
def Starts (c : Char) : Prop := isSpace c = false ∧ c ≠ ']'

instance (c : Char) : Decidable (Starts c) := inferInstanceAs (Decidable (_ ∧ _))

theorem starts_of_isNumberChar {c : Char} (h : isNumberChar c = true) : Starts c := by
  refine ⟨Bool.eq_false_iff.mpr fun space => ?_, ?_⟩
  · simp only [isSpace, Bool.or_eq_true, beq_iff_eq] at space
    rcases space with ((rfl | rfl) | rfl) | rfl <;> exact absurd h (by decide)
  · rintro rfl
    exact absurd h (by decide)

theorem skipSpace_cons {c : Char} (h : isSpace c = false) (cs : List Char) :
    skipSpace (c :: cs) = c :: cs := by
  rw [skipSpace, List.dropWhile_cons, h, if_neg Bool.false_ne_true]

/-- What is written for a value starts with a character that starts values. -/
theorem exists_start {value : Json} (h : value.WellFormed) :
    ∃ c cs, value.writeChars = c :: cs ∧ Starts c := by
  cases h with
  | null => exact ⟨_, _, rfl, by decide⟩
  | bool b => cases b <;> exact ⟨_, _, rfl, by decide⟩
  | number spelling spelled chars =>
    rw [writeChars]
    cases shape : spelling.toList with
    | nil => rw [shape] at spelled; cases spelled
    | cons c cs => exact ⟨c, cs, rfl, starts_of_isNumberChar (chars c (shape ▸ List.mem_cons_self))⟩
  | text s => exact ⟨_, _, rfl, by decide⟩
  | array items => exact ⟨_, _, rfl, by decide⟩
  | object members => exact ⟨_, _, rfl, by decide⟩

/-- The value is read back from the start of every text that goes on after it as texts do. -/
def ReadBack (value : Json) : Prop :=
  ∀ fuel rest, value.writeChars.length ≤ fuel → Follows rest →
    readValue fuel (value.writeChars ++ rest) = some (value, rest)

theorem readBack_number {spelling : String} (spelled : isNumber spelling.toList = true)
    (chars : ∀ c ∈ spelling.toList, isNumberChar c = true) : ReadBack (.number spelling) := by
  intro fuel rest enough follows
  rw [writeChars] at enough ⊢
  have taken : (spelling.toList ++ rest).takeWhile isNumberChar = spelling.toList := by
    rw [List.takeWhile_append_of_pos chars, takeWhile_of_follows follows, List.append_nil]
  have left : (spelling.toList ++ rest).dropWhile isNumberChar = rest := by
    rw [List.dropWhile_append_of_pos chars, dropWhile_of_follows follows]
  cases shape : spelling.toList with
  | nil => rw [shape] at spelled; cases spelled
  | cons c cs =>
    have number : isNumberChar c = true := chars c (shape ▸ List.mem_cons_self)
    have token := (starts_of_isNumberChar number).1
    rw [shape] at taken left spelled enough
    rw [List.cons_append] at taken left ⊢
    obtain ⟨fuel, rfl⟩ : ∃ f, fuel = f + 1 := ⟨fuel - 1, by simp at enough; omega⟩
    rw [readValue, skipSpace_cons token]
    split
    -- the words, the quote and the brackets start with no character of a number
    case h_1 | h_2 | h_3 | h_4 | h_5 | h_6 =>
      rename_i start
      obtain ⟨rfl, -⟩ := List.cons.inj start
      exact absurd number (by decide)
    case h_7 =>
      simp only [taken, left, spelled, if_true]
      rw [← shape, String.ofList_toList]

theorem readBack_null : ReadBack .null := by
  rintro (_ | fuel) rest enough -
  · simp [writeChars] at enough
  · simp only [writeChars, List.cons_append, List.nil_append, readValue,
      skipSpace_cons (c := 'n') (by decide)]

theorem readBack_bool (b : Bool) : ReadBack (.bool b) := by
  rintro (_ | fuel) rest enough -
  · cases b <;> simp [writeChars] at enough
  · cases b with
    | true =>
      simp only [writeChars, List.cons_append, List.nil_append, readValue,
        skipSpace_cons (c := 't') (by decide)]
    | false =>
      simp only [writeChars, List.cons_append, List.nil_append, readValue,
        skipSpace_cons (c := 'f') (by decide)]

theorem readBack_text (s : String) : ReadBack (.text s) := by
  rintro (_ | fuel) rest enough -
  · simp [writeChars, quote] at enough
  · have read := readText_escape s.toList rest
    rw [writeChars, quote, List.cons_append, List.append_assoc, List.singleton_append, readValue,
      skipSpace_cons (by decide)]
    simp only [read, Option.map_some, String.ofList_toList]

theorem readItems_writeItems {items : List Json} (some_item : items ≠ [])
    (each : ∀ item ∈ items, ReadBack item) (fuel : Nat) (rest : List Char)
    (enough : (writeItems items).length < fuel) :
    readItems fuel (writeItems items ++ ']' :: rest) = some (items, rest) := by
  induction items generalizing fuel with
  | nil => exact absurd rfl some_item
  | cons item more ih =>
    obtain ⟨first, others⟩ := List.forall_mem_cons.mp each
    obtain ⟨fuel, rfl⟩ : ∃ f, fuel = f + 1 := ⟨fuel - 1, by omega⟩
    cases more with
    | nil =>
      rw [writeItems] at enough ⊢
      have read := first fuel (']' :: rest) (by omega) (follows_cons (by decide) rest)
      rw [readItems, read]
      rfl
    | cons next more =>
      rw [writeItems, List.length_append, List.length_cons] at enough
      have read := first fuel (',' :: (writeItems (next :: more) ++ ']' :: rest)) (by omega)
        (follows_cons (by decide) _)
      have later := ih (List.cons_ne_nil _ _) others fuel (by omega)
      rw [writeItems, List.append_assoc, List.cons_append, readItems, read]
      simp only [Option.bind_eq_bind, Option.bind_some, skipSpace_cons (c := ',') (by decide), later]
      rfl

/-- A member is read, and what follows its value decides how to go on. -/
theorem readMembers_member (key : String) {value : Json} {fuel : Nat} {rest : List Char}
    (read : readValue fuel (value.writeChars ++ rest) = some (value, rest)) :
    readMembers (fuel + 1) (quote key ++ ':' :: (value.writeChars ++ rest)) =
      match skipSpace rest with
      | ',' :: more => do
        let (members, left) ← readMembers fuel more
        return ((key, value) :: members, left)
      | '}' :: left => some ([(key, value)], left)
      | _ => none := by
  have named := readText_escape key.toList (':' :: (value.writeChars ++ rest))
  simp only [quote, List.cons_append, List.append_assoc, List.nil_append, readMembers,
    skipSpace_cons (c := '"') (by decide), named, Option.bind_eq_bind, Option.bind_some,
    skipSpace_cons (c := ':') (by decide), read, String.ofList_toList]
  rfl

theorem readMembers_writeMembers {members : List (String × Json)} (some_member : members ≠ [])
    (each : ∀ m ∈ members, ReadBack m.2) (fuel : Nat) (rest : List Char)
    (enough : (writeMembers members).length < fuel) :
    readMembers fuel (writeMembers members ++ '}' :: rest) = some (members, rest) := by
  induction members generalizing fuel with
  | nil => exact absurd rfl some_member
  | cons member more ih =>
    obtain ⟨first, others⟩ := List.forall_mem_cons.mp each
    obtain ⟨key, value⟩ := member
    dsimp only at first
    obtain ⟨fuel, rfl⟩ : ∃ f, fuel = f + 1 := ⟨fuel - 1, by omega⟩
    cases more with
    | nil =>
      rw [writeMembers, List.length_append, List.length_cons] at enough
      have read := first fuel ('}' :: rest) (by omega) (follows_cons (by decide) rest)
      rw [writeMembers, List.append_assoc, List.cons_append, readMembers_member key read,
        skipSpace_cons (c := '}') (by decide)]
      rfl
    | cons next more =>
      rw [writeMembers, List.length_append, List.length_cons, List.length_append,
        List.length_cons] at enough
      have later := ih (List.cons_ne_nil _ _) others fuel (by omega)
      have read := first fuel (',' :: (writeMembers (next :: more) ++ '}' :: rest)) (by omega)
        (follows_cons (by decide) _)
      rw [writeMembers, List.append_assoc, List.cons_append, List.append_assoc, List.cons_append,
        readMembers_member key read, skipSpace_cons (c := ',') (by decide)]
      simp only [later, Option.bind_eq_bind, Option.bind_some]
      rfl

theorem readBack_array {items : List Json} (wellFormed : ∀ item ∈ items, WellFormed item)
    (each : ∀ item ∈ items, ReadBack item) : ReadBack (.array items) := by
  rintro (_ | fuel) rest enough -
  · simp [writeChars] at enough
  · rw [writeChars, List.length_cons, List.length_append, List.length_singleton] at enough
    rw [writeChars, List.cons_append, List.append_assoc, List.singleton_append, readValue,
      skipSpace_cons (by decide)]
    cases items with
    | nil => rfl
    | cons item more =>
      have read := readItems_writeItems (List.cons_ne_nil item more) each fuel rest
        (by omega)
      -- an array that is not empty starts with what starts its first item
      obtain ⟨c, cs, start, token, opens⟩ :
          ∃ c cs, writeItems (item :: more) ++ ']' :: rest = c :: cs ∧ Starts c := by
        obtain ⟨c, cs, start, starts⟩ := exists_start (wellFormed item List.mem_cons_self)
        cases more with
        | nil => exact ⟨c, cs ++ ']' :: rest, by rw [writeItems, start]; rfl, starts⟩
        | cons next more => exact ⟨c, _, by rw [writeItems, start]; rfl, starts⟩
      rw [start] at read ⊢
      simp only [skipSpace_cons token, read, Option.map_some]
      split
      · next closed => exact absurd (List.cons.inj closed).1 opens
      · rfl

theorem readBack_object {members : List (String × Json)} (each : ∀ m ∈ members, ReadBack m.2) :
    ReadBack (.object members) := by
  rintro (_ | fuel) rest enough -
  · simp [writeChars] at enough
  · rw [writeChars, List.length_cons, List.length_append, List.length_singleton] at enough
    rw [writeChars, List.cons_append, List.append_assoc, List.singleton_append, readValue,
      skipSpace_cons (by decide)]
    cases members with
    | nil => rfl
    | cons member more =>
      have read := readMembers_writeMembers (List.cons_ne_nil member more) each fuel rest
        (by omega)
      obtain ⟨cs, start⟩ : ∃ cs, writeMembers (member :: more) ++ '}' :: rest = '"' :: cs := by
        cases more <;> exact ⟨_, rfl⟩
      rw [start] at read ⊢
      simp only [skipSpace_cons (c := '"') (by decide), read, Option.map_some]
      rfl

/-- A value is read back from the start of a text. -/
theorem readValue_writeChars {value : Json} (h : value.WellFormed) : ReadBack value := by
  induction h with
  | null => exact readBack_null
  | bool b => exact readBack_bool b
  | number spelling spelled chars => exact readBack_number spelled chars
  | text s => exact readBack_text s
  | array items each ih => exact readBack_array each ih
  | object members distinct each ih => exact readBack_object ih

/-- **A value is read back from its compact text.** -/
theorem read?_write {value : Json} (h : value.WellFormed) : read? value.write = some value := by
  have whole := readValue_writeChars h (value.writeChars.length + 1) [] (by omega) follows_nil
  rw [List.append_nil] at whole
  rw [read?, write, String.toList_ofList]
  simp only [whole, Option.bind_eq_bind, Option.bind_some]
  rfl

/-- Distinct values have distinct texts. -/
theorem write_injective {value other : Json} (h : value.WellFormed) (h' : other.WellFormed)
    (same : value.write = other.write) : value = other := by
  have read := read?_write h
  rw [same, read?_write h'] at read
  exact (Option.some.inj read).symm

end RouteDocs.Json
