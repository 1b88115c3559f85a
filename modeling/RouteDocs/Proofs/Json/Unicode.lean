import RouteDocs.Proofs.Json.ReadBack
import RouteDocs.Proofs.Text.Half

namespace RouteDocs.Json

/-- The texts among the values of a JSON value. -/
inductive Holds : Json → String → Prop where
  | text (s : String) : Holds (.text s) s
  | item {items : List Json} {item : Json} {s : String} (here : item ∈ items)
      (holds : Holds item s) : Holds (.array items) s
  | member {members : List (String × Json)} {m : String × Json} {s : String} (here : m ∈ members)
      (holds : Holds m.2 s) : Holds (.object members) s

/-- The keys of the objects in a JSON value. -/
inductive Names : Json → String → Prop where
  | key {members : List (String × Json)} {m : String × Json} (here : m ∈ members) :
      Names (.object members) m.1
  | item {items : List Json} {item : Json} {key : String} (here : item ∈ items)
      (names : Names item key) : Names (.array items) key
  | member {members : List (String × Json)} {m : String × Json} {key : String}
      (here : m ∈ members) (names : Names m.2 key) : Names (.object members) key

/-- No text and no key holds half of a surrogate pair, or a private-use character that stands in for
one. -/
structure IsUnicode (value : Json) : Prop where
  values : ∀ s, value.Holds s → Text.hasHalves s = false
  keys : ∀ key, value.Names key → Text.hasHalves key = false

theorem IsUnicode.of_item {items : List Json} (h : IsUnicode (.array items)) :
    ∀ item ∈ items, IsUnicode item := fun _ here =>
  ⟨fun s holds => h.values s (.item here holds), fun key names => h.keys key (.item here names)⟩

theorem IsUnicode.of_member {members : List (String × Json)} (h : IsUnicode (.object members)) :
    ∀ m ∈ members, Text.hasHalves m.1 = false ∧ IsUnicode m.2 := fun _ here =>
  ⟨h.keys _ (.key here), fun s holds => h.values s (.member here holds),
    fun key names => h.keys key (.member here names)⟩

/-- Whether some character stands in for half of a surrogate pair. -/
def halved (cs : List Char) : Bool := cs.any fun c => (Text.half? c).isSome

@[simp] theorem halved_nil : halved [] = false := rfl

@[simp] theorem halved_cons (c : Char) (cs : List Char) :
    halved (c :: cs) = ((Text.half? c).isSome || halved cs) := rfl

@[simp] theorem halved_append (cs ds : List Char) : halved (cs ++ ds) = (halved cs || halved ds) :=
  List.any_append

theorem hasHalves_write (value : Json) : Text.hasHalves value.write = halved value.writeChars := by
  rw [Text.hasHalves, write, String.toList_ofList, halved]

theorem half?_hexDigit {n : Nat} (h : n < 16) : Text.half? (hexDigit n) = none := by
  revert n
  decide

/-- The escape of a character holds a half exactly if the character is one. -/
theorem halved_escapeChar (c : Char) : halved (escapeChar c) = (Text.half? c).isSome := by
  have control (low : c.toNat < 0x20) : Text.half? c = none :=
    Text.half?_of_small (Nat.lt_trans low (by decide))
  unfold escapeChar
  split
  · next quote => subst quote; decide
  split
  · next backslash => subst backslash; decide
  split
  · simp
  · next low =>
    rw [control (by omega)]
    split
    · decide
    split
    · decide
    split
    · decide
    split
    · decide
    split
    · decide
    · have marks : halved ['\\', 'u', '0', '0'] = false := by decide
      simpa [half?_hexDigit (n := c.toNat / 16) (by omega),
        half?_hexDigit (n := c.toNat % 16) (by omega)] using marks

theorem halved_quote (s : String) : halved (quote s) = Text.hasHalves s := by
  have mark : Text.half? '"' = none := by decide
  have escaped : halved (escape s.toList) = Text.hasHalves s := by
    rw [Text.hasHalves, escape]
    induction s.toList with
    | nil => rfl
    | cons c cs ih => rw [List.flatMap_cons, halved_append, halved_escapeChar, ih, List.any_cons]
  simp [quote, mark, escaped]

theorem halved_writeItems (items : List Json) :
    halved (writeItems items) = items.any fun item => halved item.writeChars := by
  have comma : Text.half? ',' = none := by decide
  induction items with
  | nil => rfl
  | cons item more ih =>
    cases more with
    | nil => simp [writeItems]
    | cons next more => simp [writeItems, comma, ih]

theorem halved_writeMembers (members : List (String × Json)) :
    halved (writeMembers members) =
      members.any fun m => Text.hasHalves m.1 || halved m.2.writeChars := by
  have marks : Text.half? ',' = none ∧ Text.half? ':' = none := by decide
  induction members with
  | nil => rfl
  | cons member more ih =>
    cases more with
    | nil => simp [writeMembers, marks, halved_quote]
    | cons next more => simp [writeMembers, marks, halved_quote, ih, Bool.or_assoc]

theorem halved_array (items : List Json) :
    halved (writeChars (.array items)) = items.any fun item => halved item.writeChars := by
  have marks : Text.half? '[' = none ∧ Text.half? ']' = none := by decide
  simp [writeChars, marks, halved_writeItems]

theorem halved_object (members : List (String × Json)) :
    halved (writeChars (.object members)) =
      members.any fun m => Text.hasHalves m.1 || halved m.2.writeChars := by
  have marks : Text.half? '\x7b' = none ∧ Text.half? '\x7d' = none := by decide
  simp [writeChars, marks, halved_writeMembers]

theorem halved_of_item {items : List Json} {item : Json} (here : item ∈ items)
    (half : halved item.writeChars = true) : halved (writeChars (.array items)) = true := by
  rw [halved_array]
  exact List.any_eq_true.mpr ⟨item, here, half⟩

theorem halved_of_member {members : List (String × Json)} {m : String × Json} (here : m ∈ members)
    (half : Text.hasHalves m.1 = true ∨ halved m.2.writeChars = true) :
    halved (writeChars (.object members)) = true := by
  rw [halved_object]
  exact List.any_eq_true.mpr ⟨m, here, Bool.or_eq_true_iff.mpr half⟩

theorem halved_of_holds {value : Json} {s : String} (holds : value.Holds s)
    (half : Text.hasHalves s = true) : halved value.writeChars = true := by
  induction holds with
  | text s => rw [writeChars, halved_quote, half]
  | item here _ ih => exact halved_of_item here (ih half)
  | member here _ ih => exact halved_of_member here (.inr (ih half))

theorem halved_of_names {value : Json} {key : String} (names : value.Names key)
    (half : Text.hasHalves key = true) : halved value.writeChars = true := by
  induction names with
  | key here => exact halved_of_member here (.inl half)
  | item here _ ih => exact halved_of_item here (ih half)
  | member here _ ih => exact halved_of_member here (.inr (ih half))

theorem halved_number {spelling : String} (chars : ∀ c ∈ spelling.toList, isNumberChar c = true) :
    halved spelling.toList = false := by
  rw [halved, List.any_eq_false]
  intro c here
  have number := chars c here
  simp only [isNumberChar, Bool.or_eq_true, beq_iff_eq] at number
  rcases number with ((((digit | rfl) | rfl) | rfl) | rfl) | rfl
  · simp [Text.half?_of_isDigit digit]
  all_goals decide

theorem halved_of_isUnicode {value : Json} (wellFormed : value.WellFormed)
    (unicode : value.IsUnicode) : halved value.writeChars = false := by
  induction wellFormed with
  | null => rfl
  | bool b => cases b <;> rfl
  | number spelling spelled chars => rw [writeChars, halved_number chars]
  | text s => rw [writeChars, halved_quote, unicode.values s (.text s)]
  | array items each ih =>
    rw [halved_array, List.any_eq_false]
    exact fun item here => Bool.eq_false_iff.mp (ih item here (unicode.of_item item here))
  | object members distinct each ih =>
    rw [halved_object, List.any_eq_false]
    intro m here
    obtain ⟨key, value⟩ := unicode.of_member m here
    simp [key, ih m here value]

/-- The compact text of a value holds half of a surrogate pair exactly if one of its texts or keys
does. -/
theorem isUnicode_iff {value : Json} (wellFormed : value.WellFormed) :
    value.IsUnicode ↔ Text.hasHalves value.write = false := by
  rw [hasHalves_write]
  constructor
  · exact halved_of_isUnicode wellFormed
  · intro whole
    refine ⟨fun s holds => Bool.eq_false_iff.mpr fun half => ?_,
      fun key names => Bool.eq_false_iff.mpr fun half => ?_⟩
    · exact absurd (halved_of_holds holds half) (Bool.eq_false_iff.mp whole)
    · exact absurd (halved_of_names names half) (Bool.eq_false_iff.mp whole)

end RouteDocs.Json
