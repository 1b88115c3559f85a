import RouteDocs.Lookup.Source
import RouteDocs.Module.Source
import RouteDocs.Proofs.Failing

namespace RouteDocs

namespace Text

theorem not_mem_unifyNewlines (cs : List Char) : '\r' ∉ unifyNewlines cs := by
  fun_induction unifyNewlines cs with
  | case1 => exact List.not_mem_nil
  | case2 cs ih => simpa using ih
  | case3 cs _ ih => simpa using ih
  | case4 c cs _ other ih => simpa [ih] using fun same => other same.symm

theorem unifyNewlines_of_clear {cs : List Char} (clear : '\r' ∉ cs) : unifyNewlines cs = cs := by
  fun_induction unifyNewlines cs with
  | case1 => rfl
  | case2 cs ih => simp at clear
  | case3 cs _ ih => simp at clear
  | case4 c cs _ other ih => rw [ih fun here => clear (List.mem_cons_of_mem c here)]

end Text

namespace Module

/-- A byte below 128 spells the character with that number, and no other. -/
theorem toNat_of_mem_utf8EncodeChar {c : Char} {b : UInt8} (here : b ∈ String.utf8EncodeChar c)
    (small : b.toNat < 128) : c.toNat = b.toNat := by
  have number : c.toNat = c.val.toNat := rfl
  unfold String.utf8EncodeChar at here
  dsimp only at here
  -- all bytes of a character that takes more than one are 128 or more
  split at here
  · obtain rfl := List.mem_singleton.mp here
    rw [UInt8.toNat_ofNat'] at small ⊢
    omega
  · exfalso
    split at here
    · simp only [List.mem_cons, List.not_mem_nil, or_false] at here
      rcases here with rfl | rfl <;> rw [UInt8.toNat_ofNat'] at small <;> omega
    · split at here
      · simp only [List.mem_cons, List.not_mem_nil, or_false] at here
        rcases here with rfl | rfl | rfl <;> rw [UInt8.toNat_ofNat'] at small <;> omega
      · simp only [List.mem_cons, List.not_mem_nil, or_false] at here
        rcases here with rfl | rfl | rfl | rfl <;> rw [UInt8.toNat_ofNat'] at small <;> omega

theorem eq_of_mem_utf8EncodeChar {c d : Char} {b : UInt8} (here : b ∈ String.utf8EncodeChar c)
    (small : b.toNat < 128) (same : d.toNat = b.toNat) : c = d :=
  Char.toNat_inj.mp ((toNat_of_mem_utf8EncodeChar here small).trans same.symm)

theorem unifyLines_cons {b : UInt8} (other : b ≠ 13) (bs : List UInt8) :
    unifyLines (b :: bs) = b :: unifyLines bs := by
  rw [unifyLines]
  · rintro rest rfl
    exact absurd rfl other
  · exact other

theorem unifyLines_append {bs : List UInt8} (clear : 13 ∉ bs) (rest : List UInt8) :
    unifyLines (bs ++ rest) = bs ++ unifyLines rest := by
  induction bs with
  | nil => rfl
  | cons b bs ih =>
    have other : b ≠ 13 := fun same => clear (same ▸ List.mem_cons_self)
    rw [List.cons_append, unifyLines_cons other, ih fun here => clear (List.mem_cons_of_mem b here)]
    rfl

theorem unifyLines_return {bs : List UInt8} (alone : bs.head? ≠ some 10) :
    unifyLines (13 :: bs) = 10 :: unifyLines bs := by
  rw [unifyLines]
  rintro rest rfl
  exact alone rfl

/-- Ending every line of a text by a line feed is the same in its bytes and in its characters. -/
theorem unifyLines_utf8 (cs : List Char) :
    unifyLines (cs.flatMap String.utf8EncodeChar) =
      (Text.unifyNewlines cs).flatMap String.utf8EncodeChar := by
  have feed : String.utf8EncodeChar '\n' = [10] := rfl
  have back : String.utf8EncodeChar '\r' = [13] := rfl
  fun_induction Text.unifyNewlines cs with
  | case1 => rfl
  | case2 cs ih =>
    simp only [List.flatMap_cons, feed, back, List.cons_append, List.nil_append, ← ih]
    rfl
  | case3 cs other ih =>
    have alone : (cs.flatMap String.utf8EncodeChar).head? ≠ some 10 := by
      cases cs with
      | nil => simp
      | cons c cs =>
        intro first
        cases bytes : String.utf8EncodeChar c with
        | nil => exact String.utf8EncodeChar_ne_nil bytes
        | cons b bs =>
          rw [List.flatMap_cons, bytes] at first
          obtain rfl : b = 10 := Option.some.inj first
          have here : (10 : UInt8) ∈ String.utf8EncodeChar c := bytes ▸ List.mem_cons_self
          obtain rfl : c = '\n' := eq_of_mem_utf8EncodeChar here (by decide) (by decide)
          exact other cs rfl
    simp only [List.flatMap_cons, feed, back, List.cons_append, List.nil_append, ← ih]
    exact unifyLines_return alone
  | case4 c cs _ other ih =>
    have clear : 13 ∉ String.utf8EncodeChar c := fun here =>
      other (eq_of_mem_utf8EncodeChar here (by decide) (by decide))
    rw [List.flatMap_cons, List.flatMap_cons, unifyLines_append clear, ih]

theorem toList_loop_eq (content : ByteArray) (i : Nat) (done : List UInt8) :
    ByteArray.toList.loop content i done = done.reverse ++ content.data.toList.drop i := by
  fun_induction ByteArray.toList.loop content i done with
  | case1 i done inside ih =>
    have bound : i < content.data.toList.length := by simpa using inside
    have byte : content.get! i = content.data.toList[i] :=
      (getElem!_pos content.data i inside).trans (Array.getElem_toList inside).symm
    rw [ih, List.drop_eq_getElem_cons bound, byte]
    simp
  | case2 i done outside =>
    have bound : content.data.toList.length ≤ i := by simpa using outside
    simp [List.drop_eq_nil_of_le bound]

theorem toList_eq_data (content : ByteArray) : content.toList = content.data.toList := by
  rw [ByteArray.toList, toList_loop_eq]
  simp

theorem fromUTF8?_utf8Encode (cs : List Char) :
    String.fromUTF8? cs.utf8Encode = some (.ofList cs) := by
  have valid : cs.utf8Encode.IsValidUTF8 := ⟨cs, rfl⟩
  rw [String.fromUTF8?, dif_pos valid]
  rfl

/-- The bytes that spell a text are those of its characters. -/
theorem toList_of_fromUTF8? {content : ByteArray} {text : String}
    (spelled : String.fromUTF8? content = some text) :
    content.toList = text.toList.flatMap String.utf8EncodeChar := by
  have bytes : text.toByteArray = content := by
    rw [String.fromUTF8?] at spelled
    split at spelled
    · cases spelled
      rfl
    · cases spelled
  rw [← bytes, ← String.utf8Encode_toList, List.utf8Encode, toList_eq_data,
    List.toList_data_toByteArray]

/-- The bytes say nothing about their encoding: there is no mark at their start, and no comment on
the first two lines declares one. -/
structure IsPlain (content : ByteArray) : Prop where
  unmarked : byteOrderMark.isPrefixOf content.toList = false
  undeclared : declaredEncoding?
    (Text.pieces (· == '\n') (latin1Text (unifyLines content.toList))) = none

/-- The text of a plain module is the one that is read from its file. -/
theorem decodeSource_of_plain {content : ByteArray} (plain : IsPlain content) {text : String}
    (spelled : decodeText content = .ok text) :
    decodeSource content.toList = .ok (Text.unifyNewlines text.toList) := by
  have bytes : String.fromUTF8? content = some text := by
    rw [decodeText] at spelled
    split at spelled
    · next s found =>
      cases spelled
      exact found
    · cases spelled
  have whole := toList_of_fromUTF8? bytes
  have decoded : decodeIn? "utf_8" (unifyLines content.toList) =
      some (Text.unifyNewlines text.toList) := by
    rw [whole, unifyLines_utf8]
    have array (cs : List Char) : (⟨(cs.flatMap String.utf8EncodeChar).toArray⟩ : ByteArray) =
        cs.utf8Encode := by
      rw [List.utf8Encode, ByteArray.ext_iff, List.data_toByteArray]
    have decoded : Text.Encoding.decode? "utf_8"
        ((Text.unifyNewlines text.toList).flatMap String.utf8EncodeChar) =
          some (Text.unifyNewlines text.toList) := by
      simp only [Text.Encoding.decode?, array, fromUTF8?_utf8Encode, Option.map_some,
        String.toList_ofList]
    exact decoded
  rw [decodeSource]
  simp only [plain.unmarked, Bool.false_eq_true, if_false, plain.undeclared, Option.bind_some,
    decoded, Text.unifyNewlines_of_clear (Text.not_mem_unifyNewlines _)]

/-- The bytes of a file from which statements are read spell a text. -/
theorem exists_decodeText_of_read {disk : Disk} {file : FilePath} {content : ByteArray}
    {body : List Statement} (found : disk.readBytes file = .ok content)
    (source : SourceTree.read disk file = .ok body) :
    ∃ text, decodeText content = .ok text ∧ parse (Text.unifyNewlines text.toList) = .ok body := by
  unfold SourceTree.read Disk.readText at source
  rw [found] at source
  cases spelled : decodeText content with
  | error cause => simp [spelled, bind, Except.bind, Except.map] at source
  | ok text =>
    refine ⟨text, rfl, ?_⟩
    simp only [spelled, Except.map, bind, Except.bind, Text.normalizeNewlines,
      String.toList_ofList] at source
    exact ok_of_mapError source

/-- A plain module that can run has the statements that are read from its file. -/
theorem of_compile {disk : Disk} {file : FilePath} {content : ByteArray}
    {body body' : List Statement} (found : disk.readBytes file = .ok content)
    (plain : IsPlain content) (source : SourceTree.read disk file = .ok body)
    (compiled : compile content.toList = .ok body') :
    body' = body ∧ Statement.isModule body = true := by
  obtain ⟨text, spelled, parsed⟩ := exists_decodeText_of_read found source
  rw [compile] at compiled
  split at compiled
  · cases compiled
  · rw [decodeSource_of_plain plain spelled] at compiled
    simp only [parsed, bind, Except.bind] at compiled
    split at compiled
    · next isModule =>
      cases compiled
      exact ⟨rfl, isModule⟩
    · cases compiled

end Module
end RouteDocs
