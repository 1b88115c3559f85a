import RouteDocs.Text.Encoding.Japanese
import RouteDocs.Text.Encoding.Korean
import RouteDocs.Text.Encoding.Names
import RouteDocs.Text.Encoding.Simplified
import RouteDocs.Text.Encoding.Single
import RouteDocs.Text.Encoding.Traditional
import RouteDocs.Text.Blank

/-!
# Encodings of texts

* `Encoding.ofName?`: the encoding that a name means;
* `Encoding.decode?`: the characters that bytes spell in an encoding.

An encoding is known by the first name of its entry in `Encoding.names`.
-/

namespace RouteDocs.Text.Encoding

/-- A name with one `_` for all that stands between letters, digits and points. -/
def normalized (wasGap : Bool) : List Char → List Char
  | [] => []
  | c :: cs =>
    if c.isAlphanum || c == '.' then
      if wasGap then '_' :: c.toLower :: normalized false cs else c.toLower :: normalized false cs
    else normalized true cs

/-- A name as it is looked up. -/
def key (name : String) : String :=
  .ofList (normalized false (name.toList.dropWhile fun c => ! (c.isAlphanum || c == '.')))

def named? (name : String) : Option String :=
  (names.find? fun (_, all) => (Text.splitAt ' ' all).contains name).map Prod.fst

def ofName? (name : String) : Option String :=
  let name := key name
  match named? name with
  | some encoding => some encoding
  | none => named? (name.map fun c => if c = '.' then '_' else c)

def noCharacter : Char := '\ufffd'

/-- A character, unless it stands for none. -/
def present? (c : Option Char) : Option Char := c.filter (· ≠ noCharacter)

/-- The character in a place of rows. -/
def inRows? (rows : Array String) (row column : Nat) : Option Char :=
  present? ((rows[row]?).bind fun s => s.toList[column]?)

/-- The character of a place in a list of changes. -/
def changed? (changes : List (Nat × Nat × Char)) (row column : Nat) : Option Char :=
  (changes.find? fun (r, c, _) => r = row && c = column).map fun (_, _, x) => x

/-- The place of a byte in a square of 94 rows and columns. -/
def squarePlace? (b : UInt8) : Option Nat :=
  if 0xA1 ≤ b ∧ b ≤ 0xFE then some (b.toNat - 0xA1) else none

/-- The character of two bytes in a square of rows. -/
def inSquare? (rows : Array String) (b c : UInt8) : Option Char := do
  inRows? rows (← squarePlace? b) (← squarePlace? c)

/-- The row and column of two bytes that are laid out for three columns of single bytes. -/
def shiftedPlace? (b c : UInt8) : Option (Nat × Nat) :=
  let lead := if 0x81 ≤ b ∧ b ≤ 0x9F then some (b.toNat - 0x81)
    else if 0xE0 ≤ b ∧ b ≤ 0xFC then some (b.toNat - 0xC1) else none
  lead.bind fun half =>
    if 0x40 ≤ c ∧ c ≤ 0x7E then some (2 * half, c.toNat - 0x40)
    else if 0x80 ≤ c ∧ c ≤ 0x9E then some (2 * half, c.toNat - 0x41)
    else if 0x9F ≤ c ∧ c ≤ 0xFC then some (2 * half + 1, c.toNat - 0x9F)
    else none

/-- The character of two shifted bytes, in the national standard. -/
def shifted? (b c : UInt8) : Option Char := do
  let (row, column) ← shiftedPlace? b c
  inRows? kanji row column

/-- The character of two shifted bytes, in the extension. -/
def vendor? (b c : UInt8) : Option Char := do
  let (row, column) ← shiftedPlace? b c
  match vendorRows.lookup row with
  | some s => present? s.toList[column]?
  | none =>
    if 94 ≤ row ∧ row < 114 then some (.ofNat (0xE000 + (row - 94) * 94 + column))
    else
      let x ← inRows? kanji row column
      some ((vendorChanges.lookup x).getD x)

/-- The characters in a range of codes that are not in rows. -/
def missingFrom (rows : Array String) (first last : Nat) : List Char :=
  let present := (rows.toList.flatMap String.toList).toArray.qsort (· < ·)
  ((List.range (last + 1 - first)).map fun (i : Nat) => Char.ofNat (first + i)).filter fun c =>
    ! (present.binSearchContains c (· < ·))

/-- The column of a byte among those after the first byte of an extension that starts again with each
row. -/
def letterColumn? (c : UInt8) : Option Nat :=
  if 0x41 ≤ c ∧ c ≤ 0x5A then some (c.toNat - 0x41)
  else if 0x61 ≤ c ∧ c ≤ 0x7A then some (c.toNat - 0x61 + 26)
  else if 0x81 ≤ c ∧ c ≤ 0xFE then some (c.toNat - 0x81 + 52)
  else none

/-- The Korean character of two bytes outside the square: all other syllables in their order, in rows
of 178 and, beside the square, of 84. -/
def laterHangul? (b c : UInt8) : Option Char := do
  let column ← letterColumn? c
  if b < 0x81 then none
  else
    let row := b.toNat - 0x81
    let place ← if row < 32 then some (row * 178 + column)
      else if column < 84 then some (32 * 178 + (row - 32) * 84 + column)
      else none
    (missingFrom hangul 0xAC00 0xD7A3)[place]?

/-- The column of a byte in the rows of the Chinese extension. -/
def wideColumn? (c : UInt8) : Option Nat :=
  if 0x40 ≤ c ∧ c ≤ 0x7E then some (c.toNat - 0x40)
  else if 0x80 ≤ c ∧ c ≤ 0xFE then some (c.toNat - 0x41)
  else none

/-- The number of columns in a row of the Chinese extension, and in one beside the square. -/
def wideRow : Nat × Nat := (190, 96)

/-- The Chinese character in a place of the extension. -/
def laterHanzi? (place : Nat) : Option Char :=
  let all := missingFrom hanzi 0x4E00 0x9FA5
  match all[place]? with
  | some c => some c
  | none => lateHanzi.toList[place - all.length]?

/-- The Chinese character of two bytes, in the extension. -/
def wide? (b c : UInt8) : Option Char := do
  let column ← wideColumn? c
  let lead := b.toNat
  if lead < 0x81 ∨ 0xFE < lead then none
  else if lead < 0xA1 then laterHanzi? ((lead - 0x81) * wideRow.1 + column)
  else if wideRow.2 ≤ column then
    match changed? addedSigns (lead - 0xA1) (column - wideRow.2) with
    | some x => some x
    | none => inSquare? hanzi b c
  else if lead < 0xA8 then none
  else if lead < 0xAA then inRows? addedRows (lead - 0xA8) column
  else laterHanzi? (32 * wideRow.1 + (lead - 0xAA) * wideRow.2 + column)

/-- The row and column of two bytes in the traditional layout. -/
def traditionalPlace? (b c : UInt8) : Option (Nat × Nat) :=
  let column := if 0x40 ≤ c ∧ c ≤ 0x7E then some (c.toNat - 0x40)
    else if 0xA1 ≤ c ∧ c ≤ 0xFE then some (c.toNat - 0xA1 + 63) else none
  if 0xA1 ≤ b then column.map fun column => (b.toNat - 0xA1, column) else none

/-- The traditional character of two bytes. -/
def traditional? (isExtended : Bool) (b c : UInt8) : Option Char := do
  let (row, column) ← traditionalPlace? b c
  match if isExtended then changed? traditionalChanges row column else none with
  | some x => some x
  | none => inRows? traditional row column

/-- A character of the first bytes, and the bytes after it. -/
abbrev Step := List UInt8 → Option (Char × List UInt8)

/-- The characters that steps read, of which there are no more than `n`. -/
def readAll (step : Step) : Nat → List UInt8 → Option (List Char)
  | 0, bytes => if bytes.isEmpty then some [] else none
  | n + 1, bytes =>
    if bytes.isEmpty then some []
    else do
      let (c, rest) ← step bytes
      return c :: (← readAll step n rest)

/-- A step that reads one byte below 0x80, and otherwise one or two. -/
def stepOf (single? : UInt8 → Option Char) (double? : UInt8 → UInt8 → Option Char) : Step
  | [] => none
  | b :: rest =>
    if b < 0x80 then some (.ofNat b.toNat, rest)
    else
      match single? b, rest with
      | some c, rest => some (c, rest)
      | none, c :: rest => (double? b c).map fun x => (x, rest)
      | none, [] => none

/-- The half-width letters of a byte. -/
def halfWidth? (b : UInt8) : Option Char :=
  if 0xA1 ≤ b ∧ b ≤ 0xDF then some (.ofNat (0xFF61 + (b.toNat - 0xA1))) else none

/-- The character of one byte in the extension of the Japanese standard. -/
def vendorSingle? (b : UInt8) : Option Char :=
  if b = 0x80 then some (.ofNat 0x80)
  else if b = 0xA0 then some (.ofNat 0xF8F0)
  else if 0xFD ≤ b then some (.ofNat (0xF8F1 + (b.toNat - 0xFD)))
  else halfWidth? b

/-- The character of two bytes in the layout of the square, or a half-width letter after its mark. -/
def marked? (b c : UInt8) : Option Char := if b = 0x8E then halfWidth? c else inSquare? kanji b c

/-- The steps of the encodings that read one or two bytes. -/
def step? (encoding : String) : Option Step :=
  let none? : UInt8 → Option Char := fun _ => none
  match encoding with
  | "ascii" => some (stepOf none? fun _ _ => none)
  | "latin_1" => some (stepOf (fun b => some (.ofNat b.toNat)) fun _ _ => none)
  | "shift_jis" => some (stepOf halfWidth? shifted?)
  | "cp932" => some (stepOf vendorSingle? vendor?)
  | "euc_jp" => some (stepOf none? marked?)
  | "euc_kr" => some (stepOf none? (inSquare? hangul))
  | "cp949" => some (stepOf none? fun b c => inSquare? hangul b c <|> laterHangul? b c)
  | "gb2312" => some (stepOf none? (inSquare? hanzi))
  | "gbk" => some (stepOf none? wide?)
  | "big5" => some (stepOf none? (traditional? false))
  | "cp950" => some (stepOf none? (traditional? true))
  | _ => (upperHalves.lookup encoding).map fun upper =>
    let all := upper.toList.toArray
    stepOf (fun b => present? all[b.toNat - 0x80]?) fun _ _ => none

/-- The value of a letter that stands for six bits. -/
def sixBits? (b : UInt8) : Option Nat :=
  let n := b.toNat
  if 65 ≤ n ∧ n ≤ 90 then some (n - 65)
  else if 97 ≤ n ∧ n ≤ 122 then some (n - 71)
  else if 48 ≤ n ∧ n ≤ 57 then some (n + 4)
  else if n = 43 then some 62
  else if n = 47 then some 63
  else none

/-- The characters of units of 16 bits. -/
def ofUnits : List Nat → Option (List Char)
  | [] => some []
  | u :: us =>
    if 0xD800 ≤ u ∧ u < 0xDC00 then
      match us with
      | v :: us =>
        if 0xDC00 ≤ v ∧ v < 0xE000 then
          (ofUnits us).map fun cs => .ofNat (0x10000 + (u - 0xD800) * 0x400 + (v - 0xDC00)) :: cs
        else none
      | [] => none
    else if 0xDC00 ≤ u ∧ u < 0xE000 then none
    else (ofUnits us).map fun cs => .ofNat u :: cs

/-- The characters that letters stand for that spell six bits each. What is left over is no unit, and
its bits are zero. -/
def ofSixBits (digits : List Nat) : Option (List Char) :=
  let total := digits.foldl (fun n d => n * 64 + d) 0
  let bits := 6 * digits.length
  let left := bits % 16
  if 6 ≤ left ∨ total % Nat.pow 2 left ≠ 0 then none
  else
    ofUnits ((List.range (bits / 16)).map fun i =>
      total / Nat.pow 2 (bits - 16 * (i + 1)) % 0x10000)

/-- The characters of bytes in which a plus opens a series of letters for six bits each. `n` bounds
their number. -/
def sevenBits : Nat → List UInt8 → Option (List Char)
  | 0, bytes => if bytes.isEmpty then some [] else none
  | n + 1, bytes =>
    match bytes with
    | [] => some []
    | b :: rest =>
      if b = 43 then
        match rest with
        | 45 :: rest => (sevenBits n rest).map ('+' :: ·)
        | _ =>
          let digits := rest.takeWhile fun b => (sixBits? b).isSome
          let after := rest.drop digits.length
          let after := if after.head? = some 45 then after.drop 1 else after
          if digits.isEmpty then none
          else do
            let cs ← ofSixBits (digits.filterMap sixBits?)
            return cs ++ (← sevenBits n after)
      else if b < 0x80 then (sevenBits n rest).map (.ofNat b.toNat :: ·)
      else none

/-- The characters of bytes among which marks switch between single bytes and pairs of them. `isPair`
says that pairs come next. A byte that opens marks is written twice, and control characters stand among
pairs where there is no such byte. `n` bounds their number. -/
def switched (marks : List (List UInt8 × Bool)) (opening : Option UInt8)
    (double? : UInt8 → UInt8 → Option Char) : Nat → Bool → List UInt8 → Option (List Char)
  | 0, _, bytes => if bytes.isEmpty then some [] else none
  | n + 1, isPair, bytes =>
    match marks.find? fun (mark, _) => mark.isPrefixOf bytes with
    | some (mark, next) => switched marks opening double? n next (bytes.drop mark.length)
    | none =>
      match bytes with
      | [] => some []
      | b :: rest =>
        let single (rest : List UInt8) : Option (List Char) :=
          (switched marks opening double? n isPair rest).map (.ofNat b.toNat :: ·)
        if 0x80 ≤ b then none
        else if opening = some b then
          if rest.head? = some b then single (rest.drop 1) else none
        else if ! isPair || (b < 0x20 && opening.isNone) then single rest
        else
          match rest with
          | c :: rest => do
            let x ← double? (b + 0x80) (c + 0x80)
            return x :: (← switched marks opening double? n isPair rest)
          | [] => none

/-- The marks of the Japanese encoding with states. -/
def japaneseMarks : List (List UInt8 × Bool) :=
  [([27, 36, 66], true), ([27, 36, 64], true), ([27, 40, 66], false), ([27, 40, 74], false)]

/-- The marks of the Chinese encoding with states. -/
def chineseMarks : List (List UInt8 × Bool) :=
  [([126, 123], true), ([126, 125], false), ([126, 10], false)]

/-- The characters that bytes spell in an encoding. -/
def decode? (encoding : String) (bytes : List UInt8) : Option (List Char) :=
  match encoding with
  | "utf_8" => (String.fromUTF8? ⟨bytes.toArray⟩).map String.toList
  | "utf_7" => sevenBits (bytes.length + 1) bytes
  | "iso2022_jp" => switched japaneseMarks none (inSquare? kanji) (bytes.length + 1) false bytes
  | "hz" => switched chineseMarks (some 126) (inSquare? hanzi) (bytes.length + 1) false bytes
  | _ => (step? encoding).bind fun step => readAll step (bytes.length + 1) bytes

end RouteDocs.Text.Encoding
