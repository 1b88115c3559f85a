import RouteDocs.Text.Half
import RouteDocs.Yaml.Scalar
import RouteDocs.Yaml.Token

namespace RouteDocs.Yaml

/-- The ways to write a text. -/
inductive ScalarStyle where
  | plain
  | single
  | double
  deriving DecidableEq, Repr

namespace Writer

/-- A character that a text can hold outside double quotes. -/
def isOrdinary (c : Char) : Bool :=
  let n := Text.codeOf c
  (0x20 ≤ n && n ≤ 0x7E) || (0xA0 ≤ n && n ≤ 0xD7FF && n != 0x2028 && n != 0x2029) ||
    (0xE000 ≤ n && n ≤ 0xFFFD && n != 0xFEFF) || (0x10000 ≤ n && n < 0x10FFFF)

/-- Whether an indicator stands inside a text: a colon before the end of a word, or a number sign
after a blank. -/
def hasInnerIndicator : List Char → Bool
  | c :: d :: rest =>
    (d == ':' && endsWord rest.head?) || (d == '#' && endsWord (some c)) ||
      hasInnerIndicator (d :: rest)
  | _ => false

/-- Whether an indicator starts a text. -/
def hasLeadingIndicator : List Char → Bool
  | c :: rest =>
    "#,[]\x7b\x7d&*!|>\x27\"%@\x60".toList.contains c ||
      ((c == '?' || c == ':' || c == '-') && endsWord rest.head?)
  | [] => false

/-- Whether a text starts with the three characters of a document mark. -/
def hasMark (cs : List Char) : Bool :=
  cs.take 3 == ['-', '-', '-'] || cs.take 3 == ['.', '.', '.']

/-- A text stands alone if it then reads as that text: it begins and ends without a blank, holds
no indicator where one counts, and is not spelled like another kind of scalar. Double quotes are
for the characters that only an escape can show. -/
def styleOf (s : String) : ScalarStyle :=
  let cs := s.toList
  if ! cs.all isOrdinary then .double
  else if Tag.ofPlain s = .text && cs.head? != some ' ' && cs.getLast? != some ' ' &&
      ! hasMark cs && ! hasLeadingIndicator cs && ! hasInnerIndicator cs then .plain
  else .single

/-- The column that a line is folded after. -/
def width : Nat := 80

def indentation : List Char := [' ', ' ']

/-- The column after each character is written. -/
def columnAfter (column : Nat) (cs : List Char) : Nat := column + cs.length

/-- A text outside quotes, from a column on: a single blank beyond the width becomes a line end.
`blanks` is the number of blanks since the last other character. -/
def plainText (column : Nat) (blanks : Nat) : List Char → List Char
  | [] => List.replicate blanks ' '
  | c :: cs =>
    if c = ' ' then plainText column (blanks + 1) cs
    else if blanks = 1 ∧ column > width then
      '\n' :: indentation ++ c :: plainText (indentation.length + 1) 0 cs
    else List.replicate blanks ' ' ++ c :: plainText (column + blanks + 1) 0 cs

/-- A text inside single quotes, where a quote is written twice. The blanks at its two ends stay;
`started` says whether there was another character before. -/
def singleText (column : Nat) (blanks : Nat) (started : Bool) : List Char → List Char
  | [] => List.replicate blanks ' '
  | c :: cs =>
    if c = ' ' then singleText column (blanks + 1) started cs
    else
      let shown := if c = '\x27' then ['\x27', '\x27'] else [c]
      if started && blanks == 1 && width < column then
        '\n' :: indentation ++ shown ++
          singleText (columnAfter indentation.length shown) 0 true cs
      else
        List.replicate blanks ' ' ++ shown ++
          singleText (columnAfter (column + blanks) shown) 0 true cs

/-- The last `n` hexadecimal digits of a number, in capitals. -/
def capitalHex (code : Nat) : Nat → List Char
  | 0 => []
  | n + 1 => capitalHex (code / 16) n ++ [(Nat.digitChar (code % 16)).toUpper]

/-- The escape of a character inside double quotes, if it needs one. -/
def escape? (c : Char) : Option (List Char) :=
  let n := Text.codeOf c
  if c = '"' ∨ c = '\\' then some ['\\', c]
  else if (0x20 ≤ n ∧ n ≤ 0x7E) ∨ (0xA0 ≤ n ∧ n ≤ 0xD7FF ∧ n ≠ 0x2028 ∧ n ≠ 0x2029) ∨
      (0xE000 ≤ n ∧ n ≤ 0xFFFD ∧ n ≠ 0xFEFF) then none
  else
    let letter? : Option Char := match n with
      | 0 => some '0'
      | 7 => some 'a'
      | 8 => some 'b'
      | 9 => some 't'
      | 10 => some 'n'
      | 11 => some 'v'
      | 12 => some 'f'
      | 13 => some 'r'
      | 0x1B => some 'e'
      | 0x85 => some 'N'
      | 0x2028 => some 'L'
      | 0x2029 => some 'P'
      | _ => none
    match letter? with
    | some letter => some ['\\', letter]
    | none =>
      if n < 0x100 then some ('\\' :: 'x' :: capitalHex n 2)
      else if n < 0x10000 then some ('\\' :: 'u' :: capitalHex n 4)
      else some ('\\' :: 'U' :: capitalHex n 8)

/-- A text inside double quotes. `column` is where the line stands without `pending`, the
characters (last first) that are not written yet. Beyond the width a line is broken by a backslash
before a blank, after an escape, or where nothing is pending; never before the first character or
after the last but one. -/
def doubleText (column : Nat) (pending : List Char) (isFirst : Bool) : List Char → List Char
  | [] => pending.reverse
  | c :: cs =>
    let canFold := ! isFirst && ! cs.isEmpty
    match escape? c with
    | some shown =>
      let column := column + pending.length + shown.length
      let here := pending.reverse ++ shown
      if canFold && width < column - 1 then
        let joint := '\\' :: '\n' :: indentation ++ (if cs.head? = some ' ' then ['\\'] else [])
        here ++ joint ++
          doubleText (indentation.length + (if cs.head? = some ' ' then 1 else 0)) [] false cs
      else here ++ doubleText column [] false cs
    | none =>
      if canFold && (c == ' ' || pending.isEmpty) && width < column + pending.length then
        let mark := if c = ' ' then ['\\'] else []
        pending.reverse ++ '\\' :: '\n' :: indentation ++ mark ++
          doubleText (indentation.length + mark.length) [c] false cs
      else doubleText column (c :: pending) false cs

/-- A text after the column where its key or hyphen ends, with a blank before it. -/
def scalar (column : Nat) (s : String) : List Char :=
  let cs := s.toList
  match styleOf s with
  | .plain => ' ' :: plainText (column + 1) 0 cs
  | .single => ' ' :: '\x27' :: (singleText (column + 2) 0 false cs ++ ['\x27'])
  | .double => ' ' :: '"' :: (doubleText (column + 2) [] true cs ++ ['"'])

/-- An entry of a mapping with a text, or null when there is none. -/
def textEntry (key : String) (text : Option String) : List Char :=
  key.toList ++ ':' ::
    (match text with
      | some s => scalar (key.length + 1) s
      | none => [' ', 'n', 'u', 'l', 'l']) ++ ['\n']

/-- An entry of a mapping with a list of texts, one to a line. -/
def listEntry (key : String) (texts : List String) : List Char :=
  key.toList ++ ':' ::
    (if texts.isEmpty then [' ', '[', ']', '\n']
     else '\n' :: texts.flatMap fun s => '-' :: (scalar 1 s ++ ['\n']))

end Writer
end RouteDocs.Yaml
