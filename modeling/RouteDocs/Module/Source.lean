import RouteDocs.Module.Statement.OfTokens
import RouteDocs.Module.Statement.Placed
import RouteDocs.Text.Cut
import RouteDocs.Text.Encoding
import RouteDocs.Text.Lines

namespace RouteDocs.Module

/-- The bytes of a mark at the start of a file that says it is UTF-8. -/
def byteOrderMark : List UInt8 := [0xEF, 0xBB, 0xBF]

/-- Whether a character can be part of the name of an encoding. -/
def isEncodingChar (c : Char) : Bool := c.isAlphanum || c == '-' || c == '_' || c == '.'

/-- The name that follows `coding:` or `coding=` in a comment, at its first place where a name
follows. -/
def encodingIn? : List Char → Option String
  | [] => none
  | c :: cs =>
    match (c :: cs).take 7 with
    | ['c', 'o', 'd', 'i', 'n', 'g', mark] =>
      let name := (((c :: cs).drop 7).dropWhile fun b => b == ' ' || b == '\t').takeWhile
        isEncodingChar
      if (mark = ':' ∨ mark = '=') ∧ ! name.isEmpty then some (.ofList name) else encodingIn? cs
    | _ => encodingIn? cs

def afterBlanks (line : List Char) : List Char :=
  line.dropWhile fun c => c == ' ' || c == '\t' || c.toNat == 12

/-- The encoding that a comment on one of the first two lines declares. The second line counts only
after a line that is a comment or blank. -/
def declaredEncoding? (lines : List (List Char)) : Option String :=
  match lines with
  | [] => none
  | first :: rest =>
    match afterBlanks first with
    | '#' :: comment =>
      match encodingIn? comment with
      | some name => some name
      | none => second rest
    | [] => second rest
    | _ => none
where
  /-- The encoding that a comment at the start of these lines declares. -/
  second : List (List Char) → Option String
    | line :: _ =>
      match afterBlanks line with
      | '#' :: comment => encodingIn? comment
      | _ => none
    | [] => none

/-- A name of an encoding in small letters with dashes, as far as it is compared with others. -/
def plainName (name : String) : String :=
  .ofList ((name.toList.take 12).map fun c => if c = '_' then '-' else c.toLower)

def isOf (name family : String) : Bool := name = family || (family ++ "-").isPrefixOf name

/-- The encoding that a declared name means. A few families of names go before all others. -/
def encodingOf? (name : String) : Option String :=
  let plain := plainName name
  if isOf plain "utf-8" then some "utf_8"
  else if ["latin-1", "iso-8859-1", "iso-latin-1"].any (isOf plain) then some "latin_1"
  else Text.Encoding.ofName? name

/-- The text that bytes spell, a character for each. -/
def latin1Text (content : List UInt8) : List Char := content.map fun b => .ofNat b.toNat

/-- Bytes in which every line ends with a line feed. -/
def unifyLines : List UInt8 → List UInt8
  | [] => []
  | 13 :: 10 :: bs => 10 :: unifyLines bs
  | 13 :: bs => 10 :: unifyLines bs
  | b :: bs => b :: unifyLines bs

/-- The characters that bytes spell in which escapes with a code stand for characters. `n` bounds
their number. -/
def unescapeCodes? : Nat → List Char → Option (List Char)
  | 0, cs => some cs
  | n + 1, cs =>
    match cs with
    | [] => some []
    | '\\' :: '\\' :: rest => (unescapeCodes? n rest).map ('\\' :: '\\' :: ·)
    | '\\' :: 'u' :: rest => do
      let (code, rest) ← hexCode? 4 0 rest
      return Text.ofCode code :: (← unescapeCodes? n rest)
    | '\\' :: 'U' :: rest => do
      let (code, rest) ← hexCode? 8 0 rest
      if code < 0x110000 then return Text.ofCode code :: (← unescapeCodes? n rest) else none
    | c :: rest => (unescapeCodes? n rest).map (c :: ·)

/-- Characters of which none is half of a pair. -/
def whole? (cs : List Char) : Option (List Char) :=
  if cs.any fun c => (Text.half? c).isSome then none else some cs

/-- The characters that bytes spell in an encoding. -/
def decodeIn? (encoding : String) (content : List UInt8) : Option (List Char) :=
  match encoding with
  | "unicode_escape" => (unescape? false (latin1Text content)).bind whole?
  | "raw_unicode_escape" =>
    (unescapeCodes? (content.length + 1) (latin1Text content)).bind whole?
  | _ => Text.Encoding.decode? encoding content

/-- The text that the bytes of a module spell: in the encoding that it declares, and otherwise in
UTF-8. A mark at the start allows no other. -/
def decodeSource (content : List UInt8) : Except Malformed (List Char) :=
  let isMarked := byteOrderMark.isPrefixOf content
  let content := unifyLines (if isMarked then content.drop 3 else content)
  let lines := Text.pieces (· == '\n') (latin1Text content)
  let encoding? := match declaredEncoding? lines with
    | none => some "utf_8"
    | some name =>
      if isMarked && ! isOf (plainName name) "utf-8" then none else encodingOf? name
  match encoding?.bind fun encoding => decodeIn? encoding content with
  | some cs => .ok (Text.unifyNewlines cs)
  | none => .error .wrong

/-- The statements of a module that is to run. -/
def compile (content : List UInt8) : Except Malformed (List Statement) := do
  if content.contains 0 then throw .nullCharacter
  else
    let body ← parse (← decodeSource content)
    if Statement.isModule body then return body else throw .wrong

end RouteDocs.Module
