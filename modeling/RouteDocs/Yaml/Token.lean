import RouteDocs.Yaml.Failure

namespace RouteDocs.Yaml

/-- A token. The end of the list of tokens is the end of the text; `fault` stands where the text
cannot be cut any further. -/
inductive Token where
  | versionDirective (major : Nat)
  | tagDirective (handle lead : String)
  | otherDirective
  | documentStart
  | documentEnd
  | blockSequenceStart
  | blockMappingStart
  | blockEnd
  | flowSequenceStart
  | flowSequenceEnd
  | flowMappingStart
  | flowMappingEnd
  | blockEntry
  | flowEntry
  | key
  | value
  | alias (name : String)
  | anchor (name : String)
  | tag (handle : Option String) (suffix : String)
  | scalar (text : String) (isPlain : Bool)
  | fault (cause : Failure)
  deriving DecidableEq, Repr, Inhabited

/-- A character that ends a line of a document. -/
def isBreak (c : Char) : Bool :=
  c == '\n' || c == '\r' || c.toNat == 0x85 || c.toNat == 0x2028 || c.toNat == 0x2029

/-- Whether there is no character, or a blank, tab or line end. -/
def endsWord : Option Char → Bool
  | none => true
  | some c => c == ' ' || c == '\t' || isBreak c

/-- Whether there is no character, or a blank or line end. -/
def endsWordNoTab : Option Char → Bool
  | none => true
  | some c => c == ' ' || isBreak c

/-- Whether there is no character, or a line end. -/
def endsLine : Option Char → Bool
  | none => true
  | some c => isBreak c

/-- A position in a text: the characters to come, how many have gone, and line and column. -/
structure Cursor where
  rest : List Char
  index : Nat
  line : Nat
  column : Nat

namespace Cursor

def start (cs : List Char) : Cursor := ⟨cs, 0, 0, 0⟩

def peek (c : Cursor) : Option Char := c.rest.head?

/-- The character `n` places after the next one. -/
def peekAt (c : Cursor) (n : Nat) : Option Char := c.rest[n]?

/-- The position one character on. A carriage return before a line feed does not end the line by
itself, and a byte order mark takes no column. -/
def next (c : Cursor) : Cursor :=
  match c.rest with
  | [] => c
  | ch :: rest =>
    let isEnd := if ch = '\r' then rest.head? ≠ some '\n' else isBreak ch
    if isEnd then ⟨rest, c.index + 1, c.line + 1, 0⟩
    else ⟨rest, c.index + 1, c.line, if ch.toNat = 0xFEFF then c.column else c.column + 1⟩

def advance (c : Cursor) : Nat → Cursor
  | 0 => c
  | n + 1 => (c.next).advance n

/-- The characters that `p` accepts from here on, and the position after them. -/
def takeWhile (p : Char → Bool) (c : Cursor) : List Char × Cursor :=
  let cs := c.rest.takeWhile p
  (cs, c.advance cs.length)

def skipWhile (p : Char → Bool) (c : Cursor) : Cursor := (c.takeWhile p).2

def skipBlanks (c : Cursor) : Cursor := c.skipWhile (· == ' ')

def skipComment (c : Cursor) : Cursor :=
  if c.peek = some '#' then c.skipWhile (! isBreak ·) else c

/-- The line end here as it counts in a text, and the position after it. A line feed stands for
every end but the line and paragraph separators. -/
def lineBreak (c : Cursor) : List Char × Cursor :=
  match c.rest with
  | '\r' :: '\n' :: _ => (['\n'], c.advance 2)
  | ch :: _ =>
    if ch = '\n' ∨ ch = '\r' ∨ ch.toNat = 0x85 then (['\n'], c.next)
    else if isBreak ch then ([ch], c.next)
    else ([], c)
  | [] => ([], c)

/-- Whether one of the marks `---` and `...` stands here, as a word of its own. -/
def atDocumentMark (c : Cursor) : Bool :=
  (c.rest.take 3 == ['-', '-', '-'] || c.rest.take 3 == ['.', '.', '.']) && endsWord (c.peekAt 3)

end Cursor
end RouteDocs.Yaml
