import RouteDocs.Text.Cut
import RouteDocs.Yaml.Token.Scalar

/-!
# Cutting a text into tokens

* `Scan`: the tokens so far, the open indentations and brackets, and the places where a key may
  have begun;
* `Scan.step`: takes the next token;
* `tokens`: all tokens of a text.

A key of a mapping is known only by the colon after it, so the place where it began is remembered
and the token for the key is put there later. Such a place lapses at the end of its line and after
1024 characters.
-/

namespace RouteDocs.Yaml

/-- A place where a key may have begun: the number of tokens before it, and whether a colon must
follow because nothing but a key can stand there. -/
structure KeyPlace where
  tokensBefore : Nat
  required : Bool
  index : Nat
  line : Nat
  column : Nat

/-- The state of the cutting. `keys` holds the places of keys, at most one for each depth of
brackets. -/
structure Scan where
  cursor : Cursor
  tokens : Array Token
  depth : Nat
  indent : Int
  outer : List Int
  keyAllowed : Bool
  keys : List (Nat × KeyPlace)

namespace Scan

def start (cs : List Char) : Scan := ⟨.start cs, #[], 0, -1, [], true, []⟩

def push (s : Scan) (t : Token) : Scan := { s with tokens := s.tokens.push t }

def insertAt (s : Scan) (place : Nat) (t : Token) : Scan :=
  { s with tokens := s.tokens.insertIdxIfInBounds place t }

/-- Forgets the places of keys that have lapsed. -/
def dropLapsed (s : Scan) : Except Failure Scan :=
  let lapsed (k : KeyPlace) : Bool := k.line != s.cursor.line || s.cursor.index - k.index > 1024
  if s.keys.any fun (_, k) => lapsed k && k.required then malformed
  else .ok { s with keys := s.keys.filter fun (_, k) => ! lapsed k }

def dropKey (s : Scan) : Except Failure Scan :=
  if s.keys.any fun (depth, k) => depth == s.depth && k.required then malformed
  else .ok { s with keys := s.keys.filter fun (depth, _) => depth != s.depth }

/-- Remembers that a key may begin here. -/
def saveKey (s : Scan) : Except Failure Scan := do
  if s.keyAllowed then
    let s ← s.dropKey
    let place : KeyPlace :=
      ⟨s.tokens.size, s.depth == 0 && s.indent == s.cursor.column, s.cursor.index, s.cursor.line,
        s.cursor.column⟩
    return { s with keys := (s.depth, place) :: s.keys }
  else return s

/-- Closes the indentations deeper than `column`. -/
def closeIndents (column : Int) : List Int → Int → Array Token → Array Token × Int × List Int
  | [], indent, tokens => (tokens, indent, [])
  | parent :: outer, indent, tokens =>
    if column < indent then closeIndents column outer parent (tokens.push .blockEnd)
    else (tokens, indent, parent :: outer)

/-- Closes the blocks that a token in this column does not belong to. -/
def unwind (s : Scan) (column : Int) : Scan :=
  if s.depth ≠ 0 then s
  else
    let (tokens, indent, outer) := closeIndents column s.outer s.indent s.tokens
    { s with tokens, indent, outer }

/-- Opens an indentation if `column` is deeper than the present one; says whether it did. -/
def addIndent (s : Scan) (column : Nat) : Bool × Scan :=
  if s.indent < column then (true, { s with outer := s.indent :: s.outer, indent := column })
  else (false, s)

/-- Adds a token that takes `n` characters. -/
def take (s : Scan) (n : Nat) (t : Token) : Scan :=
  { (s.push t) with cursor := s.cursor.advance n }

/-- Goes on to the next token over blanks, comments and line ends. A byte order mark may start the
text. `n` bounds the number of lines. -/
def skipToToken : Nat → Scan → Scan
  | 0, s => s
  | n + 1, s =>
    let c := s.cursor
    let c := if c.index = 0 ∧ c.peek = some (.ofNat 0xFEFF) then c.next else c
    let c := c.skipBlanks.skipComment
    let (mark, after) := c.lineBreak
    if mark.isEmpty then { s with cursor := c }
    else skipToToken n { s with cursor := after, keyAllowed := s.depth == 0 || s.keyAllowed }

/-- A letter of a directive's or anchor's name. -/
def isNameChar (c : Char) : Bool := c.isAlphanum || c == '-' || c == '_'

/-- A character of a tag, apart from its percent escapes. -/
def isTagChar (c : Char) : Bool :=
  c.isAlphanum || "-;/?:@&=+$,_.!~*\x27()[]".toList.contains c

/-- The bytes of consecutive percent escapes. -/
def percentBytes : Nat → Cursor → Except Failure (List UInt8 × Cursor)
  | 0, c => .ok ([], c)
  | n + 1, c => do
    if c.peek = some '%' then
      let code ← readCode 2 c.next
      let (bytes, left) ← percentBytes n (c.advance 3)
      return (.ofNat code :: bytes, left)
    else return ([], c)

/-- The characters of a tag, percent escapes undone. -/
def tagUriFrom : Nat → Cursor → Read
  | 0, c => .ok ([], c)
  | n + 1, c => do
    match c.peek with
    | some '%' =>
      let (bytes, after) ← percentBytes (c.rest.length + 1) c
      match String.fromUTF8? ⟨bytes.toArray⟩ with
      | some s =>
        let (more, left) ← tagUriFrom n after
        return (s.toList ++ more, left)
      | none => malformed
    | some ch =>
      if isTagChar ch then
        let (more, left) ← tagUriFrom n c.next
        return (ch :: more, left)
      else return ([], c)
    | none => return ([], c)

/-- The characters of a tag, at least one. -/
def tagUri (c : Cursor) : Except Failure (String × Cursor) := do
  let (cs, after) ← tagUriFrom (c.rest.length + 1) c
  if after.index = c.index then malformed else return (.ofList cs, after)

/-- The handle of a tag: an exclamation mark, or two with a name or nothing between them. -/
def tagHandle (c : Cursor) : Except Failure (String × Cursor) := do
  if c.peek ≠ some '!' then malformed
  else
    let (name, after) := c.next.takeWhile isNameChar
    if after.peek = some '!' then return (.ofList ('!' :: (name ++ ['!'])), after.next)
    else if name.isEmpty && after.peek == some ' ' then return ("!", after)
    else malformed

def directiveNumber (c : Cursor) : Except Failure (Nat × Cursor) := do
  let (digits, after) := c.takeWhile Char.isDigit
  if digits.isEmpty then malformed else return (natOfDigits digits, after)

/-- A directive: the version, a tag handle, or one that is passed over. -/
def directive (s : Scan) : Except Failure Scan := do
  let (name, c) := s.cursor.next.takeWhile isNameChar
  if name.isEmpty || ! endsWordNoTab c.peek then malformed
  else
    let (token, c) ←
      if name = "YAML".toList then do
        let (major, c) ← directiveNumber c.skipBlanks
        if c.peek ≠ some '.' then malformed
        else
          let (_, c) ← directiveNumber c.next
          if endsWordNoTab c.peek then pure (Token.versionDirective major, c) else malformed
      else if name = "TAG".toList then do
        let (handle, c) ← tagHandle c.skipBlanks
        if c.peek ≠ some ' ' then malformed
        else
          let (lead, c) ← tagUri c.skipBlanks
          if endsWordNoTab c.peek then pure (Token.tagDirective handle lead, c) else malformed
      else pure (Token.otherDirective, c.skipWhile (! isBreak ·))
    let c := c.skipBlanks.skipComment
    if endsLine c.peek then return { (s.push token) with cursor := c.lineBreak.2 } else malformed

/-- The name after `*` or `&`. -/
def anchorName (c : Cursor) : Except Failure (String × Cursor) := do
  let (name, after) := c.next.takeWhile isNameChar
  let ended := endsWord after.peek ||
    ['?', ':', ',', ']', '}', '%', '@', '\x60'].any (some · == after.peek)
  if name.isEmpty || ! ended then malformed else return (.ofList name, after)

/-- Whether an exclamation mark stands between here and the end of the word. -/
def hasHandle (cs : List Char) : Bool :=
  (cs.takeWhile fun ch => ! endsWordNoTab (some ch)).contains '!'

/-- A tag: verbatim between angle brackets, alone, or with a handle. -/
def tagToken (c : Cursor) : Except Failure (Token × Cursor) := do
  let (token, after) ←
    if c.peekAt 1 = some '<' then do
      let (suffix, after) ← tagUri (c.advance 2)
      if after.peek = some '>' then pure (Token.tag none suffix, after.next) else malformed
    else if endsWord (c.peekAt 1) then pure (Token.tag none "!", c.next)
    else do
      let (handle, start) ← if hasHandle c.next.rest then tagHandle c else pure ("!", c.next)
      let (suffix, after) ← tagUri start
      pure (Token.tag (some handle) suffix, after)
  if endsWordNoTab after.peek then return (token, after) else malformed

/-- A directive, document mark or the end: what closes all blocks before it. -/
def atMargin (s : Scan) : Except Failure Scan := do
  let s ← (s.unwind (-1)).dropKey
  return { s with keyAllowed := false }

def openFlow (s : Scan) (t : Token) : Except Failure Scan := do
  let s ← s.saveKey
  return { s.take 1 t with depth := s.depth + 1, keyAllowed := true }

def closeFlow (s : Scan) (t : Token) : Except Failure Scan := do
  let s ← s.dropKey
  return { s.take 1 t with depth := s.depth - 1, keyAllowed := false }

/-- A hyphen before an item of a block sequence. -/
def blockEntry (s : Scan) : Except Failure Scan := do
  let s ←
    if s.depth = 0 then
      if s.keyAllowed then
        let (opened, s) := s.addIndent s.cursor.column
        pure (if opened then s.push .blockSequenceStart else s)
      else malformed
    else pure s
  let s ← { s with keyAllowed := true }.dropKey
  return s.take 1 .blockEntry

/-- A question mark before a key. -/
def keyMark (s : Scan) : Except Failure Scan := do
  let s ←
    if s.depth = 0 then
      if s.keyAllowed then
        let (opened, s) := s.addIndent s.cursor.column
        pure (if opened then s.push .blockMappingStart else s)
      else malformed
    else pure s
  let s ← { s with keyAllowed := s.depth == 0 }.dropKey
  return s.take 1 .key

/-- A colon before a value. If a key began at a remembered place, its token is put there now. -/
def valueMark (s : Scan) : Except Failure Scan := do
  let s ← match s.keys.lookup s.depth with
    | some place =>
      let s := { s with keys := s.keys.filter fun (depth, _) => depth != s.depth }
      let s := s.insertAt place.tokensBefore .key
      let (opened, s) := if s.depth = 0 then s.addIndent place.column else (false, s)
      let s := if opened then s.insertAt place.tokensBefore .blockMappingStart else s
      pure { s with keyAllowed := false }
    | none =>
      if s.depth = 0 ∧ ! s.keyAllowed then malformed
      else
        let (opened, s) := if s.depth = 0 then s.addIndent s.cursor.column else (false, s)
        let s := if opened then s.push .blockMappingStart else s
        { s with keyAllowed := s.depth == 0 }.dropKey
  return s.take 1 .value

/-- A scalar, alias, anchor or tag, which may begin a key. -/
def word (s : Scan) (read : Scan → Except Failure (Token × Bool × Cursor)) :
    Except Failure Scan := do
  let s ← s.saveKey
  let (token, keyAllowed, cursor) ← read s
  return { (s.push token) with cursor, keyAllowed }

/-- Whether a plain scalar can begin with `ch` before `following`. -/
def beginsPlain (inFlow : Bool) (ch : Char) (following : Option Char) : Bool :=
  let special := ch == ' ' || ch == '\t' || isBreak ch ||
    "-?:,[]\x7b\x7d#&*!|>\x27\"%@\x60".toList.contains ch
  ! special || (! endsWord following && (ch == '-' || (! inFlow && (ch == '?' || ch == ':'))))

/-- Takes the token that begins here; at the end of the text, gives all tokens. -/
def step (s : Scan) : Except Failure (Array Token ⊕ Scan) := do
  let s ← (skipToToken (s.cursor.rest.length + 1) s).dropLapsed
  let s := s.unwind s.cursor.column
  let c := s.cursor
  match c.peek with
  | none => return .inl (← s.atMargin).tokens
  | some ch =>
    let inFlow := s.depth != 0
    let following := c.peekAt 1
    let markEnds := endsWord following
    if ch = '%' ∧ c.column = 0 then return .inr (← directive (← s.atMargin))
    else if c.column = 0 ∧ c.atDocumentMark then
      let s ← s.atMargin
      return .inr (s.take 3 (if ch = '-' then .documentStart else .documentEnd))
    else if ch = '[' then return .inr (← s.openFlow .flowSequenceStart)
    else if ch = '{' then return .inr (← s.openFlow .flowMappingStart)
    else if ch = ']' then return .inr (← s.closeFlow .flowSequenceEnd)
    else if ch = '}' then return .inr (← s.closeFlow .flowMappingEnd)
    else if ch = ',' then
      let s ← { s with keyAllowed := true }.dropKey
      return .inr (s.take 1 .flowEntry)
    else if ch = '-' ∧ markEnds then return .inr (← s.blockEntry)
    else if ch = '?' ∧ (inFlow ∨ markEnds) then return .inr (← s.keyMark)
    else if ch = ':' ∧ (inFlow ∨ markEnds) then return .inr (← s.valueMark)
    else if ch = '*' then
      return .inr (← s.word fun s => do
        let (name, after) ← anchorName s.cursor
        return (.alias name, false, after))
    else if ch = '&' then
      return .inr (← s.word fun s => do
        let (name, after) ← anchorName s.cursor
        return (.anchor name, false, after))
    else if ch = '!' then
      return .inr (← s.word fun s => do
        let (token, after) ← tagToken s.cursor
        return (token, false, after))
    else if (ch = '|' ∨ ch = '>') ∧ ! inFlow then
      let s ← { s with keyAllowed := true }.dropKey
      let (text, cursor) ← blockScalar (ch = '>') s.indent s.cursor
      return .inr { (s.push (.scalar (.ofList text) false)) with cursor }
    else if ch = '\x27' ∨ ch = '"' then
      return .inr (← s.word fun s => do
        let (text, after) ← quotedScalar ch s.cursor
        return (.scalar (.ofList text) false, false, after))
    else if beginsPlain inFlow ch following then
      return .inr (← s.word fun s => do
        let (text, broke, after) := plainScalar inFlow s.indent s.cursor
        return (.scalar (.ofList text) true, broke, after))
    else malformed

/-- The tokens that can be used where the text cannot be cut any further, and then the cause. A place
where a key may have begun has to be settled before the tokens from there on. -/
def stopped (s : Scan) (cause : Failure) : Array Token :=
  match s.dropLapsed with
  | .error _ => s.tokens.push (.fault cause)
  | .ok s =>
    let settled := s.keys.foldl (fun n (_, k) => min n k.tokensBefore) s.tokens.size
    (s.tokens.extract 0 settled).push (.fault cause)

/-- The tokens from here on; each takes at least one character. -/
def run : Nat → Scan → Array Token
  | 0, s => s.tokens.push (.fault .malformed)
  | n + 1, s =>
    match s.step with
    | .error cause => s.stopped cause
    | .ok (.inr s) => run n s
    | .ok (.inl tokens) => tokens

end Scan

/-- A character that a document may hold. -/
def isDocumentChar (c : Char) : Bool :=
  let n := c.toNat
  n == 9 || n == 10 || n == 13 || (0x20 ≤ n && n ≤ 0x7E) || n == 0x85 ||
    (0xA0 ≤ n && n ≤ 0xD7FF) || (0xE000 ≤ n && n ≤ 0xFFFD) || 0x10000 ≤ n

def tokens (s : String) : List Token :=
  let cs := s.toList
  if cs.all isDocumentChar then (Scan.run (cs.length + 2) (.start cs)).toList
  else [.fault .malformed]

end RouteDocs.Yaml
