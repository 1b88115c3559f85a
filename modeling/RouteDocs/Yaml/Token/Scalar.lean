import RouteDocs.Text.Half
import RouteDocs.Yaml.Token
import RouteDocs.Yaml.Scalar

/-!
# Scalars of a document

* `plainScalar`: a scalar without quotes, over one or more lines;
* `quotedScalar`: a scalar in single or double quotes;
* `blockScalar`: a scalar after `|` or `>`, whose lines are kept or folded.

Each gives the text of the scalar and the position after it. Line ends inside a scalar are folded:
one becomes a blank, and of several all but the first are kept.
-/

namespace RouteDocs.Yaml

/-- A text and the position after it. -/
abbrev Read := Except Failure (List Char × Cursor)

/-- The length of the run of characters that belong to a plain scalar. A colon before the end of a
word ends it, and inside brackets so does an indicator. -/
def plainLength (inFlow : Bool) : List Char → Nat
  | [] => 0
  | c :: rest =>
    let colonEnds := c == ':' &&
      (endsWord rest.head? || (inFlow && [',', '[', ']', '{', '}'].any (some · == rest.head?)))
    let flowEnds := inFlow && [',', '?', '[', ']', '{', '}'].contains c
    if endsWord (some c) || colonEnds || flowEnds then 0 else plainLength inFlow rest + 1

/-- The line ends after the first of a plain scalar, or nothing where a document mark follows.
`n` bounds the number of characters. -/
def plainBreaks : Nat → Cursor → Option (List Char × Cursor)
  | 0, c => some ([], c)
  | n + 1, c =>
    match c.peek with
    | some ' ' => plainBreaks n c.next
    | some ch =>
      if isBreak ch then
        let (mark, after) := c.lineBreak
        if after.atDocumentMark then none
        else (plainBreaks n after).map fun (marks, left) => (mark ++ marks, left)
      else some ([], c)
    | none => some ([], c)

/-- The blanks or line ends after a part of a plain scalar, as they count in its text; nothing when
they end it. Says too whether a line was ended. -/
def plainGap (c : Cursor) : List Char × Bool × Cursor :=
  let (blanks, after) := c.takeWhile (· == ' ')
  match after.peek with
  | some ch =>
    if isBreak ch then
      let (mark, start) := after.lineBreak
      if start.atDocumentMark then ([], true, start)
      else
        match plainBreaks (start.rest.length + 1) start with
        | none => ([], true, start)
        | some (marks, left) =>
          let lead := if mark ≠ ['\n'] then mark else if marks.isEmpty then [' '] else []
          (lead ++ marks, true, left)
    else (blanks, false, after)
  | none => (blanks, false, after)

/-- The rest of a plain scalar after `gap`, the blanks that count only if more of it follows. -/
def plainFrom (inFlow : Bool) (indent : Int) : Nat → List Char → Bool → Cursor →
    List Char × Bool × Cursor
  | 0, _, broke, c => ([], broke, c)
  | n + 1, gap, broke, c =>
    let length := if c.peek = some '#' then 0 else plainLength inFlow c.rest
    if length = 0 then ([], broke, c)
    else
      let here := gap ++ c.rest.take length
      let (gap, ended, after) := plainGap (c.advance length)
      if gap.isEmpty || after.peek == some '#' || (! inFlow && (after.column : Int) < indent) then
        (here, ended, after)
      else
        let (more, broke, left) := plainFrom inFlow indent n gap ended after
        (here ++ more, broke, left)

/-- A plain scalar. Says too whether a line was ended after its last part. -/
def plainScalar (inFlow : Bool) (indent : Int) (c : Cursor) : List Char × Bool × Cursor :=
  plainFrom inFlow (indent + 1) (c.rest.length + 1) [] false c

/-- The character that a letter after a backslash stands for. -/
def escaped? (c : Char) : Option Char :=
  match c with
  | '0' => some (.ofNat 0)
  | 'a' => some (.ofNat 7)
  | 'b' => some (.ofNat 8)
  | 't' => some '\t'
  | '\t' => some '\t'
  | 'n' => some '\n'
  | 'v' => some (.ofNat 0xB)
  | 'f' => some (.ofNat 0xC)
  | 'r' => some '\r'
  | 'e' => some (.ofNat 0x1B)
  | ' ' => some ' '
  | '"' => some '"'
  | '\\' => some '\\'
  | '/' => some '/'
  | 'N' => some (.ofNat 0x85)
  | '_' => some (.ofNat 0xA0)
  | 'L' => some (.ofNat 0x2028)
  | 'P' => some (.ofNat 0x2029)
  | _ => none

/-- The number of hexadecimal digits after a letter that announces a code. -/
def codeLength? (c : Char) : Option Nat :=
  match c with
  | 'x' => some 2
  | 'u' => some 4
  | 'U' => some 8
  | _ => none

/-- The code that the next `n` hexadecimal digits spell. -/
def readCode (n : Nat) (c : Cursor) : Except Failure Nat :=
  let digits := c.rest.take n
  if digits.length = n ∧ digits.all fun d => isHexGrouped d && d != '_' then
    .ok (digits.foldl (fun code d => code * 16 + digitValue d) 0)
  else malformed

/-- The character of a code, which may be half of a surrogate pair. -/
def readCharacter (n : Nat) (c : Cursor) : Except Failure (Char × Cursor) := do
  let code ← readCode n c
  if code ≤ 0x10FFFF then return (Text.ofCode code, c.advance n)
  else if code < Nat.pow 2 31 then throw .outOfRange
  else throw .overflow

/-- Line ends and the blanks before each further line of a quoted scalar. A document mark may not
stand there. -/
def quotedBreaks : Nat → Cursor → Read
  | 0, c => .ok ([], c)
  | n + 1, c => do
    if c.atDocumentMark then malformed
    else
      let start := c.skipWhile fun ch => ch == ' ' || ch == '\t'
      match start.peek with
      | some ch =>
        if isBreak ch then
          let (mark, after) := start.lineBreak
          let (marks, left) ← quotedBreaks n after
          return (mark ++ marks, left)
        else return ([], start)
      | none => return ([], start)

/-- The blanks or line ends here inside quotes, as they count in the text. -/
def quotedGap (c : Cursor) : Read := do
  let (blanks, after) := c.takeWhile fun ch => ch == ' ' || ch == '\t'
  match after.peek with
  | none => malformed
  | some ch =>
    if isBreak ch then
      let (mark, start) := after.lineBreak
      let (marks, left) ← quotedBreaks (start.rest.length + 1) start
      let lead := if mark ≠ ['\n'] then mark else if marks.isEmpty then [' '] else []
      return (lead ++ marks, left)
    else return (blanks, after)

/-- The text up to the closing quote, and the position after it. -/
def quotedFrom (quote : Char) : Nat → Cursor → Read
  | 0, _ => malformed
  | n + 1, c => do
    match c.rest with
    | [] => malformed
    | ch :: rest =>
      if ch = quote then
        if quote = '\x27' ∧ rest.head? = some '\x27' then
          let (more, left) ← quotedFrom quote n (c.advance 2)
          return ('\x27' :: more, left)
        else return ([], c.next)
      else if endsWord (some ch) then
        let (gap, after) ← quotedGap c
        let (more, left) ← quotedFrom quote n after
        return (gap ++ more, left)
      else if ch = '\\' ∧ quote = '"' then
        match rest with
        | [] => malformed
        | letter :: _ =>
          match escaped? letter, codeLength? letter with
          | some character, _ =>
            let (more, left) ← quotedFrom quote n (c.advance 2)
            return (character :: more, left)
          | none, some length =>
            let (character, after) ← readCharacter length (c.advance 2)
            let (more, left) ← quotedFrom quote n after
            return (character :: more, left)
          | none, none =>
            if isBreak letter then
              let (_, start) := c.next.lineBreak
              let (marks, after) ← quotedBreaks (start.rest.length + 1) start
              let (more, left) ← quotedFrom quote n after
              return (marks ++ more, left)
            else malformed
      else
        let (more, left) ← quotedFrom quote n c.next
        return (ch :: more, left)

def quotedScalar (quote : Char) (c : Cursor) : Read :=
  quotedFrom quote (c.rest.length + 1) c.next

/-- What happens to the line ends after the last line of a block scalar. -/
inductive Chomping where
  | strip
  | clip
  | keep
  deriving DecidableEq

def chomping? : Option Char → Option Chomping
  | some '+' => some .keep
  | some '-' => some .strip
  | _ => none

/-- The indentation that a digit stands for. -/
def increment? : Option Char → Option Nat
  | some c => if c.isDigit then some (c.toNat - 48) else none
  | none => none

/-- The indicators after `|` or `>`: a sign and a digit in either order, both optional. -/
def blockIndicators (c : Cursor) : Except Failure (Chomping × Option Nat × Cursor) := do
  let (chomping, increment, after) := match chomping? c.peek, increment? c.peek with
    | some chomping, _ =>
      match increment? c.next.peek with
      | some n => (chomping, some n, c.advance 2)
      | none => (chomping, none, c.next)
    | none, some n =>
      match chomping? c.next.peek with
      | some chomping => (chomping, some n, c.advance 2)
      | none => (.clip, some n, c.next)
    | none, none => (.clip, none, c)
  if increment = some 0 || ! endsWordNoTab after.peek then malformed
  else
    let left := after.skipBlanks.skipComment
    if endsLine left.peek then return (chomping, increment, left.lineBreak.2) else malformed

/-- The line ends before the first line with content, the greatest column reached by blanks, and
the position there. -/
def blockIndentation : Nat → Nat → Cursor → List Char × Nat × Cursor
  | 0, widest, c => ([], widest, c)
  | n + 1, widest, c =>
    match c.peek with
    | some ' ' => blockIndentation n (max widest c.next.column) c.next
    | some ch =>
      if isBreak ch then
        let (mark, after) := c.lineBreak
        let (marks, widest, left) := blockIndentation n widest after
        (mark ++ marks, widest, left)
      else ([], widest, c)
    | none => ([], widest, c)

/-- The position after blanks, at most up to a column. -/
def indentTo (indent : Nat) (c : Cursor) : Cursor :=
  c.advance ((c.rest.takeWhile (· == ' ')).length.min (indent - c.column))

/-- The line ends of empty lines, and the position in the first line that is not empty. -/
def blockBreaks (indent : Nat) : Nat → Cursor → List Char × Cursor
  | 0, c => ([], indentTo indent c)
  | n + 1, c =>
    let start := indentTo indent c
    match start.peek with
    | some ch =>
      if isBreak ch then
        let (mark, after) := start.lineBreak
        let (marks, left) := blockBreaks indent n after
        (mark ++ marks, left)
      else ([], start)
    | none => ([], start)

def atBlank (c : Cursor) : Bool := c.peek == some ' ' || c.peek == some '\t'

/-- The lines of a block scalar from here on, after `breaks`, the ends of empty lines before
them. -/
def blockLines (folded : Bool) (chomping : Chomping) (indent : Nat) :
    Nat → List Char → Cursor → List Char × Cursor
  | 0, _, c => ([], c)
  | n + 1, breaks, c =>
    let (content, ended) := c.takeWhile (! isBreak ·)
    let (mark, after) := ended.lineBreak
    let (further, next) := blockBreaks indent (after.rest.length + 1) after
    let here := breaks ++ content
    if next.column = indent ∧ next.peek.isSome then
      let joint :=
        if folded && mark == ['\n'] && ! atBlank c && ! atBlank next then
          if further.isEmpty then [' '] else []
        else mark
      let (more, left) := blockLines folded chomping indent n further next
      (here ++ joint ++ more, left)
    else
      let tail := match chomping with
        | .strip => []
        | .clip => mark
        | .keep => mark ++ further
      (here ++ tail, next)

/-- The scalar whose indicator stands here, below the indentation `parent`. -/
def blockScalar (folded : Bool) (parent : Int) (c : Cursor) : Read := do
  let (chomping, increment, start) ← blockIndicators c.next
  let least := (max (parent + 1) 1).toNat
  let bound := start.rest.length + 1
  let (indent, breaks, first) := match increment with
    | none =>
      let (breaks, widest, first) := blockIndentation bound 0 start
      (max least widest, breaks, first)
    | some n =>
      let indent := least + n - 1
      let (breaks, first) := blockBreaks indent bound start
      (indent, breaks, first)
  if first.column = indent ∧ first.peek.isSome then
    return blockLines folded chomping indent bound breaks first
  else
    return (if chomping = .keep then breaks else [], first)

end RouteDocs.Yaml
