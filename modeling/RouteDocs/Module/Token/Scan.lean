import RouteDocs.Module.Token.Literal
import RouteDocs.Text.Composition

namespace RouteDocs.Module

/-- An indentation, measured with tabs to multiples of eight and with tabs as one column. If two
indentations compare differently by the two measures, they are inconsistent. -/
structure Margin where
  wide : Nat
  narrow : Nat
  deriving DecidableEq, Repr

/-- The margin of a line that goes on after `m`, and the text after it. Where a backslash joins the
line with the next, the first width that is not zero counts, which is `joined`; nothing but a line
end may follow the backslash, and the text may not end there. -/
def marginFrom (m : Margin) (joined : Nat) : List Char → Option (Margin × List Char)
  | ' ' :: cs => marginFrom ⟨m.wide + 1, m.narrow + 1⟩ joined cs
  | '\t' :: cs => marginFrom ⟨(m.wide / 8 + 1) * 8, m.narrow + 1⟩ joined cs
  | '\\' :: '\n' :: c :: cs => marginFrom m (if joined = 0 then m.wide else joined) (c :: cs)
  | '\\' :: _ => none
  | c :: cs =>
    if c.toNat = 12 then marginFrom ⟨0, 0⟩ joined cs
    else some (if joined = 0 then m else ⟨joined, joined⟩, c :: cs)
  | [] => some (m, [])

/-- The state of the cutting: the closing brackets that are due, and the margins around the present
block, the innermost first. -/
structure Scanner where
  closers : List Char
  margins : List Margin

namespace Scanner

/-- The number of margins, that of the whole text included, which cannot be exceeded. -/
def maxMargins : Nat := 100

/-- Closes the blocks whose margin is wider than `m`; the margin that remains has to be `m`. -/
def closeTo (m : Margin) : List Margin → List Token × List Margin
  | [] => ([], [])
  | top :: outer =>
    if m.wide < top.wide then
      let (tokens, left) := closeTo m outer
      (.dedent :: tokens, left)
    else if m.wide ≠ top.wide then ([.bad .indentation], top :: outer)
    else if m.narrow ≠ top.narrow then ([.bad .tabs], top :: outer)
    else ([], top :: outer)

/-- The tokens that the margin of a line with content stands for. -/
def indentation (s : Scanner) (m : Margin) : List Token × Scanner :=
  match s.margins with
  | [] => ([], s)
  | top :: outer =>
    if m.wide = top.wide then
      (if m.narrow = top.narrow then [] else [.bad .tabs], s)
    else if top.wide < m.wide then
      if maxMargins ≤ s.margins.length then ([.bad .indentation], s)
      else if m.narrow ≤ top.narrow then ([.bad .tabs], s)
      else ([.indent], { s with margins := m :: top :: outer })
    else
      let (tokens, margins) := closeTo m (top :: outer)
      (tokens, { s with margins })

/-- The operators of more than one character, the longer first. -/
def longOperators : List String := [
  "**=", "//=", ">>=", "<<=", "...", "**", "//", ">>", "<<", "<=", ">=", "==", "!=", "->", "+=",
  "-=", "*=", "/=", "%=", "&=", "|=", "^=", "@=", ":="]

/-- The operators of one character, and the signs that are none but can be cut off as such. -/
def shortOperators : List Char := "+-*/%@&|^~<>()[]\x7b\x7d,:.;=?$!`".toList

def operator? (cs : List Char) : Option String :=
  match longOperators.find? fun o => o.toList.isPrefixOf cs with
  | some o => some o
  | none =>
    match cs with
    | c :: _ => if shortOperators.contains c then some (.ofList [c]) else none
    | [] => none

/-- The state after a bracket: an opening one is to be closed, and a closing one has to be due. -/
def bracket (s : Scanner) (c : Char) : Option Scanner :=
  match closer? c with
  | some closing =>
    if maxBrackets ≤ s.closers.length then none
    else some { s with closers := closing :: s.closers }
  | none =>
    if c = ')' ∨ c = ']' ∨ c = '}' then
      match s.closers with
      | due :: outer => if due = c then some { s with closers := outer } else none
      | [] => none
    else some s

/-- The token of a word. Names that look or mean the same are one. -/
def ofWord (s : String) : Token :=
  if keywords.contains s then .keyword s else .name (Text.composed s)

/-- The token that starts the text, which is no blank, comment or line end. -/
def word (s : Scanner) (cs : List Char) : Option (Token × List Char × Scanner) := do
  let c ← cs.head?
  let name := cs.takeWhile fun c => Text.isIdentifierChar c || 0x80 ≤ c.toNat
  let rest := cs.drop name.length
  let beforeQuote := rest.head? == some '"' || rest.head? == some '\x27'
  if beforeQuote ∧ (letters? (.ofList name)).isSome then
    let (token, left) ← literal? (← letters? (.ofList name)) rest
    return (token, left, s)
  else if c.isDigit ∨ (c = '.' ∧ ((cs.drop 1).head?.map Char.isDigit).getD false) then
    let (token, left) ← number? cs
    return (token, left, s)
  else if ! name.isEmpty then
    if Text.isIdentifierStart c && name.all Text.isIdentifierChar then
      return (ofWord (.ofList name), rest, s)
    else none
  else
    let o ← operator? cs
    let s ← if o.length = 1 then s.bracket c else some s
    return (.op o, cs.drop o.length, s)

/-- The tokens of the rest of a text; where it ends inside brackets, no line end follows. `started`
says whether the present line has tokens, and `fresh` that a line is just beginning. `n` bounds the
number of steps. -/
def run : Nat → Scanner → Bool → Bool → List Char → List Token
  | 0, _, _, _, _ => [.bad .wrong]
  | n + 1, s, fresh, started, cs =>
    if fresh && s.closers.isEmpty then
      match marginFrom ⟨0, 0⟩ 0 cs with
      | none => [.bad .joint]
      | some (_, []) => (s.indentation ⟨0, 0⟩).1
      | some (m, c :: rest) =>
        if c = '#' ∨ c = '\n' then
          let left := ((c :: rest).dropWhile (· ≠ '\n')).drop 1
          if left.isEmpty then (s.indentation ⟨0, 0⟩).1 else run n s true false left
        else
          let (tokens, s) := s.indentation m
          if tokens.any (fun t => t matches .bad _) then tokens
          else tokens ++ run n s false false (c :: rest)
    else
      match cs with
      | [] =>
        if ! s.closers.isEmpty then []
        else (if started then [.newline] else []) ++ (s.indentation ⟨0, 0⟩).1
      | c :: rest =>
        if c = ' ' ∨ c = '\t' ∨ c.toNat = 12 then run n s false started rest
        else if c = '#' then run n s false started (cs.dropWhile (· ≠ '\n'))
        else if c = '\n' then
          if ! s.closers.isEmpty then run n s false started rest
          else if started then .newline :: run n s true false rest
          else run n s true false rest
        else if c = '\\' then
          match rest with
          | '\n' :: c :: more => run n s false started (c :: more)
          | _ => [.bad .joint]
        else
          match s.word cs with
          | some (token, left, s) => token :: run n s false true left
          | none => [.bad .wrong]

end Scanner

/-- The tokens of a module. A text with a character U+0000 has none. -/
def tokens (cs : List Char) : List Token :=
  if cs.any (·.toNat = 0) then [.bad .nullCharacter]
  else Scanner.run (2 * cs.length + 2) ⟨[], [⟨0, 0⟩]⟩ true false cs

end RouteDocs.Module
