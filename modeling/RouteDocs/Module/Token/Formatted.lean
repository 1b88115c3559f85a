import RouteDocs.Module.Token
import RouteDocs.Module.Token.Escape

/-!
# Parts of formatted literals

* `plainPart?`: the text before a field;
* `fieldCode?`: the text of the expression in a field;
* `pieces?`: the texts and fields of a formatted literal.

A format can hold fields with formats of their own, and those can hold none.
-/

namespace RouteDocs.Module

def closer? (c : Char) : Option Char :=
  if c = '(' then some ')' else if c = '[' then some ']' else if c = '{' then some '}' else none

def maxBrackets : Nat := 200

/-- A character before the rest of a cut text. -/
def consCut (c : Char) (cut : Option (List Char × List Char)) : Option (List Char × List Char) :=
  cut.map fun (cs, left) => (c :: cs, left)

/-- The text before a field or before the end of a formatted literal, with what follows. Two braces
stand for one, save in a format, where each brace starts a field or ends the format. The braces
after `\N` belong to the name of a character; `inName` says that such a name is open. -/
def plainPart? (isRaw inFormat : Bool) (inName : Bool) : List Char → Option (List Char × List Char)
  | [] => some ([], [])
  | c :: rest =>
    if inName then consCut c (plainPart? isRaw inFormat (c ≠ '}') rest)
    else if c = '\\' ∧ ! isRaw then
      match rest with
      | [] => some ([c], [])
      | d :: more =>
        if d = '{' ∨ d = '}' then consCut c (plainPart? isRaw inFormat false (d :: more))
        else
          let isName := d == 'N' && more.head? == some '{'
          consCut c (consCut d (plainPart? isRaw inFormat isName more))
    else if c = '{' ∨ c = '}' then
      match rest with
      | d :: more =>
        if inFormat then some ([], c :: rest)
        else if d = c then consCut c (plainPart? isRaw inFormat false more)
        else if c = '}' then none
        else some ([], c :: rest)
      | [] => if inFormat || c == '{' then some ([], [c]) else none
    else consCut c (plainPart? isRaw inFormat false rest)

/-- Where a place in the expression of a field lies: outside strings, or in one with a quote, which
can stand three times. -/
inductive Quoting where
  | outside
  | single (quote : Char)
  | triple (quote : Char)
  deriving DecidableEq

def startsTwice (c : Char) (cs : List Char) : Bool := cs.take 2 == [c, c]

/-- The expression of a field, with what follows from its conversion, its format or its end on.
`closers` are the brackets that are due. No backslash and no comment can stand in an expression.
The first `passed` characters have been looked at already. -/
def fieldCode? (closers : List Char) (quoting : Quoting) (passed : Nat) :
    List Char → Option (List Char × List Char)
  | [] => none
  | c :: rest =>
    if c = '\\' then none
    else if passed ≠ 0 then consCut c (fieldCode? closers quoting (passed - 1) rest)
    else
      match quoting with
      | .single q => consCut c (fieldCode? closers (if c = q then .outside else quoting) 0 rest)
      | .triple q =>
        if c = q ∧ startsTwice q rest then consCut c (fieldCode? closers .outside 2 rest)
        else consCut c (fieldCode? closers quoting 0 rest)
      | .outside =>
        if c = '"' ∨ c = '\x27' then
          if startsTwice c rest then consCut c (fieldCode? closers (.triple c) 2 rest)
          else consCut c (fieldCode? closers (.single c) 0 rest)
        else if c = '#' then none
        else
          match closer? c with
          | some closing =>
            if maxBrackets ≤ closers.length then none
            else consCut c (fieldCode? (closing :: closers) .outside 0 rest)
          | none =>
            if closers.isEmpty && "!:\x7d=<>".toList.contains c then
              if rest.head? = some '=' ∧ c ≠ ':' ∧ c ≠ '}' then
                consCut c (fieldCode? closers .outside 1 rest)
              else if c = '<' ∨ c = '>' then consCut c (fieldCode? closers .outside 0 rest)
              else some ([], c :: rest)
            else if c = ')' ∨ c = ']' ∨ c = '}' then
              match closers with
              | due :: outer =>
                if due = c then consCut c (fieldCode? outer .outside 0 rest) else none
              | [] => none
            else consCut c (fieldCode? closers .outside 0 rest)

/-- A character between expressions. -/
def isCodeBlank (c : Char) : Bool := c == ' ' || c == '\t' || c == '\n' || c.toNat == 12

def isAsciiBlank (c : Char) : Bool := c == ' ' || (9 ≤ c.toNat && c.toNat ≤ 13)

/-- The sign after an expression which says that its text is shown, the blanks after that, and what
follows. -/
def echoSign (cs : List Char) : List Char × List Char :=
  match cs with
  | '=' :: rest => ('=' :: rest.takeWhile isAsciiBlank, rest.dropWhile isAsciiBlank)
  | _ => ([], cs)

/-- The letter of a conversion, if one follows, and what follows that. -/
def conversion? (cs : List Char) : Option (Option Char × List Char) :=
  match cs with
  | '!' :: c :: rest => if c = 's' ∨ c = 'r' ∨ c = 'a' then some (some c, rest) else none
  | '!' :: [] => none
  | _ => some (none, cs)

/-- The parts of a formatted literal, or of a format that lies `depth` fields deep and goes up to a
closing brace, with what follows. `n` exceeds the number of characters. -/
def piecesWithin (isRaw : Bool) : Nat → Nat → List Char → Option (List Piece × List Char)
  | 0, _, _ => none
  | n + 1, depth, cs => do
    let (plain, left) ← plainPart? isRaw (depth ≠ 0) false cs
    let plain ← if isRaw then some plain else unescape? false plain
    let here := if plain.isEmpty then [] else [Piece.text (.ofList plain)]
    match left with
    | '{' :: rest =>
      if 2 ≤ depth then none
      else
        let (code, left) ← fieldCode? [] .outside 0 rest
        if code.all isCodeBlank then none
        else
          let (sign, left) := echoSign left
          let echo := if sign.isEmpty then [] else [Piece.text (.ofList (code ++ sign))]
          let (conversion, left) ← conversion? left
          let (format, left) ← match left with
            | ':' :: more => (piecesWithin isRaw n (depth + 1) more).map fun (ps, l) => (some ps, l)
            | _ => some (none, left)
          let conversion := if ! sign.isEmpty && conversion.isNone && format.isNone then some 'r'
            else conversion
          match left with
          | '}' :: more =>
            let (pieces, left) ← piecesWithin isRaw n depth more
            return (here ++ echo ++ .field code conversion (format.getD []) :: pieces, left)
          | _ => none
    | _ => return (here, left)

def pieces? (isRaw : Bool) (cs : List Char) : Option (List Piece) :=
  (piecesWithin isRaw (cs.length + 1) 0 cs).map Prod.fst

end RouteDocs.Module
