import RouteDocs.Text.CharacterName
import RouteDocs.Text.Half

namespace RouteDocs.Module

def hexValue? (c : Char) : Option Nat :=
  if c.isDigit then some (c.toNat - 48)
  else if 'a' ≤ c ∧ c ≤ 'f' then some (c.toNat - 87)
  else if 'A' ≤ c ∧ c ≤ 'F' then some (c.toNat - 55)
  else none

/-- The number that exactly `n` hexadecimal digits spell, and what follows them. -/
def hexCode? : Nat → Nat → List Char → Option (Nat × List Char)
  | 0, code, rest => some (code, rest)
  | n + 1, code, c :: rest => do hexCode? n (code * 16 + (← hexValue? c)) rest
  | _ + 1, _, [] => none

/-- Up to `n` octal digits, and what follows them. -/
def octalCode : Nat → Nat → List Char → Nat × List Char
  | n + 1, code, c :: rest =>
    if '0' ≤ c ∧ c ≤ '7' then octalCode n (code * 8 + (c.toNat - 48)) rest else (code, c :: rest)
  | _, code, rest => (code, rest)

/-- The character that a letter after a backslash stands for. -/
def simpleEscape? (c : Char) : Option Char :=
  match c with
  | '\\' => some '\\'
  | '\x27' => some '\x27'
  | '"' => some '"'
  | 'a' => some (.ofNat 7)
  | 'b' => some (.ofNat 8)
  | 'f' => some (.ofNat 12)
  | 'n' => some '\n'
  | 'r' => some '\r'
  | 't' => some '\t'
  | 'v' => some (.ofNat 11)
  | _ => none

/-- What an escape stands for, and what follows it: nothing for a line end, one character for the
escapes of the kind of literal, and the backslash itself before any other character or none. -/
def escape? (ofBytes : Bool) : List Char → Option (List Char × List Char)
  | [] => some (['\\'], [])
  | '\n' :: rest => some ([], rest)
  | c :: rest =>
    match simpleEscape? c with
    | some ch => some ([ch], rest)
    | none =>
      if '0' ≤ c ∧ c ≤ '7' then
        let (code, left) := octalCode 3 0 (c :: rest)
        some ([Text.ofCode (if ofBytes then code % 256 else code)], left)
      else if c = 'x' then
        (hexCode? 2 0 rest).map fun (code, left) => ([Text.ofCode code], left)
      else if ofBytes then some (['\\'], c :: rest)
      else if c = 'u' then
        (hexCode? 4 0 rest).map fun (code, left) => ([Text.ofCode code], left)
      else if c = 'U' then do
        let (code, left) ← hexCode? 8 0 rest
        if code ≤ 0x10FFFF then some ([Text.ofCode code], left) else none
      else if c = 'N' then
        match rest with
        | '{' :: named =>
          let name := named.takeWhile (· ≠ '}')
          if name.isEmpty || name.length = named.length then none
          else (Text.characterNamed? name).map fun c => ([c], named.drop (name.length + 1))
        | _ => none
      else some (['\\'], c :: rest)

/-- The characters that an escaped text stands for. `n` exceeds the number of characters. -/
def unescapeWithin (ofBytes : Bool) : Nat → List Char → Option (List Char)
  | 0, _ => none
  | _ + 1, [] => some []
  | n + 1, c :: rest => do
    if c = '\\' then
      let (chars, left) ← escape? ofBytes rest
      return chars ++ (← unescapeWithin ofBytes n left)
    else return c :: (← unescapeWithin ofBytes n rest)

def unescape? (ofBytes : Bool) (cs : List Char) : Option (List Char) :=
  unescapeWithin ofBytes (cs.length + 1) cs

end RouteDocs.Module
