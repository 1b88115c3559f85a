import RouteDocs.Text.Half
import RouteDocs.Text.Printable

/-!
# A text in quotes

* `quoted`: a text between quotes, with what cannot be shown escaped;
* `quotedBytes`: the same for bytes.

Single quotes stand around the text, or double ones if it holds a single quote and no double one.
-/

namespace RouteDocs.Text

/-- The last `width` hexadecimal digits of a number, in lower case. -/
def hexDigits (n : Nat) : Nat → List Char
  | 0 => []
  | width + 1 => hexDigits (n / 16) width ++ [Nat.digitChar (n % 16)]

/-- The quote that stands around the characters. -/
def quoteFor (cs : List Char) : Char :=
  if cs.contains '\x27' && ! cs.contains '"' then '"' else '\x27'

def quotedChar (quote c : Char) : List Char :=
  let n := codeOf c
  if c = quote ∨ c = '\\' then ['\\', c]
  else if c = '\n' then ['\\', 'n']
  else if c = '\r' then ['\\', 'r']
  else if c = '\t' then ['\\', 't']
  else if isPrintable c then [c]
  else if n < 0x100 then '\\' :: 'x' :: hexDigits n 2
  else if n < 0x10000 then '\\' :: 'u' :: hexDigits n 4
  else '\\' :: 'U' :: hexDigits n 8

def quoted (s : String) : String :=
  let quote := quoteFor s.toList
  .ofList (quote :: (s.toList.flatMap (quotedChar quote) ++ [quote]))

/-- Bytes between quotes after the letter `b`; only the printable characters of ASCII stand for
themselves. -/
def quotedBytes (bytes : List UInt8) : String :=
  let cs := bytes.map fun b => Char.ofNat b.toNat
  let quote := quoteFor cs
  let shown (c : Char) : List Char :=
    if c.toNat < 0x7F then quotedChar quote c else '\\' :: 'x' :: hexDigits c.toNat 2
  .ofList ('b' :: quote :: (cs.flatMap shown ++ [quote]))

end RouteDocs.Text
