import RouteDocs.Decimal.Binary64
import RouteDocs.Failure

namespace RouteDocs.Module

/-- Why a text is no module. -/
inductive Malformed where
  /-- It breaks a rule of the grammar. -/
  | wrong
  /-- A literal has no meaning. -/
  | literal
  /-- A backslash outside a string is not the end of a line, or the last line is to go on. -/
  | joint
  /-- A line has an indentation that opens or closes no block. -/
  | indentation
  /-- Two indentations can be compared only by assuming a width of tabs. -/
  | tabs
  /-- It holds the character U+0000. -/
  | nullCharacter
  deriving DecidableEq, Repr

/-- What a text that is no module raises. -/
def Malformed.raised : Malformed → Raised
  | .wrong => .error "SyntaxError"
  | .literal => .error "SyntaxError"
  | .joint => .error "SyntaxError"
  | .indentation => .error "IndentationError"
  | .tabs => .error "TabError"
  | .nullCharacter => .error "ValueError"

/-- A part of a formatted literal: a text, or a field with the text of its expression, the letter of
its conversion and the parts of its format, where it has these. -/
inductive Piece where
  | text (s : String)
  | field (code : List Char) (conversion : Option Char) (format : List Piece)
  deriving Repr, Inhabited

/-- A token. `bad` stands where the text cannot be cut any further. -/
inductive Token where
  | name (s : String)
  | keyword (s : String)
  | int (n : Nat)
  | float (x : Binary64)
  | imaginary (x : Binary64)
  | text (s : String)
  | bytes (content : List UInt8)
  | formatted (pieces : List Piece)
  | op (s : String)
  | newline
  | indent
  | dedent
  | bad (cause : Malformed)
  deriving Repr, Inhabited

def Token.isOp (o : String) : Token → Bool
  | .op own => own == o
  | _ => false

def Token.isKeyword (k : String) : Token → Bool
  | .keyword own => own == k
  | _ => false

/-- The words that cannot be names. -/
def keywords : List String := [
  "False", "None", "True", "and", "as", "assert", "async", "await", "break", "class", "continue",
  "def", "del", "elif", "else", "except", "finally", "for", "from", "global", "if", "import", "in",
  "is", "lambda", "nonlocal", "not", "or", "pass", "raise", "return", "try", "while", "with",
  "yield"]

end RouteDocs.Module
