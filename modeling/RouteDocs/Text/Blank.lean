namespace RouteDocs.Text

/-- A blank is a Unicode white space character or one of the four ASCII separators
U+001C to U+001F. -/
def isBlank (c : Char) : Bool :=
  let n := c.toNat
  (9 ≤ n && n ≤ 13) || (28 ≤ n && n ≤ 32) || n == 0x85 || n == 0xA0 || n == 0x1680 ||
    (0x2000 ≤ n && n ≤ 0x200A) || n == 0x2028 || n == 0x2029 || n == 0x202F || n == 0x205F ||
    n == 0x3000

def trimStart (cs : List Char) : List Char := cs.dropWhile isBlank

def trimEnd (cs : List Char) : List Char := (cs.reverse.dropWhile isBlank).reverse

def trim (cs : List Char) : List Char := trimEnd (trimStart cs)

/-- The pieces of a text between the characters that `p` accepts; there is always one more piece
than accepted characters. -/
def pieces (p : Char → Bool) : List Char → List (List Char)
  | [] => [[]]
  | c :: cs =>
    match pieces p cs with
    | [] => [[c]]
    | w :: ws => if p c then [] :: w :: ws else (c :: w) :: ws

/-- The words of a text: its non-empty pieces between blanks. -/
def words (cs : List Char) : List (List Char) :=
  (pieces isBlank cs).filter (! ·.isEmpty)

/-- A text without the blanks at its two ends. -/
def strip (s : String) : String := .ofList (trim s.toList)

def split (s : String) : List String := (words s.toList).map .ofList

/-- The parts of a text between the occurrences of `sep`. -/
def splitAt (sep : Char) (s : String) : List String :=
  (pieces (· == sep) s.toList).map .ofList

end RouteDocs.Text
