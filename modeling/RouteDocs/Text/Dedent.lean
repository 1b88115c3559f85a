import RouteDocs.Text.Blank

namespace RouteDocs.Text

/-- Replaces each tab by the blanks that reach the next multiple of eight columns; a line feed or
carriage return starts again at column zero. -/
def expandTabsFrom : Nat → List Char → List Char
  | _, [] => []
  | column, c :: cs =>
    if c = '\t' then
      let width := 8 - column % 8
      List.replicate width ' ' ++ expandTabsFrom (column + width) cs
    else if c = '\n' ∨ c = '\r' then c :: expandTabsFrom 0 cs
    else c :: expandTabsFrom (column + 1) cs

/-- The number of blanks before the first other character. -/
def indentation (line : List Char) : Nat := (line.takeWhile isBlank).length

/-- The least indentation of the lines that are not blank, if there are any. -/
def margin? (lines : List (List Char)) : Option Nat :=
  ((lines.filter (! ·.all isBlank)).map indentation).min?

/-- A list of lines without the empty ones at its two ends. -/
def dropEmptyEnds (lines : List (List Char)) : List (List Char) :=
  ((lines.reverse.dropWhile List.isEmpty).reverse).dropWhile List.isEmpty

/-- The lines of a documentation text with the first trimmed at its start and the common margin
taken off the others. -/
def dedentLines : List (List Char) → List (List Char)
  | [] => []
  | first :: rest => trimStart first :: rest.map (List.drop ((margin? rest).getD 0))

/-- A documentation text as it is meant to be read: tabs expanded, the margin that its lines after
the first share taken off, and no empty line at either end. -/
def dedent (s : String) : String :=
  let lines := pieces (· == '\n') (expandTabsFrom 0 s.toList)
  .ofList (['\n'].intercalate (dropEmptyEnds (dedentLines lines)))

end RouteDocs.Text
