namespace RouteDocs.Text

/-- The parts before and after the first occurrence of `pattern`. -/
def cutAt? (pattern : List Char) : List Char → Option (List Char × List Char)
  | [] => if pattern.isEmpty then some ([], []) else none
  | c :: cs =>
    if pattern.isPrefixOf (c :: cs) then some ([], (c :: cs).drop pattern.length)
    else (cutAt? pattern cs).map fun (before, after) => (c :: before, after)

/-- The parts before and after the first `sep`; without one, everything is before it. -/
def cutAtChar (sep : Char) : List Char → List Char × List Char
  | [] => ([], [])
  | c :: cs =>
    if c = sep then ([], cs)
    else
      let (before, after) := cutAtChar sep cs
      (c :: before, after)

/-- The parts before and after the last `sep`; without one, everything is after it. -/
def cutAtLastChar (sep : Char) (cs : List Char) : List Char × List Char :=
  let (after, before) := cutAtChar sep cs.reverse
  if cs.contains sep then (before.reverse, after.reverse) else ([], cs)

/-- Removes the occurrences of `pattern` from the left, none overlapping the one before it, after
`skip` characters that belong to an occurrence already found. -/
def removeFrom (pattern : List Char) : Nat → List Char → List Char
  | _, [] => []
  | skip + 1, _ :: cs => removeFrom pattern skip cs
  | 0, c :: cs =>
    if pattern.isPrefixOf (c :: cs) then removeFrom pattern (pattern.length - 1) cs
    else c :: removeFrom pattern 0 cs

/-- The parts of a text before and after the first occurrence of `pattern`, if it has one. -/
def cut? (pattern s : String) : Option (String × String) :=
  (cutAt? pattern.toList s.toList).map fun (before, after) => (.ofList before, .ofList after)

/-- The parts of a text before and after the first `sep`; without one, everything is before it. -/
def cut (sep : Char) (s : String) : String × String :=
  let (before, after) := cutAtChar sep s.toList
  (.ofList before, .ofList after)

/-- The parts of a text before and after the last `sep`; without one, everything is after it. -/
def cutLast (sep : Char) (s : String) : String × String :=
  let (before, after) := cutAtLastChar sep s.toList
  (.ofList before, .ofList after)

/-- A text without the occurrences of `pattern`; an empty pattern removes nothing. -/
def remove (pattern s : String) : String :=
  if pattern.isEmpty then s else .ofList (removeFrom pattern.toList 0 s.toList)

def dropLeading (c : Char) (s : String) : String := .ofList (s.toList.dropWhile (· == c))

def dropAround (c : Char) (s : String) : String :=
  .ofList ((s.toList.dropWhile (· == c)).reverse.dropWhile (· == c)).reverse

end RouteDocs.Text
