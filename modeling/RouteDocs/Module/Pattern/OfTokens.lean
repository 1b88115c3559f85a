import RouteDocs.Module.Expr.OfTokens

namespace RouteDocs.Module
namespace Parser

def bareNumber : Parser Expr := do
  match ← get with
  | .int k :: rest =>
    set rest
    return .int k
  | .float x :: rest =>
    set rest
    return .float x
  | .imaginary x :: rest =>
    set rest
    return .imaginary x
  | _ => unexpected

/-- A number, which can have a sign and an imaginary part. -/
def patternNumber : Parser Expr := do
  let isNegative ← takeOp "-"
  let first ← bareNumber
  let real := if isNegative then Expr.unary "-" first else first
  if (← isOp "+") || (← isOp "-") then
    let operator := if ← isOp "+" then "+" else "-"
    skip
    let second ← bareNumber
    if (first matches .imaginary _) || ! (second matches .imaginary _) then fail .wrong
    else return .binary operator real second
  else return real

/-- The segments after a name, with points before them. -/
def segmentsAfter : Nat → Expr → Parser Expr
  | 0, _ => unexpected
  | n + 1, e => do
    if ← takeOp "." then segmentsAfter n (.attribute e (← name)) else return e

/-- A name that a pattern binds; one underscore stands for none. -/
def captured : Parser (Option String) := do
  let id ← name
  return if id = "_" then none else some id

def boundName : Parser String := do
  let id ← name
  if id = "_" || (← isOp ".") || (← isOp "(") || (← isOp "=") then fail .wrong else return id

def patternKey (n : Nat) : Parser Expr := do
  match ← peek with
  | some (.name id) =>
    skip
    let e ← segmentsAfter n (.name id)
    if e matches .name _ then fail .wrong else return e
  | some (.keyword _) =>
    let e ← atom n
    if e matches .none | .bool _ then return e else fail .wrong
  | some (.op _) => patternNumber
  | some (.text _) => literals n
  | some (.bytes _) => literals n
  | some (.formatted _) => literals n
  | _ => patternNumber

/-- Passes a comma between parts in round brackets, unless these are closed. -/
def closePart : Parser Unit := do
  if ← takeOp "," then return
  else if ← isOp ")" then return
  else unexpected

/-- Whether a series of patterns ends here; one without brackets can end before a condition. -/
def endsSeries (closing : String) : Parser Bool := do
  if ← isOp closing then return true
  else if closing = ":" then isKeyword "if"
  else return false

mutual

/-- A pattern with a name after it, or not. -/
def pattern : Nat → Parser Pattern
  | 0 => unexpected
  | n + 1 => do
    let first ← closedPattern n
    let choices ← choicesRest n
    let p := if choices.isEmpty then first else Pattern.either (first :: choices)
    if ← takeKeyword "as" then return .bound p (← boundName) else return p

/-- The further choices with bars before them. -/
def choicesRest : Nat → Parser (List Pattern)
  | 0 => unexpected
  | n + 1 => do
    if ← takeOp "|" then
      let next ← closedPattern n
      return next :: (← choicesRest n)
    else return []

def closedPattern : Nat → Parser Pattern
  | 0 => unexpected
  | n + 1 => do
    match ← get with
    | .name "_" :: rest =>
      set rest
      return .capture none
    | .name id :: rest =>
      set rest
      let e ← segmentsAfter n (.name id)
      if ← takeOp "(" then
        let (placed, named) ← classPatterns n false
        return .class_ e placed named
      else if ← isOp "=" then unexpected
      else if e matches .name _ then return .capture (some id)
      else return .value e
    | .keyword "None" :: rest =>
      set rest
      return .constant .none
    | .keyword "True" :: rest =>
      set rest
      return .constant (.bool true)
    | .keyword "False" :: rest =>
      set rest
      return .constant (.bool false)
    | .text _ :: _ => return .value (← literals n)
    | .bytes _ :: _ => return .value (← literals n)
    | .formatted _ :: _ => return .value (← literals n)
    | .op "(" :: rest =>
      set rest
      let (items, hasComma) ← patternItems n ")"
      op ")"
      match items, hasComma with
      | [.star _], false => fail .wrong
      | [p], false => return p
      | items, _ => return .sequence items
    | .op "[" :: rest =>
      set rest
      let (items, _) ← patternItems n "]"
      op "]"
      return .sequence items
    | .op "\x7b" :: rest =>
      set rest
      entryPatterns n []
    | _ => return .value (← patternNumber)

/-- An item of a sequence, which can have a star. -/
def patternItem : Nat → Parser Pattern
  | 0 => unexpected
  | n + 1 => do
    if ← takeOp "*" then return .star (← captured) else pattern n

/-- The items of a sequence up to a closing token, which stays, and whether there is a comma. -/
def patternItems : Nat → String → Parser (List Pattern × Bool)
  | 0, _ => unexpected
  | n + 1, closing => do
    if ← endsSeries closing then return ([], false)
    else
      let first ← patternItem n
      if ← takeOp "," then
        let (rest, _) ← patternItems n closing
        return (first :: rest, true)
      else return ([first], false)

/-- The entries of a mapping up to its closing brace. -/
def entryPatterns : Nat → List (Expr × Pattern) → Parser Pattern
  | 0, _ => unexpected
  | n + 1, done => do
    if ← takeOp "\x7d" then return .mapping done none
    else if ← takeOp "**" then
      let rest ← boundName
      let _ ← takeOp ","
      op "\x7d"
      return .mapping done (some rest)
    else
      let key ← patternKey n
      op ":"
      let p ← pattern n
      let done := done ++ [(key, p)]
      if ← takeOp "," then entryPatterns n done
      else
        op "\x7d"
        return .mapping done none

/-- The patterns of members up to a closing bracket. `isNamed` says that only those with a name can
follow. -/
def classPatterns : Nat → Bool → Parser (List Pattern × List (String × Pattern))
  | 0, _ => unexpected
  | n + 1, isNamed => do
    if ← takeOp ")" then return ([], [])
    else
      match ← get with
      | .name id :: .op "=" :: rest =>
        set rest
        let p ← pattern n
        closePart
        let (placed, named) ← classPatterns n true
        return (placed, (id, p) :: named)
      | _ =>
        if isNamed then fail .wrong
        else
          let p ← pattern n
          closePart
          let (placed, named) ← classPatterns n false
          return (p :: placed, named)

end

/-- What stands after the word `case`. -/
def casePattern (n : Nat) : Parser Pattern := do
  let first ← patternItem n
  if ← takeOp "," then
    let (rest, _) ← patternItems n ":"
    return .sequence (first :: rest)
  else if first.isStarred then fail .wrong
  else return first

end Parser
end RouteDocs.Module
