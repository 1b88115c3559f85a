import RouteDocs.Module.Pattern.OfTokens

/-!
# Statements from tokens

* `Parser.statements`: the statements up to the end of a block;
* `parse`: the statements of a text.

The functions recurse on a bound that exceeds the number of steps a text can need.
-/

namespace RouteDocs.Module
namespace Parser

def dottedName : Nat → Parser String
  | 0 => unexpected
  | n + 1 => do
    let first ← name
    if ← takeOp "." then return first ++ "." ++ (← dottedName n) else return first

/-- The name after `as`, if there is one. -/
def binding : Parser (Option String) := do
  if ← takeKeyword "as" then return some (← name) else return none

def importNames : Nat → Parser (List ImportName)
  | 0 => unexpected
  | n + 1 => do
    let module ← dottedName n
    let here : ImportName := ⟨module, ← binding⟩
    if ← takeOp "," then return here :: (← importNames n) else return [here]

/-- The names that are taken from a module; in brackets a comma may end them. -/
def takenNames : Nat → Bool → Parser (List ImportName)
  | 0, _ => unexpected
  | n + 1, inBrackets => do
    let id ← name
    let here : ImportName := ⟨id, ← binding⟩
    if ← takeOp "," then
      if ← (pure inBrackets <&&> isOp ")") then return [here]
      else return here :: (← takenNames n inBrackets)
    else return [here]

def points : Nat → Parser Nat
  | 0 => unexpected
  | n + 1 => do
    if ← takeOp "." then return (← points n) + 1
    else if ← takeOp "..." then return (← points n) + 3
    else return 0

/-- An import of names from a module, after the word `from`. -/
def importFrom (n : Nat) : Parser Statement := do
  let level ← points n
  let module ← if ← (pure (level != 0) <&&> isKeyword "import") then pure "" else dottedName n
  keyword "import"
  if ← takeOp "*" then return .importAll level module
  else if ← takeOp "(" then
    let names ← takenNames n true
    op ")"
    return .importFrom level module names
  else return .importFrom level module (← takenNames n false)

def nameList : Nat → Parser (List String)
  | 0 => unexpected
  | n + 1 => do
    let first ← name
    if ← takeOp "," then return first :: (← nameList n) else return [first]

/-- The operators that change what a name stands for. -/
def augmentations : List String :=
  ["+=", "-=", "*=", "/=", "//=", "%=", "@=", "&=", "|=", "^=", ">>=", "<<=", "**="]

/-- The further targets and the value of an assignment after some targets. -/
def assignment : Nat → List Expr → Parser Statement
  | 0, _ => unexpected
  | n + 1, before => do
    let next ← assigned n
    if ← takeOp "=" then
      if isStarTarget next then assignment n (before ++ [next]) else fail .wrong
    else return .assign before next

def expressionStatement (n : Nat) : Parser Statement := do
  let startsBare := (← get).head?.any fun t => t matches .name _
  let e ← expressions n
  match ← peek with
  | some (.op "=") =>
    skip
    if isStarTarget e then assignment n [e] else fail .wrong
  | some (.op ":") =>
    if isTarget false e then
      skip
      let isBare := match e with
        | .name _ => startsBare
        | _ => false
      let type ← expression n
      if ← takeOp "=" then return .annotate e isBare type (some (← assigned n))
      else return .annotate e isBare type none
    else unexpected
  | some (.op o) =>
    if augmentations.contains o then
      if isTarget false e then
        skip
        return .augment e (.ofList o.toList.dropLast) (← assigned n)
      else fail .wrong
    else return .expression e
  | _ => return .expression e

/-- An expression, if one can start here. -/
def optional (n : Nat) (p : Nat → Parser Expr) : Parser (Option Expr) := do
  if ← startsExpression then return some (← p n) else return none

/-- A statement without a block. -/
def simpleStatement (n : Nat) : Parser Statement := do
  match ← peek with
  | some (.keyword "pass") =>
    skip
    return .pass
  | some (.keyword "return") =>
    skip
    return .return_ (← optional n expressions)
  | some (.keyword "raise") =>
    skip
    match ← optional n expression with
    | none => return .raise none none
    | some e =>
      if ← takeKeyword "from" then return .raise (some e) (some (← expression n))
      else return .raise (some e) none
  | some (.keyword "import") =>
    skip
    return .import_ (← importNames n)
  | some (.keyword "from") =>
    skip
    importFrom n
  | some (.keyword "break") =>
    skip
    return .leave true
  | some (.keyword "continue") =>
    skip
    return .leave false
  | some (.keyword "global") =>
    skip
    return .declare true (← nameList n)
  | some (.keyword "nonlocal") =>
    skip
    return .declare false (← nameList n)
  | some (.keyword "del") =>
    skip
    let first ← starOr n false
    let rest ← seriesRest n false
    if areDeletable (first :: rest) then return .delete (first :: rest) else fail .wrong
  | some (.keyword "assert") =>
    skip
    let condition ← expression n
    if ← takeOp "," then return .check condition (some (← expression n))
    else return .check condition none
  | some (.keyword "yield") => do
    let e ← assigned n
    if ← isOp "=" then fail .wrong else return .expression e
  | _ => expressionStatement n

def isLineEnd : Parser Bool := return (← get).head?.any fun t => t matches .newline

def simpleLine : Nat → Parser (List Statement)
  | 0 => unexpected
  | n + 1 => do
    let first ← simpleStatement n
    if ← takeOp ";" then
      if ← isLineEnd then
        skip
        return [first]
      else return first :: (← simpleLine n)
    else if ← isLineEnd then
      skip
      return [first]
    else unexpected

def classArguments (n : Nat) : Parser (List Expr × List (Option String × Expr)) := do
  if ← takeOp "(" then arguments n false false else return ([], [])

/-- The items of a `with` statement up to a closing token, which stays. `inBrackets` says that a
comma may end them. -/
def managers : Nat → Bool → String → Parser (List (Expr × Option Expr))
  | 0, _, _ => unexpected
  | n + 1, inBrackets, closing => do
    let e ← expression n
    let target ← if ← takeKeyword "as" then pure (some (← target n)) else pure none
    if ← takeOp "," then
      if ← pure inBrackets <&&> isOp closing then return [(e, target)]
      else return (e, target) :: (← managers n inBrackets closing)
    else if ← isOp closing then return [(e, target)]
    else unexpected

/-- The items of a `with` statement, in brackets or not. -/
def managersBefore (n : Nat) : Parser (List (Expr × Option Expr)) := do
  let start ← get
  let bracketed : Parser (List (Expr × Option Expr)) := do
    op "("
    let items ← managers n true ")"
    op ")"
    if ← isOp ":" then return items else unexpected
  tryCatch bracketed fun _ => do
    set start
    managers n false ":"

/-- What stands after the word `match`, if it is followed by an object to choose by and nothing else
on its line. -/
def subject? (n : Nat) : Parser (Option Expr) := do
  let start ← get
  let subject : Parser Expr := do
    skip
    let first ← starOr n true
    let e ← if ← isOp "," then pure (Expr.tuple (first :: (← seriesRest n true)))
      else if first matches .starred _ then unexpected
      else pure first
    op ":"
    match ← get with
    | .newline :: rest =>
      set rest
      return e
    | _ => unexpected
  tryCatch (some <$> subject) fun _ => do
    set start
    return none

mutual

/-- The statements of a block: those of the same line, or of the indented lines below. -/
def block : Nat → Parser (List Statement)
  | 0 => unexpected
  | n + 1 => do
    op ":"
    match ← get with
    | .newline :: .indent :: rest =>
      set rest
      let body ← statements n
      match ← get with
      | .dedent :: rest =>
        set rest
        return body
      | _ => unexpected
    | .newline :: rest =>
      set rest
      fail .noBlock
    | _ => simpleLine n

/-- The statements up to the end of a block or of the text. -/
def statements : Nat → Parser (List Statement)
  | 0 => unexpected
  | n + 1 => do
    match ← peek with
    | none => return []
    | some .dedent => return []
    | _ =>
      let first ← statement n
      return first ++ (← statements n)

/-- The blocks after the conditions that did not hold. -/
def alternatives : Nat → Parser (List Statement)
  | 0 => unexpected
  | n + 1 => do
    if ← takeKeyword "elif" then
      let condition ← named n
      let yes ← block n
      return [.branch condition yes (← alternatives n)]
    else elseBlock n

def elseBlock : Nat → Parser (List Statement)
  | 0 => unexpected
  | n + 1 => do
    if ← takeKeyword "else" then block n else return []

/-- The handlers of a guarded block: with a star, where they are for groups, all of them, and
otherwise none. -/
def handlers : Nat → Bool → Parser (List (Option Expr × Option String × List Statement))
  | 0, _ => unexpected
  | n + 1, isGroup => do
    if ← takeKeyword "except" then
      if isGroup then op "*" else pure ()
      if ← pure (! isGroup) <&&> isOp ":" then
        let body ← block n
        return (none, none, body) :: (← handlers n isGroup)
      else
        let kind ← expression n
        let id ← binding
        let body ← block n
        return (some kind, id, body) :: (← handlers n isGroup)
    else return []

/-- The cases of a choice, at least one. -/
def cases : Nat → Parser (List (Pattern × Option Expr × List Statement))
  | 0 => unexpected
  | n + 1 => do
    match ← get with
    | .name "case" :: rest =>
      set rest
      let p ← casePattern n
      let condition ← if ← takeKeyword "if" then pure (some (← named n)) else pure none
      let body ← block n
      match ← get with
      | .dedent :: rest =>
        set rest
        return [(p, condition, body)]
      | _ => return (p, condition, body) :: (← cases n)
    | _ => unexpected

def functionAfter : Nat → Bool → List Expr → Parser Statement
  | 0, _, _ => unexpected
  | n + 1, isAsync, decorators => do
    let id ← name
    op "("
    let (signature, defaults, types) ← parameters n true ")" false false false
    op ")"
    let result ← if ← takeOp "->" then pure [← expression n] else pure []
    let body ← block n
    return .function ⟨id, isAsync, signature, defaults, types ++ result⟩ decorators body

def decorated : Nat → List Expr → Parser Statement
  | 0, _ => unexpected
  | n + 1, decorators => do
    match ← get with
    | .op "@" :: rest =>
      set rest
      let decorator ← named n
      if ← isLineEnd then
        skip
        decorated n (decorators ++ [decorator])
      else unexpected
    | .keyword "def" :: rest =>
      set rest
      functionAfter n false decorators
    | .keyword "async" :: .keyword "def" :: rest =>
      set rest
      functionAfter n true decorators
    | .keyword "class" :: rest =>
      set rest
      let id ← name
      let (bases, named) ← classArguments n
      return .class_ id decorators bases named (← block n)
    | _ => unexpected

/-- A statement, or the simple statements of a line. -/
def statement : Nat → Parser (List Statement)
  | 0 => unexpected
  | n + 1 => do
    match ← get with
    | .keyword "if" :: rest =>
      set rest
      let condition ← named n
      let yes ← block n
      return [.branch condition yes (← alternatives n)]
    | .keyword "while" :: rest =>
      set rest
      let condition ← named n
      let body ← block n
      return [.repeat_ condition body (← elseBlock n)]
    | .keyword "for" :: rest =>
      set rest
      loopAfter n false
    | .keyword "async" :: .keyword "for" :: rest =>
      set rest
      loopAfter n true
    | .keyword "with" :: rest =>
      set rest
      return [.managed false (← managersBefore n) (← block n)]
    | .keyword "async" :: .keyword "with" :: rest =>
      set rest
      return [.managed true (← managersBefore n) (← block n)]
    | .keyword "try" :: rest =>
      set rest
      let body ← block n
      let isGroup := match ← get with
        | .keyword "except" :: .op "*" :: _ => true
        | _ => false
      let caught ← handlers n isGroup
      let otherwise ← if caught.isEmpty then pure [] else elseBlock n
      if ← takeKeyword "finally" then
        return [.guarded isGroup body caught otherwise (← block n)]
      else if caught.isEmpty then fail .wrong
      else return [.guarded isGroup body caught otherwise []]
    | .op "@" :: _ => return [← decorated n []]
    | .keyword "def" :: _ => return [← decorated n []]
    | .keyword "async" :: _ => return [← decorated n []]
    | .keyword "class" :: _ => return [← decorated n []]
    | .name "match" :: _ =>
      match ← subject? n with
      | none => simpleLine n
      | some subject =>
        match ← get with
        | .indent :: rest =>
          set rest
          return [.select subject (← cases n)]
        | _ => fail .noBlock
    | _ => simpleLine n

def loopAfter : Nat → Bool → Parser (List Statement)
  | 0, _ => unexpected
  | n + 1, isAsync => do
    let target ← targets n
    keyword "in"
    let source ← expressions n
    let body ← block n
    return [.loop isAsync target source body (← elseBlock n)]

end

/-- The bound on the recursion for a text: between two tokens that are taken, fewer than forty
functions call one another. -/
def bound (cs : List Char) : Nat := 40 * cs.length + 40

end Parser

/-- Whether the tokens end where the text cannot be cut any further, for another reason than its
margins. -/
def endsBadly (tokens : List Token) : Bool :=
  tokens.getLast?.any fun t => t matches .bad .wrong

/-- What is wrong with a text with a fault. That it cannot be cut to its end goes before a missing
block. -/
def malformed (tokens : List Token) : Fault → Malformed
  | .token cause => cause
  | .margin => .indentation
  | .noBlock => if endsBadly tokens then .wrong else .indentation
  | .wrong => .wrong

def parse (cs : List Char) : Except Malformed (List Statement) :=
  let tokens := tokens cs
  match Parser.statements (Parser.bound cs) tokens with
  | .ok (body, []) => .ok body
  | .ok (_, left) => .error (malformed tokens (Parser.faultAt left))
  | .error fault => .error (malformed tokens fault)

end RouteDocs.Module
