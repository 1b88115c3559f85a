import RouteDocs.Module.Parser
import RouteDocs.Module.Statement
import RouteDocs.Module.Token.Scan

/-!
# Expressions from tokens

* `Parser.expression`: an expression, with the usual precedence of its operators;
* `Parser.expressions`: one expression, or several with commas between them;
* `Parser.targets`: what the items of a loop are assigned to;
* `Parser.parameters`: the parameters of a function.

The functions recurse on a bound on the number of steps.
-/

namespace RouteDocs.Module.Parser

/-! ### Targets -/

mutual

/-- Whether something can be assigned to an expression. `several` allows several targets at once. -/
def isTarget (several : Bool) : Expr → Bool
  | .name _ => true
  | .attribute .. => true
  | .index .. => true
  | .tuple items => several && areTargets items
  | .list items => several && areTargets items
  | _ => false

def areTargets : List Expr → Bool
  | [] => true
  | .starred e :: es => isTarget true e && areTargets es
  | e :: es => isTarget true e && areTargets es

end

/-- Whether something can be assigned to an expression that may have a star. -/
def isStarTarget : Expr → Bool
  | .starred e => isTarget true e
  | e => isTarget true e

mutual

def isDeletable : Expr → Bool
  | .name _ => true
  | .attribute .. => true
  | .index .. => true
  | .tuple items => areDeletable items
  | .list items => areDeletable items
  | _ => false

def areDeletable : List Expr → Bool
  | [] => true
  | e :: es => isDeletable e && areDeletable es

end

/-! ### Operators -/

/-- The operators between operands from the loosest level to the tightest. -/
def levels : List (List String) :=
  [["|"], ["^"], ["&"], ["<<", ">>"], ["+", "-"], ["*", "/", "//", "%", "@"]]

def comparisons : List String := ["<", ">", "==", "!=", "<=", ">="]

/-- The operator of a comparison, if one is next, and the tokens after it. -/
def comparison? : List Token → Option (String × List Token)
  | .op o :: rest => if comparisons.contains o then some (o, rest) else none
  | .keyword "in" :: rest => some ("in", rest)
  | .keyword "not" :: .keyword "in" :: rest => some ("not in", rest)
  | .keyword "is" :: .keyword "not" :: rest => some ("is not", rest)
  | .keyword "is" :: rest => some ("is", rest)
  | _ => none

/-! ### Literals side by side -/

def isLiteral : Token → Bool
  | .text _ => true
  | .bytes _ => true
  | .formatted .. => true
  | _ => false

def joinedBytes : List Token → Option (List UInt8)
  | [] => some []
  | .bytes content :: rest => (joinedBytes rest).map (content ++ ·)
  | _ => none

/-- The parts of formatted literals with neighbouring texts joined and empty ones left out. -/
def joinTexts : List Expr → List Expr
  | [] => []
  | .text s :: rest =>
    match joinTexts rest with
    | .text t :: more => .text (s ++ t) :: more
    | more => if s.isEmpty then more else .text s :: more
  | e :: rest => e :: joinTexts rest

/-! ### Expressions -/

/-- The tokens of the expression in a field, which stands between brackets. -/
def fieldTokens (code : List Char) : List Token := tokens ('(' :: code ++ [')'])

mutual

def expression : Nat → Parser Expr
  | 0 => unexpected
  | n + 1 => do
    if ← takeKeyword "lambda" then
      let (signature, defaults, _) ← parameters n false ":" false false false
      op ":"
      return .function signature defaults (← expression n)
    else
      let yes ← disjunction n
      if ← takeKeyword "if" then
        let condition ← disjunction n
        keyword "else"
        return .choice condition yes (← expression n)
      else return yes

/-- An expression that may bind a name to its value. -/
def named : Nat → Parser Expr
  | 0 => unexpected
  | n + 1 => do
    match ← get with
    | .name id :: .op ":=" :: rest =>
      set rest
      return .named id (← expression n)
    | _ => expression n

/-- Operands with `or` between them. -/
def disjunction : Nat → Parser Expr
  | 0 => unexpected
  | n + 1 => do
    let left ← conjunction n
    if ← takeKeyword "or" then return .either left (← disjunction n) else return left

/-- Operands with `and` between them. -/
def conjunction : Nat → Parser Expr
  | 0 => unexpected
  | n + 1 => do
    let left ← negation n
    if ← takeKeyword "and" then return .both left (← conjunction n) else return left

/-- A comparison with `not` before it, or not. -/
def negation : Nat → Parser Expr
  | 0 => unexpected
  | n + 1 => do
    if ← takeKeyword "not" then return .unary "not" (← negation n)
    else
      let left ← operation n levels
      match ← comparisonRest n with
      | [] => return left
      | rest => return .compare left rest

/-- The comparisons that follow an operand; several hold together. -/
def comparisonRest : Nat → Parser (List (String × Expr))
  | 0 => unexpected
  | n + 1 => do
    match comparison? (← get) with
    | none => return []
    | some (o, rest) =>
      set rest
      let right ← operation n levels
      return (o, right) :: (← comparisonRest n)

/-- Operands with the operators of the given levels between them. -/
def operation : Nat → List (List String) → Parser Expr
  | 0, _ => unexpected
  | n + 1, [] => factor n
  | n + 1, ops :: tighter => do
    let left ← operation n tighter
    operationRest n ops tighter left

/-- The further operands of one level after a left operand. -/
def operationRest : Nat → List String → List (List String) → Expr → Parser Expr
  | 0, _, _, _ => unexpected
  | n + 1, ops, tighter, left => do
    match ← peek with
    | some (.op o) =>
      if ops.contains o then
        skip
        let right ← operation n tighter
        operationRest n ops tighter (.binary o left right)
      else return left
    | _ => return left

/-- An operand with signs before it and a power after it. -/
def factor : Nat → Parser Expr
  | 0 => unexpected
  | n + 1 => do
    match ← peek with
    | some (.op o) =>
      if ["-", "+", "~"].contains o then
        skip
        return .unary o (← factor n)
      else power n
    | _ => power n

/-- An operand with an exponent, or not. -/
def power : Nat → Parser Expr
  | 0 => unexpected
  | n + 1 => do
    let waits ← takeKeyword "await"
    let base ← atom n
    let base ← trailers n base
    let base := if waits then .await base else base
    if ← takeOp "**" then return .binary "**" base (← factor n) else return base

/-- What follows an operand: attributes, calls and keys. -/
def trailers : Nat → Expr → Parser Expr
  | 0, _ => unexpected
  | n + 1, e => do
    if ← takeOp "." then
      let member ← name
      trailers n (.attribute e member)
    else if ← takeOp "(" then
      let (arguments, named) ← callArguments n
      trailers n (.call e arguments named)
    else if ← takeOp "[" then
      let key ← subscript n
      op "]"
      trailers n (.index e key)
    else return e

/-- What stands between the brackets after an operand. -/
def subscript : Nat → Parser Expr
  | 0 => unexpected
  | n + 1 => do
    let first ← slice n
    if ← isOp "," then return .tuple (first :: (← subscriptRest n))
    else
      match first with
      | .starred _ => return .tuple [first]
      | _ => return first

/-- The further parts between the brackets after an operand. -/
def subscriptRest : Nat → Parser (List Expr)
  | 0 => unexpected
  | n + 1 => do
    if ← takeOp "," then
      if ← isOp "]" then return []
      else
        let next ← slice n
        return next :: (← subscriptRest n)
    else return []

/-- An end of a range of keys, if it is not left out. -/
def sliceEnd : Nat → Parser (Option Expr)
  | 0 => unexpected
  | n + 1 => do
    if ← pure (! (← isOp "*")) <&&> startsExpression then return some (← expression n)
    else return none

/-- A key, one with a star, or a range of keys with any of its ends left out. -/
def slice : Nat → Parser Expr
  | 0 => unexpected
  | n + 1 => do
    if ← takeOp "*" then return .starred (← operation n levels)
    else
      let first ← if ← startsExpression then pure (some (← named n)) else pure none
      let isBinding := match first with
        | some (.named ..) => true
        | _ => false
      if ← pure (! isBinding) <&&> takeOp ":" then
        let last ← sliceEnd n
        let step ← if ← takeOp ":" then sliceEnd n else pure none
        return .slice first last step
      else
        match first with
        | some e => return e
        | none => unexpected

/-- The arguments of a call after its opening bracket. A comprehension can stand alone. -/
def callArguments : Nat → Parser (List Expr × List (Option String × Expr))
  | 0 => unexpected
  | n + 1 => do
    match ← get with
    | .op ")" :: _ => arguments n false false
    | .op "*" :: _ => arguments n false false
    | .op "**" :: _ => arguments n false false
    | .name _ :: .op "=" :: _ => arguments n false false
    | _ =>
      let first ← named n
      let clauses ← clauses n
      if clauses.isEmpty then
        if ← takeOp "," then
          let (more, named) ← arguments n false false
          return (first :: more, named)
        else
          op ")"
          return ([first], [])
      else
        op ")"
        return ([.comprehension .items first none clauses], [])

/-- The arguments of a call from here on up to its closing bracket. `keys` says that an argument
with a name stood before, and `mappings` that one with two stars did. -/
def arguments : Nat → Bool → Bool → Parser (List Expr × List (Option String × Expr))
  | 0, _, _ => unexpected
  | n + 1, keys, mappings => do
    if ← takeOp ")" then return ([], [])
    else
      let (positional, named, keys, mappings) ← match ← get with
        | .name key :: .op "=" :: rest => do
          set rest
          pure ([], [(some key, ← expression n)], true, mappings)
        | .op "*" :: rest => do
          if mappings then unexpected
          else
            set rest
            pure ([Expr.starred (← expression n)], [], keys, mappings)
        | .op "**" :: rest => do
          set rest
          pure ([], [(none, ← expression n)], keys, true)
        | _ => do
          if keys || mappings then unexpected
          else
            let e ← Parser.named n
            pure ([e], [], keys, mappings)
      if ← takeOp "," then
        let (more, moreNamed) ← arguments n keys mappings
        return (positional ++ more, named ++ moreNamed)
      else
        op ")"
        return (positional, named)

def clauses : Nat → Parser (List (Bool × Expr × Expr × List Expr))
  | 0 => unexpected
  | n + 1 => do
    let isAsync ← takeKeyword "async"
    if ← takeKeyword "for" then
      let target ← targets n
      keyword "in"
      let source ← disjunction n
      let conditions ← conditions n
      return (isAsync, target, source, conditions) :: (← clauses n)
    else if isAsync then unexpected
    else return []

def conditions : Nat → Parser (List Expr)
  | 0 => unexpected
  | n + 1 => do
    if ← takeKeyword "if" then
      let first ← disjunction n
      return first :: (← conditions n)
    else return []

/-- One target, which may have a star. -/
def target : Nat → Parser Expr
  | 0 => unexpected
  | n + 1 => do
    let hasStar ← takeOp "*"
    let e ← operation n levels
    if isTarget true e then return if hasStar then .starred e else e else fail .wrong

/-- One target, or several with commas between them. -/
def targets : Nat → Parser Expr
  | 0 => unexpected
  | n + 1 => do
    let first ← target n
    if ← isOp "," then return .tuple (first :: (← targetsRest n)) else return first

/-- The further targets with commas before them; a comma may end them. -/
def targetsRest : Nat → Parser (List Expr)
  | 0 => unexpected
  | n + 1 => do
    if ← takeOp "," then
      if ← startsExpression then
        let next ← target n
        return next :: (← targetsRest n)
      else return []
    else return []

/-- An expression that may have a star before it. `binds` says that it may bind a name. -/
def starOr : Nat → Bool → Parser Expr
  | 0, _ => unexpected
  | n + 1, binds => do
    if ← takeOp "*" then return .starred (← operation n levels)
    else if binds then named n
    else expression n

/-- Expressions with commas before them; a comma may end them. -/
def seriesRest : Nat → Bool → Parser (List Expr)
  | 0, _ => unexpected
  | n + 1, binds => do
    if ← takeOp "," then
      if ← startsExpression then
        let next ← starOr n binds
        return next :: (← seriesRest n binds)
      else return []
    else return []

/-- One expression, or a tuple of several without brackets. -/
def expressions : Nat → Parser Expr
  | 0 => unexpected
  | n + 1 => do
    let first ← starOr n false
    if ← isOp "," then return .tuple (first :: (← seriesRest n false)) else return first

/-- What can be assigned: one expression, several, or what is yielded. -/
def assigned : Nat → Parser Expr
  | 0 => unexpected
  | n + 1 => do
    if ← takeKeyword "yield" then
      if ← takeKeyword "from" then return .yieldAll (← expression n)
      else if ← startsExpression then return .yield (some (← expressions n))
      else return .yield none
    else expressions n

/-- A name, a literal, or an expression in brackets. -/
def atom : Nat → Parser Expr
  | 0 => unexpected
  | n + 1 => do
    let tokens ← get
    match tokens with
    | .name id :: rest =>
      set rest
      return .name id
    | .int k :: rest =>
      set rest
      return .int k
    | .float x :: rest =>
      set rest
      return .float x
    | .imaginary x :: rest =>
      set rest
      return .imaginary x
    | .text _ :: _ => literals n
    | .bytes _ :: _ => literals n
    | .formatted _ :: _ => literals n
    | .keyword "None" :: rest =>
      set rest
      return .none
    | .keyword "True" :: rest =>
      set rest
      return .bool true
    | .keyword "False" :: rest =>
      set rest
      return .bool false
    | .op "..." :: rest =>
      set rest
      return .ellipsis
    | .op "(" :: rest =>
      set rest
      inRound n
    | .op "[" :: rest =>
      set rest
      inSquare n
    | .op "\x7b" :: rest =>
      set rest
      inBraces n
    | _ => unexpected

/-- The literals that stand side by side from here on, as one. -/
def literals : Nat → Parser Expr
  | 0 => unexpected
  | n + 1 => do
    let all := (← get).takeWhile isLiteral
    set ((← get).drop all.length)
    match joinedBytes all with
    | some content => return .bytes content
    | none =>
      if all.any (fun t => t matches .bytes _) then throw .wrong
      else
        let parts ← literalParts n all
        if all.any (fun t => t matches .formatted _) then return .formatted (joinTexts parts)
        else
          match joinTexts parts with
          | [.text s] => return .text s
          | _ => return .text ""

def literalParts : Nat → List Token → Parser (List Expr)
  | 0, _ => unexpected
  | _ + 1, [] => return []
  | n + 1, .text s :: rest => do return .text s :: (← literalParts n rest)
  | n + 1, .formatted pieces :: rest => do
    let first ← pieceParts n pieces
    return first ++ (← literalParts n rest)
  | n + 1, _ :: rest => literalParts n rest

/-- The parts of a formatted literal, with the expressions in its fields. -/
def pieceParts : Nat → List Piece → Parser (List Expr)
  | 0, _ => unexpected
  | _ + 1, [] => return []
  | n + 1, .text s :: rest => do return .text s :: (← pieceParts n rest)
  | n + 1, .field code conversion format :: rest => do
    let outer ← get
    set (fieldTokens code)
    let value ← expressionsInField n
    set outer
    let format ← pieceParts n format
    return .field value conversion (joinTexts format) :: (← pieceParts n rest)

/-- All tokens of a field, as one expression. -/
def expressionsInField : Nat → Parser Expr
  | 0 => unexpected
  | n + 1 => do
    let value ← expressions n
    match ← get with
    | [] => return value
    | [.newline] => return value
    | _ => throw .wrong

/-- What stands after an opening round bracket, up to the closing one. -/
def inRound : Nat → Parser Expr
  | 0 => unexpected
  | n + 1 => do
    if ← takeOp ")" then return .tuple []
    else if ← isKeyword "yield" then
      let e ← assigned n
      op ")"
      return e
    else
      let first ← starOr n true
      if ← isOp "," then
        let rest ← seriesRest n true
        op ")"
        return .tuple (first :: rest)
      else
        match first with
        | .starred _ => unexpected
        | _ =>
          let clauses ← clauses n
          op ")"
          return if clauses.isEmpty then first else .comprehension .items first none clauses

/-- What stands after an opening square bracket, up to the closing one. -/
def inSquare : Nat → Parser Expr
  | 0 => unexpected
  | n + 1 => do
    if ← takeOp "]" then return .list []
    else
      let first ← starOr n true
      let isStarred := match first with
        | .starred _ => true
        | _ => false
      let clauses ← if isStarred then pure [] else clauses n
      if clauses.isEmpty then
        let rest ← seriesRest n true
        op "]"
        return .list (first :: rest)
      else
        op "]"
        return .comprehension .list first none clauses

/-- What stands after an opening brace, up to the closing one. -/
def inBraces : Nat → Parser Expr
  | 0 => unexpected
  | n + 1 => do
    if ← takeOp "\x7d" then return .mapping []
    else if ← takeOp "**" then
      let e ← operation n levels
      entriesRest n [(none, e)]
    else
      let first ← starOr n true
      let isKey := match first with
        | .starred _ => false
        | .named .. => false
        | _ => true
      if ← pure isKey <&&> takeOp ":" then
        let value ← expression n
        let clauses ← clauses n
        if clauses.isEmpty then entriesRest n [(some first, value)]
        else
          op "\x7d"
          return .comprehension .mapping first (some value) clauses
      else
        let isStarred := match first with
          | .starred _ => true
          | _ => false
        let clauses ← if isStarred then pure [] else clauses n
        if clauses.isEmpty then
          let rest ← seriesRest n true
          op "\x7d"
          return .set (first :: rest)
        else
          op "\x7d"
          return .comprehension .set first none clauses

/-- The further entries of a mapping up to its closing brace. -/
def entriesRest : Nat → List (Option Expr × Expr) → Parser Expr
  | 0, _ => unexpected
  | n + 1, done => do
    if ← takeOp "\x7d" then return .mapping done
    else
      op ","
      if ← takeOp "\x7d" then return .mapping done
      else if ← takeOp "**" then
        let e ← operation n levels
        entriesRest n (done ++ [(none, e)])
      else
        let key ← expression n
        op ":"
        let value ← expression n
        entriesRest n (done ++ [(some key, value)])

/-- The type after a parameter, where types can be given and one is. `hasStar` says that it may have
a star. -/
def type? : Nat → Bool → Bool → Parser (List Expr)
  | 0, _, _ => unexpected
  | n + 1, typed, hasStar => do
    if ← pure typed <&&> takeOp ":" then
      if ← pure hasStar <&&> takeOp "*" then return [.starred (← operation n levels)]
      else return [← expression n]
    else return []

/-- The parameters of a function from here on up to a closing token, which stays: their names, the
values they have by default, and their types. Types can be given where `typed` holds; `hasDefault`
says that a parameter before had a default, and `slashSeen` and `starSeen` that these signs stood
before. -/
def parameters : Nat → Bool → String → Bool → Bool → Bool →
    Parser (Signature × List (String × Expr) × List Expr)
  | 0, _, _, _, _, _ => unexpected
  | n + 1, typed, closing, hasDefault, slashSeen, starSeen => do
    if ← isOp closing then return (.empty, [], [])
    else if ← takeOp "**" then
      let id ← name
      let types ← type? n typed false
      let _ ← takeOp ","
      if ← isOp closing then return ({ Signature.empty with restNamed := some id }, [], types)
      else unexpected
    else if ← takeOp "*" then
      if starSeen then unexpected
      else if ← isOp "," then
        match (← get).drop 1 with
        | .name _ :: _ =>
          skip
          parameters n typed closing hasDefault true true
        | _ => unexpected
      else
        let id ← name
        let types ← type? n typed true
        let (s, defaults, more) ← moreParameters n typed closing hasDefault true true
        return ({ s with rest := some id }, defaults, types ++ more)
    else
      let id ← name
      let types ← type? n typed false
      let own ← if ← takeOp "=" then pure [(id, ← expression n)] else pure []
      if own.isEmpty && hasDefault && ! starSeen then unexpected
      else
        let hasDefault := hasDefault || ! own.isEmpty
        let slash ← match ← get with
          | .op "," :: .op "/" :: rest => do
            if slashSeen || starSeen then unexpected
            else
              set rest
              pure true
          | _ => pure false
        let (s, defaults, more) ←
          moreParameters n typed closing hasDefault (slashSeen || slash) starSeen
        let s := if starSeen then { s with nameOnly := id :: s.nameOnly }
          else
            let before := if slash || 0 < s.positionOnly then s.positionOnly + 1 else 0
            { s with names := id :: s.names, positionOnly := before }
        return (s, own ++ defaults, types ++ more)

/-- The parameters after a comma, if one is next, up to a closing token. -/
def moreParameters : Nat → Bool → String → Bool → Bool → Bool →
    Parser (Signature × List (String × Expr) × List Expr)
  | 0, _, _, _, _, _ => unexpected
  | n + 1, typed, closing, hasDefault, slashSeen, starSeen => do
    if ← takeOp "," then parameters n typed closing hasDefault slashSeen starSeen
    else if ← isOp closing then return (.empty, [], [])
    else unexpected

end

end RouteDocs.Module.Parser
