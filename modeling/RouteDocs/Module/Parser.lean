import RouteDocs.Module.Token

namespace RouteDocs.Module

/-- Why tokens are no statements. -/
inductive Fault where
  /-- The text could not be cut any further here. -/
  | token (cause : Malformed)
  /-- An indentation opens or closes a block where none can. -/
  | margin
  /-- A block is missing. -/
  | noBlock
  /-- Anything else. -/
  | wrong
  deriving DecidableEq, Repr

/-- A reader of tokens, which leaves those it does not take. -/
abbrev Parser := StateT (List Token) (Except Fault)

namespace Parser

def faultAt : List Token → Fault
  | .bad cause :: _ => .token cause
  | .indent :: _ => .margin
  | .dedent :: _ => .margin
  | _ => .wrong

def unexpected {α : Type} : Parser α := do throw (faultAt (← get))

/-- Fails with a fault, unless the text cannot be cut any further here. -/
def fail {α : Type} (fault : Fault) : Parser α := do
  match (← get).head? with
  | some (.bad cause) => throw (.token cause)
  | _ => throw fault

def peek : Parser (Option Token) := return (← get).head?

def skip : Parser Unit := modify (List.drop 1)

def isOp (o : String) : Parser Bool := return (← get).head?.any (Token.isOp o)

def isKeyword (k : String) : Parser Bool := return (← get).head?.any (Token.isKeyword k)

/-- Takes an operator if it is next; says whether it was. -/
def takeOp (o : String) : Parser Bool := do
  if ← isOp o then
    skip
    return true
  else return false

def takeKeyword (k : String) : Parser Bool := do
  if ← isKeyword k then
    skip
    return true
  else return false

/-- Takes an operator, which has to be next. -/
def op (o : String) : Parser Unit := do
  if ← takeOp o then return else unexpected

def keyword (k : String) : Parser Unit := do
  if ← takeKeyword k then return else unexpected

def name : Parser String := do
  match ← peek with
  | some (.name s) =>
    skip
    return s
  | _ => unexpected

def startsExpression : Parser Bool := do
  match ← peek with
  | some (.name _) => return true
  | some (.int _) => return true
  | some (.float _) => return true
  | some (.imaginary _) => return true
  | some (.text _) => return true
  | some (.bytes _) => return true
  | some (.formatted _) => return true
  | some (.keyword k) => return ["None", "True", "False", "not", "lambda", "await"].contains k
  | some (.op o) => return ["(", "[", "\x7b", "-", "+", "~", "...", "*"].contains o
  | _ => return false

end Parser
end RouteDocs.Module
