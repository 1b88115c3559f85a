import RouteDocs.Decimal.Binary64

namespace RouteDocs.Module

/-- The names of the parameters of a function: those that are given by their places, of which the
first `positionOnly` cannot be given by name; the one for all further arguments; those that can only
be given by name; and the one for all further arguments with names. -/
structure Signature where
  names : List String
  positionOnly : Nat
  rest : Option String
  nameOnly : List String
  restNamed : Option String
  deriving DecidableEq, Repr, Inhabited

namespace Signature

def empty : Signature := ⟨[], 0, none, [], none⟩

/-- All names, in the order in which they are bound. -/
def allNames (s : Signature) : List String :=
  s.names ++ s.nameOnly ++ s.rest.toList ++ s.restNamed.toList

end Signature

inductive Gathering where
  | list
  | set
  | mapping
  | items
  deriving DecidableEq, Repr, Inhabited

/-- An expression.

* `formatted` has parts that are texts or fields, and a `field` has a value, the letter of a
  conversion and the parts of its format;
* the arguments of `call` can have stars, and a named argument without a name stands for a mapping;
* an entry of `mapping` without a key stands for a mapping;
* `comprehension` has an item, or a key and its value, and clauses with targets, a source and
  conditions, each of which can be asynchronous. -/
inductive Expr where
  | name (id : String)
  | none
  | ellipsis
  | bool (b : Bool)
  | int (n : Nat)
  | float (x : Binary64)
  | imaginary (x : Binary64)
  | text (s : String)
  | bytes (content : List UInt8)
  | formatted (parts : List Expr)
  | field (value : Expr) (conversion : Option Char) (format : List Expr)
  | attribute (object : Expr) (name : String)
  | call (function : Expr) (arguments : List Expr) (named : List (Option String × Expr))
  | index (object key : Expr)
  | slice (first last step : Option Expr)
  | unary (op : String) (operand : Expr)
  | binary (op : String) (left right : Expr)
  | compare (left : Expr) (rest : List (String × Expr))
  | both (left right : Expr)
  | either (left right : Expr)
  | choice (condition yes no : Expr)
  | list (items : List Expr)
  | tuple (items : List Expr)
  | set (items : List Expr)
  | mapping (entries : List (Option Expr × Expr))
  | starred (operand : Expr)
  | function (signature : Signature) (defaults : List (String × Expr)) (result : Expr)
  | comprehension (kind : Gathering) (item : Expr) (value : Option Expr)
      (clauses : List (Bool × Expr × Expr × List Expr))
  | named (id : String) (value : Expr)
  | await (operand : Expr)
  | yield (value : Option Expr)
  | yieldAll (source : Expr)
  deriving Inhabited

/-- A name to take from a module, and the name to bind it to. -/
structure ImportName where
  name : String
  binding : Option String
  deriving DecidableEq, Repr, Inhabited

/-- What stands before the body of a function: its name, the names of its parameters, the values
they have by default, and their types and that of the result. -/
structure Head where
  name : String
  isAsync : Bool
  signature : Signature
  defaults : List (String × Expr)
  types : List Expr
  deriving Inhabited

/-- A pattern that an object can match.

* `value` is matched by what is equal to it, and `constant` only by the constant itself;
* `capture` is matched by everything, and binds it where there is a name;
* `star` stands in a sequence for any number of items;
* `mapping` is matched where the keys have values that match, and binds the other entries;
* `class_` is matched by instances whose members match. -/
inductive Pattern where
  | value (e : Expr)
  | constant (e : Expr)
  | capture (name : Option String)
  | star (name : Option String)
  | sequence (items : List Pattern)
  | mapping (entries : List (Expr × Pattern)) (rest : Option String)
  | class_ (c : Expr) (placed : List Pattern) (named : List (String × Pattern))
  | either (choices : List Pattern)
  | bound (p : Pattern) (name : String)
  deriving Inhabited

def Pattern.isStarred : Pattern → Bool
  | .star _ => true
  | _ => false

/-- A statement. A handler of `guarded` has the classes that it is for, a name for what is raised
and a body; a case of `select` has a pattern, a condition and a body; `isBare` in `annotate` says that
the target is a name without brackets. -/
inductive Statement where
  | expression (e : Expr)
  | assign (targets : List Expr) (value : Expr)
  | augment (target : Expr) (op : String) (value : Expr)
  | annotate (target : Expr) (isBare : Bool) (type : Expr) (value : Option Expr)
  | function (head : Head) (decorators : List Expr) (body : List Statement)
  | class_ (name : String) (decorators bases : List Expr) (named : List (Option String × Expr))
      (body : List Statement)
  | pass
  | return_ (value : Option Expr)
  | raise (value cause : Option Expr)
  | import_ (names : List ImportName)
  | importFrom (level : Nat) (module : String) (names : List ImportName)
  | importAll (level : Nat) (module : String)
  | branch (condition : Expr) (yes no : List Statement)
  | repeat_ (condition : Expr) (body otherwise : List Statement)
  | loop (isAsync : Bool) (target source : Expr) (body otherwise : List Statement)
  | managed (isAsync : Bool) (items : List (Expr × Option Expr)) (body : List Statement)
  | guarded (isGroup : Bool) (body : List Statement)
      (handlers : List (Option Expr × Option String × List Statement))
      (otherwise final : List Statement)
  | select (subject : Expr) (cases : List (Pattern × Option Expr × List Statement))
  | delete (targets : List Expr)
  | declare (isGlobal : Bool) (names : List String)
  | check (condition : Expr) (message : Option Expr)
  | leave (isBreak : Bool)
  deriving Inhabited

/-- The documentation at the start of a body: a text that is the whole first statement. -/
def docstring? : List Statement → Option String
  | .expression (.text s) :: _ => some s
  | _ => none

end RouteDocs.Module
