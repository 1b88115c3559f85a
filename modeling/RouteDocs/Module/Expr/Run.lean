import RouteDocs.Module.Frame.Call
import RouteDocs.Module.Statement.Placed
import RouteDocs.Module.Steps

namespace RouteDocs.Module

/-- The entries of what stands behind two stars among arguments, whose keys have to be texts. -/
def namedFrom (h : Hooks) (o : Object) : Run (List (String × Object)) := do
  let w ← get
  let isMapping := (Operator.entries? w (w.content o)).isSome || o matches .unknown
  let hasKeys ← if isMapping then pure true else do pure (← o.memberOrNone h "keys").isSome
  if ! hasKeys then fail "TypeError" "argument after ** must be a mapping"
  else
    (← entriesFrom h o).mapM fun (k, v) =>
      match k with
      | .text name => return (name, v)
      | _ => fail "TypeError" "keywords must be strings"

/-- Arguments with names, of which none is given twice. -/
def checkNames (named : List (String × Object)) : Run Unit := do
  if decide (named.map Prod.fst).Nodup then return
  else fail "TypeError" "got multiple values for keyword argument"

namespace Frame

/-- The names that belong to a function, and those that it declares to be the module's. -/
def namesOfBody (owner : Option String) (signature : Signature) (body : List Statement) :
    List String × List String :=
  let place := { Place.top false with region := .function true, owner, canReturn := true }
  let mentions := (Survey.ofParameters place signature).mentions ++
    (Statement.surveyAll place body).mentions
  (Scope.locals mentions, Scope.globals mentions)

def newFunction (f : Frame) (name : String) (isAsync : Bool) (signature : Signature)
    (defaults : List (String × Object)) (body : List Statement) : Run Object := do
  let (own, globals) := namesOfBody f.owner signature body
  let function : Function := {
    name, qualified := f.lead ++ name, module := f.module, signature, defaults, body
    owner := f.owner, home := if f.own.isSome then f.home else if f.here = f.module then none
      else some f.here
    around := f.surroundings, own, globals, isAsync, isGenerator := isGenerator body
    postponed := f.postponed }
  let doc := Object.ofOption (docstring? body)
  return .entity (← create (.function function) [("__doc__", doc)])

/-- The frame of a comprehension whose names are bound in a new scope. -/
def within (f : Frame) (scope : Nat) (names : List String) : Frame :=
  { f with
    here := scope, own := some (names.map f.nameOf), globals := [], outers := []
    around := f.surroundings }

/-- The parts of items for the targets before a star, for it, and after it. -/
def spread (before after : Nat) (items : List Object) :
    List Object × List Object × List Object :=
  let rest := items.drop before
  (items.take before, rest.take (rest.length - after), rest.drop (rest.length - after))

/-- The items for targets, of which one can have a star; that one gets a list. -/
def itemsFor (h : Hooks) (stars : List Bool) (o : Object) : Run (List Object) := do
  let items ← tryCatch (o.items h) fun e => do
    let w ← get
    if w.isInstance e (.library "TypeError") then
      fail "TypeError" ("cannot unpack non-iterable " ++ Object.className w o ++ " object")
    else throw e
  if o matches .unknown then return stars.map fun _ => .unknown
  else if stars.contains true then
    let before := (stars.takeWhile (! ·)).length
    let after := stars.length - before - 1
    if items.length < before + after then
      fail "ValueError" ("not enough values to unpack (expected at least " ++
        toString (before + after) ++ ", got " ++ toString items.length ++ ")")
    else
      let (front, middle, back) := spread before after items
      return front ++ (← newList middle) :: back
  else if items.length < stars.length then
    fail "ValueError" ("not enough values to unpack (expected " ++ toString stars.length ++
      ", got " ++ toString items.length ++ ")")
  else if stars.length < items.length then
    fail "ValueError" ("too many values to unpack (expected " ++ toString stars.length ++ ")")
  else return items

/-- The text of the parts of a formatted text. -/
def joined (parts : List String) : Object := .text (String.join parts)

/-- Adds an item to those that the function gives one by one. -/
def give (f : Frame) (o : Object) : Run Unit := do
  match f.items with
  | some id => giveStep id o
  | none => return

/-- The body of a function that gives the items of a comprehension. `isFirst` says that the source of
the first clause is what the function is called with. -/
def givingBody (item : Expr) (isFirst : Bool) :
    List (Bool × Expr × Expr × List Expr) → List Statement
  | [] => [.expression (.yield (some item))]
  | (isAsync, target, source, conditions) :: rest =>
    let inner := conditions.foldr (fun condition body => [.branch condition body []])
      (givingBody item false rest)
    [.loop isAsync target (if isFirst then .name sourceName else source) inner []]
where
  /-- The name of what such a function is called with. -/
  sourceName : String := ".0"

mutual

/-- The value of an expression. -/
def value (f : Frame) : Expr → Run Object
  | .name id => f.find (f.nameOf id)
  | .none => return .null
  | .ellipsis => return .ellipsis
  | .bool b => return .bool b
  | .int n => return .int n
  | .float x => return .float x
  | .imaginary x => return .complex Number.realZero x
  | .text s => return .text s
  | .bytes content => return .bytes content
  | .formatted parts => return joined (← f.texts parts)
  | .field e conversion format => do
    let o ← f.value e
    let o ← Template.converted f.hooks conversion o
    return .text (← Template.formatted f.hooks o (String.join (← f.texts format)))
  | .attribute object name => do
    let o ← f.value object
    o.member f.hooks (f.nameOf name)
  | .call function arguments named => do
    let o ← f.value function
    let placed ← f.items_ arguments
    let named ← f.namedValues named
    checkNames named
    f.call o ⟨placed, named⟩
  | .index object key => do
    let o ← f.value object
    o.index f.hooks (← f.value key)
  | .slice first last step => do
    let first ← f.optionValue first
    let last ← f.optionValue last
    return .slice first last (← f.optionValue step)
  | .unary operator operand => do Operator.unary f.hooks operator (← f.value operand)
  | .binary operator left right => do
    let l ← f.value left
    Operator.binary f.hooks operator l (← f.value right)
  | .compare left rest => do f.compared (← f.value left) rest
  | .both left right => do
    let l ← f.value left
    if ← l.truth f.hooks then f.value right else return l
  | .either left right => do
    let l ← f.value left
    if ← l.truth f.hooks then return l else f.value right
  | .choice condition yes no => do
    if ← (← f.value condition).truth f.hooks then f.value yes else f.value no
  | .list items => do newList (← f.items_ items)
  | .tuple items => do return .tuple (← f.items_ items)
  | .set items => do newSet false (← distinct f.hooks [] (← f.items_ items))
  | .mapping entries => do newMapping (← f.entryValues [] entries)
  | .starred operand => f.value operand
  | .function signature defaults result => do
    let defaults ← f.defaultValues defaults
    f.newFunction "<lambda>" false signature defaults [.return_ (some result)]
  | .comprehension .items item _ clauses => do
    let first ← Builtin.iterator f.hooks (← f.firstSource clauses)
    let body := givingBody item true clauses
    let function ← f.newFunction "<genexpr>" false ⟨[".0"], 0, .none, [], .none⟩ [] body
    return .entity (← create (.pending function (.of [first])) [])
  | .comprehension kind item second clauses => do
    let first ← (← f.firstSource clauses).items f.hooks
    let scope ← create .scope []
    let inner := f.within scope (Expr.iterationNames clauses)
    let one : Run (Object × Object) := do
      let a ← inner.value item
      return (a, ← inner.optionValue second)
    let found ← inner.gather one (some first) clauses
    match kind with
    | .list => newList (found.map Prod.fst)
    | .set => newSet false (← distinct f.hooks [] (found.map Prod.fst))
    | .mapping => newMapping (← putKeys f.hooks [] found)
    | .items => newIterator (found.map Prod.fst)
  | .named id e => do
    let o ← f.value e
    f.bind id o
    return o
  | .await operand => do
    let _ ← f.value operand
    return .unknown
  | .yield e => do
    f.give (← f.optionValue e)
    return .null
  | .yieldAll source => do
    let items ← (← f.value source).items f.hooks
    items.forM f.give
    return .null

/-- The value of an expression, or the null value where there is none. -/
def optionValue (f : Frame) : Option Expr → Run Object
  | .none => return .null
  | .some e => f.value e

def values (f : Frame) : List Expr → Run (List Object)
  | [] => return []
  | e :: es => do
    let o ← f.value e
    return o :: (← f.values es)

def texts (f : Frame) : List Expr → Run (List String)
  | [] => return []
  | e :: es => do
    match ← f.value e with
    | .text s => return s :: (← f.texts es)
    | _ => f.texts es

/-- The values of items, where one with a star stands for several. -/
def items_ (f : Frame) : List Expr → Run (List Object)
  | [] => return []
  | .starred e :: es => do
    let all ← (← f.value e).items f.hooks
    return all ++ (← f.items_ es)
  | e :: es => do
    let o ← f.value e
    return o :: (← f.items_ es)

/-- The values of arguments with names, where one without a name stands for several. -/
def namedValues (f : Frame) : List (Option String × Expr) → Run (List (String × Object))
  | [] => return []
  | (.some name, e) :: es => do
    let o ← f.value e
    return (name, o) :: (← f.namedValues es)
  | (.none, e) :: es => do
    let all ← namedFrom f.hooks (← f.value e)
    return all ++ (← f.namedValues es)

def defaultValues (f : Frame) : List (String × Expr) → Run (List (String × Object))
  | [] => return []
  | (name, e) :: es => do
    let o ← f.value e
    return (name, o) :: (← f.defaultValues es)

/-- The entries of a mapping, where one without a key stands for several. -/
def entryValues (f : Frame) (done : List (Object × Object)) :
    List (Option Expr × Expr) → Run (List (Object × Object))
  | [] => return done
  | (.some k, e) :: es => do
    let key ← f.value k
    let o ← f.value e
    key.checkKey f.hooks
    f.entryValues (← putKey f.hooks key o done) es
  | (.none, e) :: es => do
    let o ← f.value e
    let w ← get
    let isMapping := (Operator.entries? w (w.content o)).isSome || o matches .unknown
    let hasKeys ← if isMapping then pure true else do pure (← o.memberOrNone f.hooks "keys").isSome
    if ! hasKeys then
      fail "TypeError" ("'" ++ Object.className w o ++ "' object is not a mapping")
    else f.entryValues (← putKeys f.hooks done (← entriesFrom f.hooks o)) es

/-- The value of comparisons, each with the operand before it. The first that does not hold is the
value. -/
def compared (f : Frame) (left : Object) : List (String × Expr) → Run Object
  | [] => return .bool true
  | [(operator, e)] => do Operator.compare f.hooks operator left (← f.value e)
  | (operator, e) :: rest => do
    let right ← f.value e
    let o ← Operator.compare f.hooks operator left right
    if ← o.truth f.hooks then f.compared right rest else return o

/-- The source of the first clause of a comprehension, which belongs to the scope around it. -/
def firstSource (f : Frame) : List (Bool × Expr × Expr × List Expr) → Run Object
  | [] => return .null
  | (_, _, source, _) :: _ => f.value source

/-- What a comprehension finds: `one` gives what is found in one round, and `first` are the items of
the first clause. -/
def gather (f : Frame) (one : Run (Object × Object)) (first : Option (List Object)) :
    List (Bool × Expr × Expr × List Expr) → Run (List (Object × Object))
  | [] => return [← one]
  | (_, target, source, conditions) :: rest => do
    let items ← match first with
      | .some items => pure items
      | .none => do (← f.value source).items f.hooks
    let found ← items.mapM fun o => do
      f.assign o target
      if ← f.all conditions then f.gather one .none rest else return []
    return found.flatten

def all (f : Frame) : List Expr → Run Bool
  | [] => return true
  | e :: es => do if ← (← f.value e).truth f.hooks then f.all es else return false

def assign (f : Frame) (o : Object) : Expr → Run Unit
  | .name id => f.bind id o
  | .attribute object name => do (← f.value object).setMember f.hooks (f.nameOf name) o
  | .index object key => do
    let container ← f.value object
    container.setItem f.hooks (← f.value key) o
  | .tuple targets => do
    f.assignEach (← itemsFor f.hooks (targets.map Expr.isStarred) o) targets
  | .list targets => do
    f.assignEach (← itemsFor f.hooks (targets.map Expr.isStarred) o) targets
  | .starred target => f.assign o target
  | _ => return

def assignEach (f : Frame) : List Object → List Expr → Run Unit
  | o :: os, target :: targets => do
    f.assign o target
    f.assignEach os targets
  | _, _ => return

end

end Frame
end RouteDocs.Module
