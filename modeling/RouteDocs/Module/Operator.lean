import RouteDocs.Module.Template

namespace RouteDocs.Module.Operator

/-- The name of the methods for an operator, without what stands around it. -/
def stem (operator : String) : String :=
  match operator with
  | "+" => "add"
  | "-" => "sub"
  | "*" => "mul"
  | "/" => "truediv"
  | "//" => "floordiv"
  | "%" => "mod"
  | "**" => "pow"
  | "@" => "matmul"
  | "<<" => "lshift"
  | ">>" => "rshift"
  | "&" => "and"
  | "|" => "or"
  | _ => "xor"

def mostRepeated : Nat := 10000000

def repeated {α : Type} (n : Int) (items : List α) : List α :=
  (List.replicate n.toNat items).flatten

/-- A collection so many times, if it is not too large. -/
def repeatWith {α : Type} (n : Int) (items : List α) (make : List α → Run Object) : Run Object :=
  if mostRepeated < n.toNat * items.length then return .unknown else make (repeated n items)

def repeat? (o : Object) (n : Int) : Option (Run Object) :=
  match o with
  | .text s => some (repeatWith n s.toList fun cs => return .text (.ofList cs))
  | .bytes content => some (repeatWith n content fun bs => return .bytes bs)
  | .tuple items => some (repeatWith n items fun is => return .tuple is)
  | _ => none

def setItems? (w : World) : Object → Option (Bool × List Object)
  | .entity id =>
    match w.kind? id with
    | some (.set isFrozen items) => some (isFrozen, items)
    | _ => none
  | _ => none

def entries? (w : World) : Object → Option (List (Object × Object))
  | .entity id =>
    match w.kind? id with
    | some (.mapping entries) => some entries
    | _ => none
  | _ => none

/-- The items that are among others, or are not. -/
def select (h : Hooks) (among : Bool) (others : List Object) :
    List Object → Run (List Object)
  | [] => return []
  | o :: os => do
    let isAmong ← Object.isAmong (Object.equal h) o others
    let rest ← select h among others os
    return if isAmong == among then o :: rest else rest

def ofSets (h : Hooks) (operator : String) (a b : List Object) : Run (Option (List Object)) := do
  match operator with
  | "|" => return some (← distinct h a b)
  | "&" => return some (← select h true b a)
  | "-" => return some (← select h false b a)
  | "^" => return some ((← select h false b a) ++ (← select h false a b))
  | _ => return none

def choices? (w : World) : Object → Option (List Object)
  | .union members => some members
  | .null => some [.null]
  | .alias origin arguments => some [.alias origin arguments]
  | o => (w.classRef? o).map fun _ => [o]

def unionOf (w : World) (a b : Object) : Option Object :=
  if a matches .null && b matches .null then none
  else
    match choices? w a, choices? w b with
    | some xs, some ys =>
      let all := (xs ++ ys).foldl (fun done o => if done.contains o then done else done ++ [o]) []
      match all with
      | [one] => some one
      | all => some (.union all)
    | _, _ => none

/-- Whether an object is of the library and not known. -/
def isUnknown (o : Object) : Bool :=
  match o with
  | .unknown => true
  | .library path => Library.meaning path = .other
  | _ => false

/-- The result of an operator on objects of the library, if it has one. -/
def plain? (h : Hooks) (operator : String) (left right : Object) : Run (Option Object) := do
  let w ← get
  let a := w.content left
  let b := w.content right
  if isUnknown a || isUnknown b then return some .unknown
  else
    match operator, a, b with
    | "+", .text s, .text t => return some (.text (s ++ t))
    | "+", .bytes s, .bytes t => return some (.bytes (s ++ t))
    | "+", .tuple s, .tuple t => return some (.tuple (s ++ t))
    | "%", .text s, _ => return some (← Template.fillIn h s right)
    | "%", .bytes _, _ => return some .unknown
    | "&", .bool s, .bool t => return some (.bool (s && t))
    | "|", .bool s, .bool t => return some (.bool (s || t))
    | "^", .bool s, .bool t => return some (.bool (s != t))
    | _, _, _ =>
      match a.number?, b.number? with
      | some m, some n => return (← orFail (m.combine operator n)).map Number.object
      | _, _ =>
        match ← collections w operator a b with
        | some o => return some o
        | none => return if operator = "|" then unionOf w left right else none
where
  /-- The result of an operator on collections. -/
  collections (w : World) (operator : String) (a b : Object) : Run (Option Object) := do
    match operator, Object.list? w a, Object.list? w b with
    | "+", some (_, xs), some (_, ys) => return some (← newList (xs ++ ys))
    | "*", some (_, xs), none =>
      match ← indexOrNone b with
      | some n => return some (← repeatWith n xs newList)
      | none => return none
    | "*", none, some (_, ys) =>
      match ← indexOrNone a with
      | some n => return some (← repeatWith n ys newList)
      | none => return none
    | "*", none, none =>
      match (← indexOrNone b).bind (repeat? a), (← indexOrNone a).bind (repeat? b) with
      | some run, _ => return some (← run)
      | none, some run => return some (← run)
      | none, none => return none
    | _, _, _ =>
      match setItems? w a, setItems? w b with
      | some (isFrozen, xs), some (_, ys) =>
        match ← ofSets h operator xs ys with
        | some items => return some (← newSet isFrozen items)
        | none => return none
      | _, _ =>
        match operator, entries? w a, entries? w b with
        | "|", some xs, some ys => return some (← newMapping (← putKeys h xs ys))
        | _, _, _ => return none
  /-- The integer that an object stands for as an index, if it stands for one. -/
  indexOrNone (o : Object) : Run (Option Int) := o.index? h

/-- Raises what there is to raise when an operator has no result. -/
def failFor {α : Type} (operator : String) (a b : Object) : Run α := do
  let w ← get
  let left := Object.className w a
  let right := Object.className w b
  let shownOperator := if operator = "**" then "** or pow()" else operator
  match operator, w.content a, Object.list? w a with
  | "+", .text _, _ =>
    fail "TypeError" ("can only concatenate str (not \"" ++ right ++ "\") to str")
  | "+", .tuple _, _ =>
    fail "TypeError" ("can only concatenate tuple (not \"" ++ right ++ "\") to tuple")
  | "+", _, some _ =>
    fail "TypeError" ("can only concatenate list (not \"" ++ right ++ "\") to list")
  | "*", .text _, _ =>
    fail "TypeError" ("can't multiply sequence by non-int of type '" ++ right ++ "'")
  | "*", .tuple _, _ =>
    fail "TypeError" ("can't multiply sequence by non-int of type '" ++ right ++ "'")
  | "*", _, some _ =>
    fail "TypeError" ("can't multiply sequence by non-int of type '" ++ right ++ "'")
  | _, _, _ =>
    fail "TypeError" ("unsupported operand type(s) for " ++ shownOperator ++ ": '" ++ left ++
      "' and '" ++ right ++ "'")

/-- The result of a method of the first object for an operator. -/
def special? (h : Hooks) (name : String) (a b : Object) : Run (Option Object) := do
  match ← a.callSpecial? h name [b] with
  | some o => return if o.isNotImplemented then none else some o
  | none => return none

/-- The result of an operator between two objects, if it has one. -/
def binary? (h : Hooks) (operator : String) (a b : Object) : Run (Option Object) := do
  let w ← get
  let forward := "__" ++ stem operator ++ "__"
  let backward := "__r" ++ stem operator ++ "__"
  let isSwapped := w.classOf a != w.classOf b && w.isBelow (w.classOf b) (w.classOf a) &&
    (w.special? b backward).isSome
  let first ← if isSwapped then special? h backward b a else pure none
  let second ← if first.isSome then pure first else special? h forward a b
  let third ←
    if second.isSome || isSwapped || w.classOf a == w.classOf b then pure second
    else special? h backward b a
  match third with
  | some o => return some o
  | none => plain? h operator a b

def binary (h : Hooks) (operator : String) (a b : Object) : Run Object := do
  match ← binary? h operator a b with
  | some o => return o
  | none => failFor operator a b

/-- The result of an operator on an object that can be changed, where it changes it. -/
def inPlace (h : Hooks) (operator : String) (a b : Object) : Run Object := do
  match ← special? h ("__i" ++ stem operator ++ "__") a b with
  | some o => return o
  | none =>
    let w ← get
    let inner := w.content a
    match operator, Object.list? w inner, setItems? w inner, entries? w inner with
    | "+", some (id, items), _, _ =>
      let more ← b.items h
      modify fun w => w.setKind id (.list (items ++ more))
      return a
    | "*", some (id, items), _, _ =>
      match ← b.index? h with
      | some n =>
        modify fun w => w.setKind id (.list (repeated n items))
        return a
      | none => failFor operator a b
    | _, _, some (false, items), _ =>
      match inner, setItems? w (w.content b) with
      | .entity id, some (_, others) =>
        match ← ofSets h operator items others with
        | some items =>
          modify fun w => w.setKind id (.set false (inSetOrder items))
          return a
        | none => binary h operator a b
      | _, _ => binary h operator a b
    | "|", _, _, some entries =>
      match inner, entries? w (w.content b) with
      | .entity id, some others =>
        let entries ← putKeys h entries others
        modify fun w => w.setKind id (.mapping entries)
        return a
      | _, _ => binary h operator a b
    | _, _, _, _ => binary h operator a b

def unary (h : Hooks) (operator : String) (o : Object) : Run Object := do
  if operator = "not" then return .bool (! (← o.truth h))
  else
    let name := match operator with
      | "-" => "__neg__"
      | "+" => "__pos__"
      | _ => "__invert__"
    match ← o.callSpecial? h name [] with
    | some result => return result
    | none =>
      let w ← get
      if isUnknown o then return .unknown
      else
        match operator, (w.content o).number? with
        | "-", some n => return n.negate.object
        | "+", some n => return n.object
        | "~", some (.int n) => return .int (-n - 1)
        | _, _ =>
          fail "TypeError" ("bad operand type for unary " ++ operator ++ ": '" ++
            Object.className w o ++ "'")

/-- The result of a comparison, of which there are also those for one and the same object and for
what is among others. -/
def compare (h : Hooks) (operator : String) (a b : Object) : Run Object := do
  match operator with
  | "is" => if isUnknown a || isUnknown b then return .unknown else return .bool (a.same b)
  | "is not" => if isUnknown a || isUnknown b then return .unknown else return .bool (! a.same b)
  | "in" => return .bool (← b.contains h a)
  | "not in" => return .bool (! (← b.contains h a))
  | _ => if isUnknown a || isUnknown b then return .unknown else a.compare h operator b

end RouteDocs.Module.Operator
