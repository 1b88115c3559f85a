import RouteDocs.Module.Expr.Run

namespace RouteDocs.Module
namespace Frame

/-- What patterns bind. -/
abbrev Bound := List (String × Object)

/-- The items of an object that patterns take as a sequence. -/
def sequence? (f : Frame) (o : Object) : Run (Option (List Object)) := do
  let w ← get
  match w.content o with
  | .tuple items => return some items
  | .range .. => return some (← o.items f.hooks)
  | inner => return (Object.list? w inner).map Prod.snd

/-- Classes of the library whose instances match the only pattern between the brackets as a
whole. -/
def wholeClasses : List String := [
  "bool", "bytearray", "bytes", "dict", "float", "frozenset", "int", "list", "set", "str", "tuple"]

/-- Whether an object is an instance of what stands before the brackets of a pattern. -/
def isOf (f : Frame) (o c : Object) : Run Bool := do
  let w ← get
  if (w.classRef? c).isSome || c matches .unknown || c matches .library _ then
    (← Builtin.isInstance f.hooks o c).truth f.hooks
  else fail "TypeError" "called match pattern must be a class"

/-- The names of the members that stand for places between the brackets of a pattern. -/
def placeNames (f : Frame) (c : Object) (count : Nat) : Run (List String) := do
  if count = 0 then return []
  else
    match ← c.memberOrNone f.hooks "__match_args__" with
    | none => tooMany 0
    | some (.tuple names) =>
      if names.length < count then tooMany names.length
      else (names.take count).mapM fun o =>
        match o with
        | .text s => return s
        | _ => fail "TypeError" "__match_args__ elements must be strings"
    | some .unknown => return []
    | some _ => fail "TypeError" "__match_args__ must be a tuple"
where
  /-- Raises what there is to raise when there are too many patterns. -/
  tooMany (most : Nat) : Run (List String) :=
    fail "TypeError" ("accepts " ++ toString most ++ " positional sub-patterns (" ++
      toString count ++ " given)")

/-- Whether a class takes the only pattern between its brackets for a whole instance. -/
def isWhole (w : World) (c : Object) : Bool :=
  match w.classRef? c with
  | some c => (w.order c).any fun k => wholeClasses.any fun path => k = .library path
  | none => false

mutual

/-- What a pattern binds when an object matches it. -/
def matched? (f : Frame) (o : Object) : Pattern → Run (Option Bound)
  | .value e => do
    let v ← f.value e
    if ← (← Operator.compare f.hooks "==" o v).truth f.hooks then return some [] else return none
  | .constant e => do
    let v ← f.value e
    return if o.same v then some [] else none
  | .capture name => return some (name.toList.map fun name => (name, o))
  | .star name => return some (name.toList.map fun name => (name, o))
  | .sequence items => do
    match ← f.sequence? o with
    | none => return none
    | some all =>
      if items.any Pattern.isStarred then
        let before := (items.takeWhile (! ·.isStarred)).length
        let after := items.length - before - 1
        if all.length < before + after then return none
        else
          let (front, middle, back) := spread before after all
          f.matchedAll? (front ++ (← newList middle) :: back) items
      else if all.length = items.length then f.matchedAll? all items
      else return none
  | .mapping entries rest => do
    let w ← get
    match Operator.entries? w (w.content o) with
    | none => return none
    | some all =>
      match ← f.matchedEntries? all entries with
      | none => return none
      | some (bound, left) =>
        match rest with
        | none => return some bound
        | some name => return some (bound ++ [(name, ← newMapping left)])
  | .class_ c placed named => do
    let c ← f.value c
    if ! (← f.isOf o c) then return none
    else if placed.length = 1 && isWhole (← get) c then
      match ← f.matchedAll? [o] placed with
      | none => return none
      | some bound => return (← f.matchedMembers? o named).map (bound ++ ·)
    else
      let names ← f.placeNames c placed.length
      let found ← names.mapM fun name => o.memberOrNone f.hooks name
      if found.any Option.isNone then return none
      else
        match ← f.matchedAll? (found.filterMap fun o => o) placed with
        | none => return none
        | some bound => return (← f.matchedMembers? o named).map (bound ++ ·)
  | .either choices => f.matchedFirst? o choices
  | .bound p name => do return (← f.matched? o p).map (· ++ [(name, o)])

/-- What patterns bind when each is matched by one of as many objects. -/
def matchedAll? (f : Frame) : List Object → List Pattern → Run (Option Bound)
  | o :: os, p :: ps => do
    match ← f.matched? o p with
    | none => return none
    | some bound => return (← f.matchedAll? os ps).map (bound ++ ·)
  | _, _ => return some []

/-- What the first of several patterns binds that an object matches. -/
def matchedFirst? (f : Frame) (o : Object) : List Pattern → Run (Option Bound)
  | [] => return none
  | p :: ps => do
    match ← f.matched? o p with
    | some bound => return some bound
    | none => f.matchedFirst? o ps

/-- What patterns bind when they are matched by the values of entries, and the entries that are
left. -/
def matchedEntries? (f : Frame) (all : List (Object × Object)) :
    List (Expr × Pattern) → Run (Option (Bound × List (Object × Object)))
  | [] => return some ([], all)
  | (e, p) :: rest => do
    let key ← f.value e
    match ← takeKey f.hooks key all with
    | (none, _) => return none
    | (some o, left) =>
      match ← f.matched? o p with
      | none => return none
      | some bound =>
        return (← f.matchedEntries? left rest).map fun (more, left) => (bound ++ more, left)

/-- What patterns bind when they are matched by members of an object. -/
def matchedMembers? (f : Frame) (o : Object) : List (String × Pattern) → Run (Option Bound)
  | [] => return some []
  | (name, p) :: rest => do
    match ← o.memberOrNone f.hooks (f.nameOf name) with
    | none => return none
    | some member =>
      match ← f.matched? member p with
      | none => return none
      | some bound => return (← f.matchedMembers? o rest).map (bound ++ ·)

end

end Frame
end RouteDocs.Module
