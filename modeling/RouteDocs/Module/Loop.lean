import RouteDocs.Module.Builtin

namespace RouteDocs.Module

/-- How statements end: in the usual way, by leaving a loop or its round, or with the result of a
function. -/
inductive Signal where
  | done
  | leave (isBreak : Bool)
  | result (o : Object)
  deriving DecidableEq

/-- How a loop ends after a round whose body has ended, unless it goes on. -/
def Signal.afterRound? : Signal → Option Signal
  | .done => none
  | .leave false => none
  | .leave true => some .done
  | .result o => some (.result o)

def maxRounds : Nat := 1000000000

/-- Rounds of a loop, of which each says how the loop ends, unless it goes on. `n` bounds their
number. -/
def whileTrue (round : Run (Option Signal)) : Nat → Run Signal
  | 0 => raise "MemoryError"
  | n + 1 => do
    match ← round with
    | some s => return s
    | none => whileTrue round n

/-- What is left of the items that a loop goes over: those of a list from a place on, as they are
when the loop comes to them; those of a collection that must not grow or shrink; those that are known;
or those that something gives one by one. -/
inductive Cursor where
  | list (id place : Nat)
  | collection (id size : Nat) (rest : List Object)
  | known (rest : List Object)
  | steps (o : Object)

namespace Cursor

/-- The start of a loop over what an object of the library holds. -/
def ofPlain (h : Hooks) (o : Object) : Run Cursor := do
  let w ← get
  match w.content o with
  | .entity id =>
    match w.kind? id with
    | some (.list _) => return .list id 0
    | some (.mapping entries) => return .collection id entries.length (entries.map Prod.fst)
    | some (.set _ items) => return .collection id items.length items
    | some (.iterator _) => return .steps o
    | some (.pending ..) => return .steps o
    | some (.steps ..) => return .steps o
    | _ => return .known (← o.items h)
  | _ => return .known (← o.items h)

def of (h : Hooks) (o : Object) : Run Cursor := do
  match (← get).special? o "__iter__" with
  | none => ofPlain h o
  | some _ =>
    match ← Builtin.iterator h o with
    | .unknown => return .known []
    | it =>
      if ((← get).special? it "__next__").isSome then return .steps it else ofPlain h it

/-- Raises what there is to raise when a collection has been changed in a loop over it. -/
def failChanged {α : Type} (id : Nat) : Run α := do
  let what := if ((← get).kind? id).any fun k => k matches .mapping _ then "dictionary" else "Set"
  fail "RuntimeError" (what ++ " changed size during iteration")

/-- The next item and what is left then, unless there is none. -/
def next? (h : Hooks) : Cursor → Run (Option (Object × Cursor))
  | .list id place => do
    match (← get).kind? id with
    | some (.list items) => return (items[place]?).map fun o => (o, .list id (place + 1))
    | _ => return none
  | .collection id size rest => do
    if Object.plainLength? (← get) (.entity id) != some size then failChanged id
    else
      match rest with
      | o :: rest => return some (o, .collection id size rest)
      | [] => return none
  | .known rest =>
    match rest with
    | o :: rest => return some (o, .known rest)
    | [] => return none
  | .steps o => do return (← o.next? h).map fun item => (item, .steps o)

end Cursor

/-- Rounds of a loop over items, of which each says how the loop ends, unless it goes on. No signal
says that there are no items left. `n` bounds the number of rounds. -/
def overItems (h : Hooks) (round : Object → Run (Option Signal)) :
    Nat → Cursor → Run (Option Signal)
  | 0, _ => raise "MemoryError"
  | n + 1, cursor => do
    match ← cursor.next? h with
    | none => return none
    | some (o, cursor) =>
      match ← round o with
      | some s => return some s
      | none => overItems h round n cursor

end RouteDocs.Module
