import RouteDocs.Module.World

namespace RouteDocs.Module

def maxSteps : Nat := 10000

/-- Adds an item to those that are given, the latest first. What has been printed since the item
before belongs to it. A run that never stops is stopped. -/
def giveStep (id : Nat) (o : Object) : Run Unit := do
  let w ← get
  match w.kind? id with
  | some (.steps items final raised) =>
    if maxSteps ≤ items.length then throw .unknown
    else
      set { w.setKind id (.steps ((w.printed, o) :: items) final raised) with printed := .nothing }
  | _ => return

/-- What a run raises that gives items one by one: that it has no more of them is no way to end. -/
def raisedAtEnd (e : Object) : Run (Option Object) := do
  let w ← get
  if e matches .unknown then return none
  else if w.isInstance e (.library "StopIteration") then
    return some (← newException "RuntimeError" [.text "generator raised StopIteration"] [])
  else return some e

/-- Runs what gives items one by one to an entity, which then stands for them. What it prints is
printed when the items are asked for. -/
def asSteps (id : Nat) (run : Run Unit) : Run Unit := do
  let before := (← get).printed
  modify fun w => { w.setKind id (.steps [] .nothing none) with printed := .nothing }
  let raised ← tryCatch (do run; return none) fun e => raisedAtEnd e
  modify fun w =>
    match w.kind? id with
    | some (.steps items _ _) =>
      { w.setKind id (.steps items.reverse w.printed raised) with printed := before }
    | _ => { w with printed := before ++ w.printed }

end RouteDocs.Module
