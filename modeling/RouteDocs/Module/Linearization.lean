namespace RouteDocs.Module
variable {α : Type} [DecidableEq α]

/-- The orders without `a` at their start. -/
def dropHead (a : α) (orders : List (List α)) : List (List α) :=
  orders.map fun order => if order.head? = some a then order.tail else order

/-- The first item that starts an order and stands in none behind its start. -/
def nextHead? (orders : List (List α)) : Option α :=
  (orders.filterMap List.head?).find? fun a => orders.all fun order => ! order.tail.contains a

/-- One order that keeps all given ones; where several items can come next, the one of the earliest
order does. `n` bounds the number of items. -/
def mergeFrom : Nat → List (List α) → Option (List α)
  | 0, orders => if orders.all List.isEmpty then some [] else none
  | n + 1, orders =>
    if orders.all List.isEmpty then some []
    else do
      let a ← nextHead? orders
      return a :: (← mergeFrom n (dropHead a orders))

def mergeOrders (orders : List (List α)) : Option (List α) := mergeFrom orders.flatten.length orders

/-- The order of a class with these bases, each given by its own order, which starts with it. The
class comes first, a class before those above it, and the bases as they are listed. -/
def linearize (a : α) (bases : List (List α)) : Option (List α) :=
  (mergeOrders (bases ++ [bases.filterMap List.head?])).map (a :: ·)

end RouteDocs.Module
