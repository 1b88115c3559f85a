import RouteDocs.Module.Items

namespace RouteDocs.Module

namespace Arguments

/-- Arguments by their places, of which there have to be so many. -/
def take (a : Arguments) (least most : Nat) : Run (List Object) :=
  if ! a.named.isEmpty then fail "TypeError" "takes no keyword arguments"
  else if a.placed.length < least ∨ most < a.placed.length then
    fail "TypeError" ("expected " ++ toString least ++ " arguments, got " ++
      toString a.placed.length)
  else return a.placed

def none (a : Arguments) : Run Unit := do
  let _ ← a.take 0 0

def one (a : Arguments) : Run Object := do
  match ← a.take 1 1 with
  | o :: _ => return o
  | [] => return .null

def two (a : Arguments) : Run (Object × Object) := do
  match ← a.take 2 2 with
  | [x, y] => return (x, y)
  | _ => return (.null, .null)

def optional (a : Arguments) : Run (Option Object) := do return (← a.take 0 1).head?

/-- The arguments for names, by their places or names. -/
def forNames (a : Arguments) (names : List String) : Run (String → Option Object) := do
  let byPlace := names.zip a.placed
  if names.length < a.placed.length then fail "TypeError" "too many arguments"
  else if a.named.any fun (name, _) => ! names.contains name then
    fail "TypeError" "invalid keyword argument"
  else if a.named.any fun (name, _) => byPlace.any (·.1 = name) then
    fail "TypeError" "argument given by name and position"
  else return fun name => (byPlace ++ a.named).lookup name

end Arguments

def expectString (o : Object) : Run String := do
  let w ← get
  match w.content o with
  | .text s => return s
  | .unknown => return ""
  | _ => fail "TypeError" ("expected str, not '" ++ Object.className w o ++ "'")

end RouteDocs.Module
