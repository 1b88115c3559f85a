import RouteDocs.Module.Expr.Placed

namespace RouteDocs.Module
open Survey

namespace Pattern

mutual

def names : Pattern → List String
  | .value _ => []
  | .constant _ => []
  | .capture name => name.toList
  | .star name => name.toList
  | .sequence items => namesOf items
  | .mapping entries rest => namesOfEntries entries ++ rest.toList
  | .class_ _ placed named => namesOf placed ++ namesOfMembers named
  | .either choices => namesOfFirst choices
  | .bound p name => names p ++ [name]

def namesOf : List Pattern → List String
  | [] => []
  | p :: ps => names p ++ namesOf ps

def namesOfFirst : List Pattern → List String
  | [] => []
  | p :: _ => names p

def namesOfEntries : List (Expr × Pattern) → List String
  | [] => []
  | (_, p) :: rest => names p ++ namesOfEntries rest

def namesOfMembers : List (String × Pattern) → List String
  | [] => []
  | (_, p) :: rest => names p ++ namesOfMembers rest

end

def sameNames (xs ys : List String) : Bool := xs.all ys.contains && ys.all xs.contains

/-- The constant that an expression is, as far as keys of patterns are told apart. -/
def key? : Expr → Option String
  | .int n => some ("n" ++ toString n)
  | .bool b => some (if b then "n1" else "n0")
  | .text s => some ("s" ++ s)
  | .none => some "none"
  | _ => none

mutual

/-- Whether a pattern binds no name twice, its choices bind the same names, and nothing stands behind
what always matches. `isLast` says that the pattern can always match. -/
def canStand (isLast : Bool) : Pattern → Bool
  | .value e => ! (e matches .formatted _)
  | .constant _ => true
  | .capture _ => isLast
  | .star _ => true
  | .sequence items => items.countP isStarred ≤ 1 && canAllStand items
  | .mapping entries _ =>
    decide (entries.filterMap fun (e, _) => key? e).Nodup &&
      entries.all (fun (e, _) => ! (e matches .formatted _)) && canEntriesStand entries
  | .class_ _ placed named =>
    decide (named.map Prod.fst).Nodup && ! (named.map Prod.fst).contains constantName &&
      canAllStand placed && canMembersStand named
  | .either choices =>
    choices.all (fun p => decide (names p).Nodup && sameNames (names p) (namesOfFirst choices)) &&
      canChoicesStand isLast choices
  | .bound p _ => canStand isLast p

def canAllStand : List Pattern → Bool
  | [] => true
  | p :: ps => canStand true p && canAllStand ps

def canChoicesStand (isLast : Bool) : List Pattern → Bool
  | [] => true
  | [p] => canStand isLast p
  | p :: ps => canStand false p && canChoicesStand isLast ps

def canEntriesStand : List (Expr × Pattern) → Bool
  | [] => true
  | (_, p) :: rest => canStand true p && canEntriesStand rest

def canMembersStand : List (String × Pattern) → Bool
  | [] => true
  | (_, p) :: rest => canStand true p && canMembersStand rest

end

mutual

def exprs : Pattern → List Expr
  | .value e => [e]
  | .sequence items => exprsOf items
  | .mapping entries _ => exprsOfEntries entries
  | .class_ c placed named => c :: exprsOf placed ++ exprsOfMembers named
  | .either choices => exprsOf choices
  | .bound p _ => exprs p
  | _ => []

def exprsOf : List Pattern → List Expr
  | [] => []
  | p :: ps => exprs p ++ exprsOf ps

def exprsOfEntries : List (Expr × Pattern) → List Expr
  | [] => []
  | (e, p) :: rest => e :: exprs p ++ exprsOfEntries rest

def exprsOfMembers : List (String × Pattern) → List Expr
  | [] => []
  | (_, p) :: rest => exprs p ++ exprsOfMembers rest

end

def survey (p : Place) (isLast : Bool) (pattern : Pattern) : Survey :=
  Expr.surveyAll p (exprs pattern) ++ ofBindings p (names pattern) ++
    ofBool (decide (names pattern).Nodup && canStand isLast pattern)

end Pattern
end RouteDocs.Module
