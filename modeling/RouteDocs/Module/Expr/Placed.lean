import RouteDocs.Module.Survey

namespace RouteDocs.Module
open Survey

namespace Expr

def isStarred : Expr → Bool
  | .starred _ => true
  | _ => false

mutual

/-- The names in the targets of comprehensions. -/
def targetNames : Expr → List String
  | .name id => [id]
  | .starred e => targetNames e
  | .tuple items => targetNamesOf items
  | .list items => targetNamesOf items
  | _ => []

def targetNamesOf : List Expr → List String
  | [] => []
  | e :: es => targetNames e ++ targetNamesOf es

end

/-- The names that a comprehension goes over. -/
def iterationNames (clauses : List (Bool × Expr × Expr × List Expr)) : List String :=
  clauses.flatMap fun (_, target, _, _) => targetNames target

mutual

/-- What is found in an expression whose value is used. A star can stand only in a collection or
among arguments. -/
def survey (p : Place) : Expr → Survey
  | .name id => ofMention (.use (p.nameOf id))
  | .formatted parts => surveyAll p parts
  | .field value _ format => survey p value ++ surveyAll p format
  | .attribute object _ => survey p object
  | .call callee arguments byName =>
    survey p callee ++ surveyItems p arguments ++ surveyNamed p byName ++
      ofArgumentNames (byName.filterMap Prod.fst)
  | .index object key => survey p object ++ survey p key
  | .slice first last step => surveyOption p first ++ surveyOption p last ++ surveyOption p step
  | .unary _ operand => survey p operand
  | .binary _ left right => survey p left ++ survey p right
  | .compare left rest => survey p left ++ surveyCompared p rest
  | .both left right => survey p left ++ survey p right
  | .either left right => survey p left ++ survey p right
  | .choice condition yes no => survey p condition ++ survey p yes ++ survey p no
  | .list items => surveyItems p items
  | .tuple items => surveyItems p items
  | .set items => surveyItems p items
  | .mapping entries => surveyEntries p entries
  | .starred operand => survey p operand ++ ofBool false
  | .function signature defaults result =>
    let inner := p.function false
    surveyDefaults p defaults ++ enclosed .function (ofParameters inner signature ++
      survey inner result)
  | .comprehension kind item value clauses =>
    let inner := { p with
      iterations := some ((p.iterations.getD []) ++ iterationNames clauses), inSource := false }
    surveySource { p with inSource := true } clauses ++ comprehended p kind
      (surveyClauses inner true clauses ++ survey inner item ++ surveyOption inner value)
  | .named id value =>
    let here : Survey := match p.iterations with
      | .none => ofBinding p id
      | .some names =>
        { nothing with
          hoisted := [p.nameOf id]
          isWell := id != constantName && ! names.contains id && p.region != .class_ }
    here ++ survey p value ++ { ofBool (! p.inSource) with binds := true }
  | .await operand => survey p operand ++ { ofBool p.canWait with waits := true }
  | .yield value =>
    surveyOption p value ++ { ofBool (p.region matches .function _) with yields := true }
  | .yieldAll source =>
    survey p source ++ { ofBool (p.region == .function false) with yields := true }
  | _ => nothing

def surveyAll (p : Place) : List Expr → Survey
  | [] => nothing
  | e :: es => survey p e ++ surveyAll p es

/-- What is found in items, which can have stars. -/
def surveyItems (p : Place) : List Expr → Survey
  | [] => nothing
  | .starred e :: es => survey p e ++ surveyItems p es
  | e :: es => survey p e ++ surveyItems p es

def surveyOption (p : Place) : Option Expr → Survey
  | .none => nothing
  | .some e => survey p e

def surveyNamed (p : Place) : List (Option String × Expr) → Survey
  | [] => nothing
  | (_, e) :: es => survey p e ++ surveyNamed p es

def surveyDefaults (p : Place) : List (String × Expr) → Survey
  | [] => nothing
  | (_, e) :: es => survey p e ++ surveyDefaults p es

def surveyCompared (p : Place) : List (String × Expr) → Survey
  | [] => nothing
  | (_, e) :: es => survey p e ++ surveyCompared p es

def surveyEntries (p : Place) : List (Option Expr × Expr) → Survey
  | [] => nothing
  | (k, e) :: es => surveyOption p k ++ survey p e ++ surveyEntries p es

/-- What is found in the source of the first clause, which belongs to the scope around the
comprehension. -/
def surveySource (p : Place) : List (Bool × Expr × Expr × List Expr) → Survey
  | [] => nothing
  | (_, _, source, _) :: _ => survey p source

/-- What is found in clauses, apart from the source of the first. -/
def surveyClauses (p : Place) (isFirst : Bool) :
    List (Bool × Expr × Expr × List Expr) → Survey
  | [] => nothing
  | (isAsync, target, source, conditions) :: rest =>
    surveyTarget p target ++
      (if isFirst then nothing else survey { p with inSource := true } source) ++
      surveyAll p conditions ++ { nothing with waits := isAsync } ++ surveyClauses p false rest

/-- What is found in a target. One star can stand among the items of a collection. -/
def surveyTarget (p : Place) : Expr → Survey
  | .name id => ofBinding p id
  | .attribute object member => survey p object ++ ofBool (member != constantName)
  | .index object key => survey p object ++ survey p key
  | .tuple items => surveyTargets p items ++ ofBool (items.countP isStarred ≤ 1)
  | .list items => surveyTargets p items ++ ofBool (items.countP isStarred ≤ 1)
  | .starred e => surveyTarget p e ++ ofBool false
  | _ => nothing

/-- What is found in the items of a target, which can have stars. -/
def surveyTargets (p : Place) : List Expr → Survey
  | [] => nothing
  | .starred e :: es => surveyTarget p e ++ surveyTargets p es
  | e :: es => surveyTarget p e ++ surveyTargets p es

def surveyDeleted (p : Place) : Expr → Survey
  | .name id => ofBinding p id
  | .attribute object _ => survey p object
  | .index object key => survey p object ++ survey p key
  | .tuple items => surveyDeletedAll p items
  | .list items => surveyDeletedAll p items
  | _ => nothing

def surveyDeletedAll (p : Place) : List Expr → Survey
  | [] => nothing
  | e :: es => surveyDeleted p e ++ surveyDeletedAll p es

end

end Expr

end RouteDocs.Module
