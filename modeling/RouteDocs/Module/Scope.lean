import RouteDocs.Module.Statement
import RouteDocs.Text.Cut

namespace RouteDocs.Module

/-- The name under which a class keeps a private name of its own. -/
def privateName (owner : Option String) (name : String) : String :=
  let stem := Text.dropLeading '_' (owner.getD "")
  if "__".isPrefixOf name && ! "__".toList.isSuffixOf name.toList && ! name.toList.contains '.' &&
      ! stem.isEmpty then "_" ++ stem ++ name
  else name

/-- How a scope mentions a name. -/
inductive Mention where
  | use (name : String)
  | bind (name : String)
  | parameter (name : String)
  | annotate (name : String)
  | declare (isGlobal : Bool) (name : String)
  deriving DecidableEq, Repr

namespace Mention

/-- The name that is made the scope's own. -/
def own? : Mention → Option String
  | .bind name => some name
  | .parameter name => some name
  | .annotate name => some name
  | _ => none

/-- The name that is declared to be one of the module. -/
def global? : Mention → Option String
  | .declare true name => some name
  | _ => none

/-- The name that is declared to belong to a function outside. -/
def outer? : Mention → Option String
  | .declare false name => some name
  | _ => none

/-- The name that is mentioned otherwise than by a declaration. -/
def plain? : Mention → Option String
  | .use name => some name
  | m => m.own?

end Mention

/-- What has a scope of its own. -/
inductive ScopeKind where
  | module
  | class_
  | function
  | comprehension
  deriving DecidableEq, Repr

/-- A scope: what it mentions, in the order of the text, and the scopes inside it. -/
inductive Scope where
  | mk (kind : ScopeKind) (mentions : List Mention) (inner : List Scope)

namespace Scope

def globals (mentions : List Mention) : List String := mentions.filterMap Mention.global?

def outers (mentions : List Mention) : List String := mentions.filterMap Mention.outer?

/-- The names that belong to a scope: what it binds, and declares nowhere to be another's. -/
def locals (mentions : List Mention) : List String :=
  ((mentions.filterMap Mention.own?).filter fun name =>
    ! (globals mentions).contains name && ! (outers mentions).contains name).eraseDups

/-- Whether each name is declared before it is mentioned otherwise, and outside a module's scope no
declared name is given a type. `seen` are the mentions before. -/
def declaresFirst (isModule : Bool) (seen : List Mention) : List Mention → Bool
  | [] => true
  | m :: rest =>
    (match m with
      | .declare _ name => ! (seen.filterMap Mention.plain?).contains name
      | .annotate name =>
        isModule || ! ((globals seen).contains name || (outers seen).contains name)
      | _ => true) && declaresFirst isModule (m :: seen) rest

mutual

/-- Whether one of some names is used in a scope, or in one inside it. -/
def uses (names : List String) : Scope → Bool
  | .mk _ mentions inner =>
    (mentions.any fun m =>
      match m with
      | .use name => names.contains name
      | _ => false) || anyUses names inner

def anyUses (names : List String) : List Scope → Bool
  | [] => false
  | s :: ss => uses names s || anyUses names ss

end

mutual

/-- Whether names are declared where they can be. `bound` are the names that belong to the functions
around the scope. -/
def isWell (bound : List String) : Scope → Bool
  | .mk kind mentions inner =>
    let global := globals mentions
    let outer := outers mentions
    let bound' := bound.filter fun name => ! global.contains name
    declaresFirst (kind == .module) [] mentions &&
      (kind != .module || outer.isEmpty) &&
      outer.all (fun name => bound.contains name && ! global.contains name) &&
      areWell (if kind = .function then bound' ++ locals mentions else bound') inner

def areWell (bound : List String) : List Scope → Bool
  | [] => true
  | s :: ss => isWell bound s && areWell bound ss

end

end Scope
end RouteDocs.Module
