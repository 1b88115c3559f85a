import RouteDocs.Module.Scope
import RouteDocs.Module.Statement

namespace RouteDocs.Module

/-- What the nearest scope that is no comprehension belongs to. -/
inductive Region where
  | module
  | class_
  | function (isAsync : Bool)
  deriving DecidableEq, Repr

/-- Where an expression or a statement stands.

* `iterations` are the names that the comprehensions around it go over, if there are any;
* `inSource` says that it stands in the source of a comprehension;
* `inLoop` and `canReturn` say that `break` and `return` can stand here;
* `blocks` is the number of blocks around it that have something to do at their end;
* `postponed` says that types are not evaluated. -/
structure Place where
  region : Region
  owner : Option String
  iterations : Option (List String)
  inSource : Bool
  inLoop : Bool
  canReturn : Bool
  blocks : Nat
  postponed : Bool

namespace Place

def top (postponed : Bool) : Place := ⟨.module, none, none, false, false, false, 0, postponed⟩

def function (p : Place) (isAsync : Bool) : Place :=
  ⟨.function isAsync, p.owner, none, false, false, true, 0, p.postponed⟩

def class_ (p : Place) (name : String) : Place :=
  ⟨.class_, some name, none, false, false, false, 0, p.postponed⟩

def deeper (p : Place) (n : Nat) : Place := { p with blocks := p.blocks + n }

def loop (p : Place) : Place := { p.deeper 1 with inLoop := true }

/-- The body of a handler, which lies in blocks of its own. One for groups cannot be left early. -/
def handler (p : Place) (isGroup : Bool) : Place :=
  let p := p.deeper 2
  if isGroup then { p with inLoop := false, canReturn := false } else p

def maxBlocks : Nat := 20

def hasRoom (p : Place) (n : Nat) : Bool := p.blocks + n ≤ maxBlocks

/-- A name as it is written here, as it is bound. -/
def nameOf (p : Place) (name : String) : String := privateName p.owner name

def canWait (p : Place) : Bool := p.iterations.isSome || p.region == .function true

end Place

/-- What is found in expressions or statements. `hoisted` are the names that are bound in a
comprehension and belong to the scope around it; `yields`, `waits` and `binds` say that there are
such expressions, and `returnsValue` that there is a `return` with a value. -/
structure Survey where
  mentions : List Mention
  hoisted : List String
  scopes : List Scope
  isWell : Bool
  yields : Bool
  waits : Bool
  binds : Bool
  returnsValue : Bool

namespace Survey

def nothing : Survey := ⟨[], [], [], true, false, false, false, false⟩

def append (a b : Survey) : Survey where
  mentions := a.mentions ++ b.mentions
  hoisted := a.hoisted ++ b.hoisted
  scopes := a.scopes ++ b.scopes
  isWell := a.isWell && b.isWell
  yields := a.yields || b.yields
  waits := a.waits || b.waits
  binds := a.binds || b.binds
  returnsValue := a.returnsValue || b.returnsValue

instance : Append Survey := ⟨append⟩

def ofMention (m : Mention) : Survey := { nothing with mentions := [m] }

/-- Only whether something stands where it can. -/
def ofBool (b : Bool) : Survey := { nothing with isWell := b }

/-- The name that cannot be bound. -/
def constantName : String := "__debug__"

def ofBinding (p : Place) (name : String) : Survey :=
  { nothing with mentions := [.bind (p.nameOf name)], isWell := name != constantName }

def ofBindings (p : Place) (names : List String) : Survey :=
  names.foldl (fun s name => s ++ ofBinding p name) nothing

/-- The names of the parameters of a function, which are distinct. -/
def ofParameters (p : Place) (s : Signature) : Survey :=
  let names := s.allNames.map p.nameOf
  { nothing with
    mentions := names.map .parameter
    isWell := decide names.Nodup && ! s.allNames.contains constantName }

/-- What is left of a survey of the inside of a function or class: its scope. -/
def enclosed (kind : ScopeKind) (s : Survey) : Survey :=
  { nothing with scopes := [.mk kind s.mentions s.scopes], isWell := s.isWell }

/-- A type that is not evaluated can neither wait nor yield nor bind. -/
def ofType (p : Place) (s : Survey) : Survey :=
  if p.postponed then s ++ ofBool (! s.yields && ! s.waits && ! s.binds) else s

/-- Names of arguments, which are distinct. -/
def ofArgumentNames (names : List String) : Survey :=
  ofBool (decide names.Nodup && ! names.contains constantName)

/-- What is left of a survey of the inside of a comprehension. One that is not asynchronous by
nature can wait only where waiting is possible, and none can yield. -/
def comprehended (p : Place) (kind : Gathering) (s : Survey) : Survey :=
  let waits := s.waits && kind != .items
  { nothing with
    mentions := if p.iterations.isNone && p.region != .module then s.hoisted.map .bind else []
    hoisted := if p.iterations.isNone then [] else s.hoisted
    scopes := [.mk .comprehension s.mentions s.scopes]
    isWell := s.isWell && ! s.yields && (! waits || p.canWait)
    waits := waits }

end Survey

end RouteDocs.Module
