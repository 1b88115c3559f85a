import RouteDocs.FilePath
import RouteDocs.Module.Statement
import RouteDocs.OrderedMap
import RouteDocs.Printed

namespace RouteDocs.Module

/-- A class: one that a module has built, or one of the library, which is known by its path. -/
inductive ClassRef where
  | own (id : Nat)
  | library (path : String)
  deriving DecidableEq, Repr, Inhabited

/-- What a name can be bound to.

* `entity` is known by its number, and `library` by its path;
* `method` is a method of the library with its object, and `bound` a function with its first
  argument;
* `above` is an object seen as one of the classes behind a class in the order of its class;
* `alias` is a class with the arguments between its brackets, and `union` a choice of classes;
* `unknown` stands for what is not followed any further. -/
inductive Object where
  | null
  | ellipsis
  | notImplemented
  | bool (b : Bool)
  | int (n : Int)
  | float (x : Binary64)
  | complex (re im : Binary64)
  | text (s : String)
  | bytes (content : List UInt8)
  | tuple (items : List Object)
  | range (first stop step : Int)
  | slice (first last step : Object)
  | entity (id : Nat)
  | library (path : String)
  | method (path : String) (self : Object)
  | bound (function self : Object)
  | staticMethod (function : Object)
  | classMethod (function : Object)
  | property (getter setter deleter doc : Object)
  | above (after : ClassRef) (self : Object)
  | alias (origin arguments : Object)
  | union (members : List Object)
  | unknown
  deriving Inhabited

mutual

/-- Whether two objects look the same: entities do if they are one. -/
def Object.beq : Object → Object → Bool
  | .null, .null => true
  | .ellipsis, .ellipsis => true
  | .notImplemented, .notImplemented => true
  | .bool b, .bool b' => b == b'
  | .int n, .int n' => n == n'
  | .float x, .float x' => x == x'
  | .complex re im, .complex re' im' => re == re' && im == im'
  | .text s, .text s' => s == s'
  | .bytes content, .bytes content' => content == content'
  | .tuple items, .tuple items' => Object.beqAll items items'
  | .range first stop step, .range first' stop' step' =>
    first == first' && stop == stop' && step == step'
  | .slice first last step, .slice first' last' step' =>
    first.beq first' && last.beq last' && step.beq step'
  | .entity id, .entity id' => id == id'
  | .library path, .library path' => path == path'
  | .method path self, .method path' self' => path == path' && self.beq self'
  | .bound function self, .bound function' self' => function.beq function' && self.beq self'
  | .staticMethod function, .staticMethod function' => function.beq function'
  | .classMethod function, .classMethod function' => function.beq function'
  | .property getter setter deleter doc, .property getter' setter' deleter' doc' =>
    getter.beq getter' && setter.beq setter' && deleter.beq deleter' && doc.beq doc'
  | .above after self, .above after' self' => after == after' && self.beq self'
  | .alias origin arguments, .alias origin' arguments' =>
    origin.beq origin' && arguments.beq arguments'
  | .union members, .union members' => Object.beqAll members members'
  | .unknown, .unknown => true
  | _, _ => false

/-- Whether two lists hold objects that look the same. -/
def Object.beqAll : List Object → List Object → Bool
  | [], [] => true
  | o :: os, o' :: os' => o.beq o' && Object.beqAll os os'
  | _, _ => false

end

theorem Object.eq_of_beq : ∀ {a b : Object}, a.beq b = true → a = b := by
  intro a
  induction a using @Object.rec _
    (fun os => ∀ os', Object.beqAll os os' = true → os = os') with
  | nil os' same =>
    cases os' with
    | nil => rfl
    | cons o' os' => cases same
  | cons o os ih ihs os' same =>
    cases os' with
    | nil => cases same
    | cons o' os' =>
      simp only [Object.beqAll, Bool.and_eq_true] at same
      rw [ih same.1, ihs os' same.2]
  | _ =>
    intro b same
    cases b <;> first
      | rfl
      | cases same
      | simp only [Object.beq, Bool.and_eq_true, beq_iff_eq] at same
        grind

theorem Object.beq_self (o : Object) : o.beq o = true := by
  induction o using @Object.rec _ (fun os => Object.beqAll os os = true) with
  | _ => simp_all [Object.beq, Object.beqAll]

instance : DecidableEq Object := fun a b =>
  decidable_of_iff (a.beq b = true) ⟨Object.eq_of_beq, fun same => same ▸ a.beq_self⟩

def ClassRef.object : ClassRef → Object
  | .own id => .entity id
  | .library path => .library path

/-- What an object is called with: arguments in their places, and those with names. -/
structure Arguments where
  placed : List Object
  named : List (String × Object)
  deriving Inhabited

def Arguments.of (placed : List Object) : Arguments := ⟨placed, []⟩

/-- The scope of a function that is running or has run: its entity, the names that belong to it, and
those that it declares to be the module's. -/
structure Surrounding where
  scope : Nat
  own : List String
  globals : List String
  deriving Inhabited

/-- A function: what it is called, what it takes and does, and where it was made. `around` are the
functions around it, the nearest first, and `home` is the class that it was made in. -/
structure Function where
  name : String
  qualified : String
  module : Nat
  signature : Signature
  defaults : List (String × Object)
  body : List Statement
  owner : Option String
  home : Option Nat
  around : List Surrounding
  own : List String
  globals : List String
  isAsync : Bool
  isGenerator : Bool
  postponed : Bool
  deriving Inhabited

/-- A class: its name, with and without those around it; the classes that it is based on; the order
in which its members are searched for, which starts with it; and its own class. -/
structure Class where
  name : String
  qualified : String
  bases : List ClassRef
  order : List ClassRef
  meta_ : ClassRef
  deriving Inhabited

/-- What an entity is.

* a module that is a package has the directories of its own modules;
* an instance of a class that is based on one of the library's has what that one holds;
* `scope` holds the names of a function that runs;
* `namesOf`, `modules` and `searchPath` stand for the members of another entity, the modules that are
  loaded and the places where they are searched for;
* `pending` are the items of something that has not been asked for them, and `steps` those of a
  function that gives them one by one: what it prints before each of them and at the end, and what it
  raises then. -/
inductive Kind where
  | module (name : String) (places : Option (List FilePath))
  | class_ (c : Class)
  | function (f : Function)
  | instance_ (of : ClassRef) (content : Object)
  | scope
  | list (items : List Object)
  | mapping (entries : List (Object × Object))
  | set (isFrozen : Bool) (items : List Object)
  | namesOf (id : Nat)
  | modules
  | searchPath
  | iterator (rest : List Object)
  | pending (source : Object) (arguments : Arguments)
  | steps (rest : List (Printed × Object)) (final : Printed) (raised : Option Object)
  deriving Inhabited

/-- What can be changed, or is told apart from all else, with its members. -/
structure Entity where
  kind : Kind
  members : OrderedMap String Object
  deriving Inhabited

end RouteDocs.Module
