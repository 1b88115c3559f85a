import RouteDocs.Module.Handling
import RouteDocs.Module.Import
import RouteDocs.Module.Pattern.Run

namespace RouteDocs.Module
namespace Frame

/-! ### Targets -/

mutual

/-- Unbinds what a target names. -/
def delete (f : Frame) : Expr → Run Unit
  | .name id => f.unbind id
  | .attribute object name => do (← f.value object).deleteMember f.hooks (f.nameOf name)
  | .index object key => do
    let o ← f.value object
    o.deleteItem f.hooks (← f.value key)
  | .tuple targets => f.deleteAll targets
  | .list targets => f.deleteAll targets
  | _ => return

def deleteAll (f : Frame) : List Expr → Run Unit
  | [] => return
  | target :: targets => do
    f.delete target
    f.deleteAll targets

end

/-- Binds a target to the result of an operator on what it is bound to and a value. -/
def augment (f : Frame) (operator : String) (e : Expr) : Expr → Run Unit
  | .name id => do
    let old ← f.find (f.nameOf id)
    f.bind id (← Operator.inPlace f.hooks operator old (← f.value e))
  | .attribute object name => do
    let o ← f.value object
    let old ← o.member f.hooks (f.nameOf name)
    o.setMember f.hooks (f.nameOf name)
      (← Operator.inPlace f.hooks operator old (← f.value e))
  | .index object key => do
    let o ← f.value object
    let key ← f.value key
    let old ← o.index f.hooks key
    o.setItem f.hooks key (← Operator.inPlace f.hooks operator old (← f.value e))
  | _ => return

/-- The member of a module or class that holds the types of its names. -/
def typesName : String := "__annotations__"

def keepType (f : Frame) (name : String) (type : Object) : Run Unit := do
  let types ← match (← get).member? f.here typesName with
    | some types => pure types
    | none =>
      let types ← newMapping []
      modify fun w => w.setMember f.here typesName types
      pure types
  types.setItem f.hooks (.text (f.nameOf name)) type

/-- Gives a name or another target its type, which is evaluated only in a module or class. -/
def annotate (f : Frame) (target : Expr) (isBare hasValue : Bool) (type : Expr) : Run Unit := do
  match target with
  | .name id =>
    if f.own.isSome then return
    else if isBare then
      f.keepType id (← if f.postponed then pure .unknown else f.value type)
    else ofOther
  | .attribute object _ =>
    if ! hasValue then
      let _ ← f.value object
    ofOther
  | .index object key =>
    if ! hasValue then
      let _ ← f.value object
      let _ ← f.value key
    ofOther
  | _ => return
where
  /-- Evaluates the type of what is no name by itself. -/
  ofOther : Run Unit := do
    if f.own.isSome || f.postponed then return
    else
      let _ ← f.value type

/-! ### Functions and classes -/

/-- What a decorator makes of an object. One that is not followed keeps it. -/
def decorate (f : Frame) (decorator o : Object) : Run Object := do
  match ← f.call decorator (.of [o]) with
  | .unknown =>
    match decorator with
    | .library _ => return o
    | .method .. => return o
    | .unknown => return o
    | _ => return .unknown
  | made => return made

/-- What decorators make of an object; the last is applied first. -/
def decorateAll (f : Frame) : List Object → Object → Run Object
  | [], o => return o
  | decorator :: decorators, o => do
    f.decorate decorator (← f.decorateAll decorators o)

/-- The frame of the body of a class. -/
def ofClass (f : Frame) (id : Nat) (name : String) (body : List Statement) : Frame :=
  let place := { Place.top false with region := .class_, owner := some name }
  let mentions := (Statement.surveyAll place body).mentions
  { f with
    here := id, own := none, globals := Scope.globals mentions, outers := Scope.outers mentions
    around := f.surroundings, owner := some name, home := some id, self := none
    lead := f.lead ++ name ++ ".", items := none }

/-- The bases that objects after the name of a class stand for. -/
def basesOf (h : Hooks) (given : List Object) : Run (List Object) := do
  let all ← given.mapM fun o => do
    match ← o.callSpecial? h "__mro_entries__" [.tuple given] with
    | some (.tuple bases) => return bases
    | some _ => fail "TypeError" "__mro_entries__ must return a tuple"
    | none => return [o]
  return all.flatten

/-- The members that a class has before its body runs: those that its own class prepares, and its
place. -/
def firstMembers (f : Frame) (name : String) (meta_ : Option ClassRef) (bases : List Object)
    (named : List (String × Object)) : Run (List (String × Object)) := do
  let w ← get
  let prepared ← match meta_.bind fun c => (w.find? c "__prepare__").map fun m => (c, m) with
    | some (c, .own o) =>
      let method ← Object.ofClass f.hooks c.object o
      let given ← f.hooks.call method ⟨[.text name, .tuple bases], named⟩
      let w ← get
      match Operator.entries? w (w.content given) with
      | some entries => pure (World.namedOf entries).entries
      | none =>
        if given matches .unknown then pure []
        else fail "TypeError" "__prepare__() must return a mapping"
    | _ => pure []
  let module := (w.member? f.module "__name__").getD .null
  return prepared ++ [("__module__", module), ("__qualname__", .text (f.lead ++ name))]

/-- Whether a function in the body of a class refers to the class. -/
def refersToClass (body : List Statement) : Bool :=
  let place := { Place.top false with region := .class_ }
  Scope.anyUses ["super", "__class__"] (Statement.surveyAll place body).scopes

/-- The class that is made of members that the body of a `class` statement has set. Where the class
of the class is one that a module has built, that makes it. -/
def defineClass (f : Frame) (id : Nat) (name : String) (asked : Option Object)
    (meta_ : Option ClassRef) (bases : List Object) (named : List (String × Object))
    (body : List Statement) : Run Object := do
  match asked, meta_ with
  | some maker, none => madeBy maker
  | _, some (.own c) => madeBy (.entity c)
  | _, some (.library path) =>
    let w ← get
    let c := ClassRef.library path
    if w.isBelow c (.library "type") || World.isOpen c then finished
    else madeBy (.library path)
  | _, none => finished
where
  /-- The class that the library makes of the members. -/
  finished : Run Object := do
    Definition.finish f.hooks id name meta_ bases named
    return .entity id
  /-- What an object makes of the members. Where functions refer to the class, it has to be the one
  that is made of them. -/
  madeBy (maker : Object) : Run Object := do
    let members := (← get).membersOf id
    let cell := if refersToClass body then [(.text Definition.cellName, .entity id)] else []
    let members ← newMapping (members ++ cell)
    let made ← f.hooks.call maker ⟨[.text name, .tuple bases, members], named⟩
    let w ← get
    if cell.isEmpty || (w.classRef? made).isNone || made == .entity id then return made
    else if (w.class? id).isNone then
      fail "RuntimeError" ("__class__ not set defining '" ++ name ++ "' as a class")
    else fail "TypeError" ("__class__ set to another class defining '" ++ name ++ "'")

/-- The class of a class with these bases, where something is asked for after `metaclass`. Nothing
is its class where what is asked for is no class. -/
def metaclassOf (asked : Option Object) (bases : List Object) : Run (Option ClassRef) := do
  let w ← get
  let refs := bases.map (Definition.classOfBase w)
  match asked with
  | none => found w none refs
  | some .unknown => return some (.library "")
  | some o =>
    match w.classRef? o with
    | some c => found w (some c) refs
    | none =>
      match o with
      | .library path => return if path.toList.contains '.' then some (.library path) else none
      | _ => return none
where
  /-- The lowest of the classes, if there is one. -/
  found (w : World) (asked : Option ClassRef) (refs : List ClassRef) : Run (Option ClassRef) := do
    match Definition.metaclass w asked refs with
    | some c => return some c
    | none => fail "TypeError" "metaclass conflict"

/-- What a `class` statement has come to when its body is about to run: the values of its decorators,
what it asks for after `metaclass`, the class of the class, its bases, the other named arguments, and
the entity in which its body binds names. -/
structure Opened where
  decorators : List Object
  asked : Option Object
  meta_ : Option ClassRef
  bases : List Object
  named : List (String × Object)
  scope : Nat

/-- What a `class` statement does before its body runs. -/
def openClass (f : Frame) (name : String) (decorators bases : List Expr)
    (named : List (Option String × Expr)) (body : List Statement) : Run Opened := do
  let decorators ← f.values decorators
  let bases ← basesOf f.hooks (← f.items_ bases)
  let named ← f.namedValues named
  checkNames named
  let asked := named.lookup "metaclass"
  let others := named.filter (·.1 ≠ "metaclass")
  let meta_ ← metaclassOf asked bases
  let scope ← create .scope (← f.firstMembers name meta_ bases others)
  match docstring? body with
  | some s => modify fun w => w.setMember scope "__doc__" (.text s)
  | none => pure ()
  return ⟨decorators, asked, meta_, bases, others, scope⟩

/-- What a `class` statement does once its body has run: it makes the class and binds its name. -/
def closeClass (f : Frame) (name : String) (body : List Statement) (c : Opened) : Run Unit := do
  let o ← f.defineClass c.scope name c.asked c.meta_ c.bases c.named body
  f.bind name (← f.decorateAll c.decorators o)

/-! ### Managers -/

/-- Whether the class of an object has something under a name. -/
def hasMember (w : World) (o : Object) (name : String) : Bool :=
  (w.find? (w.classOf o) name).isSome

/-- Enters what a `with` statement manages. What a function gives one by one is taken for such a
thing, and gives what is managed. -/
def enter (f : Frame) (manager : Object) : Run Object := do
  let w ← get
  if manager matches .unknown then return .unknown
  else if isSteps w manager then return (← manager.next? f.hooks).getD .null
  else if ! hasMember w manager "__enter__" || ! hasMember w manager "__exit__" then
    fail "TypeError" ("'" ++ Object.className w manager ++
      "' object does not support the context manager protocol")
  else
    match ← manager.callSpecial? f.hooks "__enter__" [] with
    | some o => return o
    | none => f.call (← manager.member f.hooks "__enter__") (.of [])
where
  /-- Whether an object is what a function gives one by one. -/
  isSteps (w : World) : Object → Bool
    | .entity id =>
      match w.kind? id with
      | some (.pending (.entity _) _) => true
      | some (.steps ..) => true
      | _ => false
    | _ => false

/-- Leaves what a `with` statement manages, and says whether what has been raised is settled. -/
def exit (f : Frame) (manager : Object) (raised : Option Object) : Run Bool := do
  let w ← get
  match raised with
  | none =>
    if enter.isSteps w manager then
      let _ ← manager.next? f.hooks
      return true
    else
      let _ ← leave manager [.null, .null, .null]
      return true
  | some e =>
    match ← leave manager [(w.classOf e).object, e, .unknown] with
    | .unknown => return false
    | o => o.truth f.hooks
where
  /-- What the method for leaving gives. -/
  leave (manager : Object) (arguments : List Object) : Run Object := do
    match ← manager.callSpecial? f.hooks "__exit__" arguments with
    | some o => return o
    | none => f.call (← manager.member f.hooks "__exit__") (.of arguments)

/-- Runs what a `with` statement does with one thing that it manages. -/
def manage (f : Frame) (manager : Object) (target : Option Expr) (body : Run Signal) :
    Run Signal := do
  let entered ← f.enter manager
  let outcome ← attempt do
    match target with
    | some target => f.assign entered target
    | none => pure ()
    body
  match outcome with
  | .ok s =>
    let _ ← f.exit manager none
    return s
  | .error e =>
    if ← handling e (f.exit manager (some e)) then return .done else throw e

/-! ### Statements -/

/-- Runs the handler of an exception, in which a name is bound to it. -/
def withCaught (f : Frame) (e : Object) (name : Option String) (body : Run Signal) : Run Signal :=
  match name with
  | none => handling e body
  | some name => do
    f.bind name e
    let outcome ← attempt (handling e body)
    let own := f.nameOf name
    modify fun w => w.eraseMember (f.placeOf own) own
    settle outcome

mutual

def run (f : Frame) : Statement → Run Signal
  | .expression e => do
    let _ ← f.value e
    return .done
  | .assign targets e => do
    let o ← f.value e
    targets.forM (f.assign o)
    return .done
  | .augment target operator e => do
    f.augment operator e target
    return .done
  | .annotate target isBare type value => do
    match value with
    | some e => f.assign (← f.value e) target
    | none => pure ()
    f.annotate target isBare value.isSome type
    return .done
  | .function head decorators body => do
    let decorators ← f.values decorators
    let defaults ← f.defaultValues head.defaults
    if ! f.postponed then
      let _ ← f.values head.types
    let o ← f.newFunction head.name head.isAsync head.signature defaults body
    f.bind head.name (← f.decorateAll decorators o)
    return .done
  | .class_ name decorators bases named body => do
    let c ← f.openClass name decorators bases named body
    let _ ← (f.ofClass c.scope name body).runAll body
    f.closeClass name body c
    return .done
  | .pass => return .done
  | .return_ value => do return .result (← f.optionValue value)
  | .raise none _ => do
    match (← get).handled with
    | some e => throw e
    | none => fail "RuntimeError" "No active exception to reraise"
  | .raise (some e) none => do throwObject f.hooks (← f.value e) none
  | .raise (some e) (some cause) => do
    let o ← f.value e
    throwObject f.hooks o (some (← f.value cause))
  | .import_ names => do
    names.forM f.import_
    return .done
  | .importFrom level module names => do
    f.importFrom level module names
    return .done
  | .importAll level module => do
    f.importAll level module
    return .done
  | .branch condition yes no => do
    if ← (← f.value condition).truth f.hooks then f.runAll yes else f.runAll no
  | .repeat_ condition body otherwise => do
    let round : Run (Option Signal) := do
      if ← (← f.value condition).truth f.hooks then return (← f.runAll body).afterRound?
      else return some (← f.runAll otherwise)
    whileTrue round maxRounds
  | .loop _ target source body otherwise => do
    let cursor ← Cursor.of f.hooks (← f.value source)
    let round (o : Object) : Run (Option Signal) := do
      f.assign o target
      return (← f.runAll body).afterRound?
    match ← overItems f.hooks round maxRounds cursor with
    | some s => return s
    | none => f.runAll otherwise
  | .managed _ items body => f.runManaged items (f.runAll body)
  | .guarded isGroup body handlers otherwise final => do
    let guarded : Run Signal := do
      match ← attempt (f.runAll body) with
      | .ok .done => f.runAll otherwise
      | .ok s => return s
      | .error e =>
        if isGroup then
          let isBare := (groupOf? (← get) e).isNone
          let group ← if isBare then newGroup (.text "") [e] else pure e
          f.handleGroup e isBare [] (some group) handlers
        else f.handle e handlers
    finally_ guarded (f.runAll final)
  | .select subject cases => do f.choose (← f.value subject) cases
  | .delete targets => do
    f.deleteAll targets
    return .done
  | .declare _ _ => return .done
  | .check condition message => do
    if ← (← f.value condition).truth f.hooks then return .done
    else
      let arguments ← match message with
        | some e => pure [← f.value e]
        | none => pure []
      throw (← newException "AssertionError" arguments [])
  | .leave isBreak => return .leave isBreak

/-- Runs statements one after the other, until one ends in another way than the usual one. -/
def runAll (f : Frame) : List Statement → Run Signal
  | [] => return .done
  | s :: ss => do
    match ← f.run s with
    | .done => f.runAll ss
    | other => return other

/-- Runs the first handler for an exception, or raises that again. -/
def handle (f : Frame) (e : Object) :
    List (Option Expr × Option String × List Statement) → Run Signal
  | [] => throw e
  | (none, _, body) :: _ => f.withCaught e none (f.runAll body)
  | (some kind, name, body) :: rest => do
    if ← handling e (do isCaughtBy e (← f.value kind)) then
      f.withCaught e name (f.runAll body)
    else f.handle e rest

/-- Runs all handlers for parts of a group of exceptions. `raised` is what they have raised, and
`left` is what none of them has handled yet. -/
def handleGroup (f : Frame) (e : Object) (isBare : Bool) (raised : List Object)
    (left : Option Object) : List (Option Expr × Option String × List Statement) → Run Signal
  | [] => throwRest isBare raised (if isBare then left.map fun _ => e else left)
  | (none, _, _) :: rest => f.handleGroup e isBare raised left rest
  | (some kind, name, body) :: rest => do
    match left with
    | none => f.handleGroup e isBare raised none rest
    | some group =>
      let kinds ← handling e (f.value kind)
      let w ← get
      match caughtClasses? w kinds with
      | none =>
        fail "TypeError" "catching classes that do not inherit from BaseException is not allowed"
      | some classes =>
        if classes.any fun c =>
            (w.classRef? c).any fun c => w.isBelow c (.library "BaseExceptionGroup") then
          fail "TypeError" "catching ExceptionGroup with except* is not allowed"
        else
          match ← split classes maxDepth group with
          | (none, _) => f.handleGroup e isBare raised left rest
          | (some matched, left) =>
            match ← attempt (f.withCaught matched name (f.runAll body)) with
            | .ok _ => f.handleGroup e isBare raised left rest
            | .error new => f.handleGroup e isBare (raised ++ [new]) left rest

/-- Runs the body of a `with` statement inside of all that it manages. -/
def runManaged (f : Frame) : List (Expr × Option Expr) → Run Signal → Run Signal
  | [], body => body
  | (e, target) :: rest, body => do f.manage (← f.value e) target (f.runManaged rest body)

/-- Runs the body of the first case that an object matches. -/
def choose (f : Frame) (o : Object) :
    List (Pattern × Option Expr × List Statement) → Run Signal
  | [] => return .done
  | (p, condition, body) :: rest => do
    match ← f.matched? o p with
    | none => f.choose o rest
    | some bound =>
      bound.forM fun (name, o) => f.bind name o
      let holds ← match condition with
        | some e => do pure (← (← f.value e).truth f.hooks)
        | none => pure true
      if holds then f.runAll body else f.choose o rest

end

end Frame
end RouteDocs.Module
