import RouteDocs.Module.Refusal

namespace RouteDocs.Module.Exception

/-- The class of the library that a class is based on and that decides how it is made: the first in
its order that takes its arguments in its own way. -/
def maker (w : World) (c : ClassRef) : String :=
  let makers := ["BaseExceptionGroup", "OSError", "ImportError", "AttributeError", "NameError",
    "SyntaxError", "SystemExit", "StopIteration", "UnicodeDecodeError", "UnicodeEncodeError",
    "UnicodeTranslateError", "json.decoder.JSONDecodeError", "BaseException"]
  ((w.order c).findSome? fun k =>
    match k with
    | .library path => if makers.contains path then some path else none
    | .own _ => none).getD "BaseException"

/-- The class for a number of an error of the system. -/
def ofSystemError? (number : Int) : Option String :=
  [(1, "PermissionError"), (2, "FileNotFoundError"), (3, "ProcessLookupError"),
    (4, "InterruptedError"), (10, "ChildProcessError"), (11, "BlockingIOError"),
    (13, "PermissionError"), (17, "FileExistsError"), (20, "NotADirectoryError"),
    (21, "IsADirectoryError"), (32, "BrokenPipeError"), (103, "ConnectionAbortedError"),
    (104, "ConnectionResetError"), (108, "BrokenPipeError"), (110, "TimeoutError"),
    (111, "ConnectionRefusedError"), (114, "BlockingIOError"),
    (115, "BlockingIOError")].lookup number

def failNamed {α : Type} (name : String) : Run α :=
  fail "TypeError" (name ++ "() takes no keyword arguments")

def systemFields : List Object → List (String × Object)
  | [number, message] => [("errno", number), ("strerror", message)]
  | number :: message :: file :: rest =>
    [("errno", number), ("strerror", message), ("filename", file)] ++
      (match rest with
        | [_, other] => [("filename2", other)]
        | _ => [])
  | _ => []

def syntaxFields (w : World) (arguments : List Object) : Run (List (String × Object)) := do
  match arguments with
  | [message, info] =>
    match w.itemsOf? info with
    | some items =>
      if items.length < 4 ∨ 6 < items.length then raise "TypeError"
      else if items.length = 5 then raise "TypeError"
      else
        let names := ["filename", "lineno", "offset", "text", "end_lineno", "end_offset"]
        return ("msg", message) :: names.zip items
    | none => raise "TypeError"
  | message :: _ => return [("msg", message)]
  | [] => return []

/-- Checks that the arguments of a failed coding are what they have to be. -/
def codingFields (path : String) (arguments : List Object) : Run (List (String × Object)) := do
  match path, arguments with
  | "UnicodeDecodeError", [.text a, .bytes b, .int c, .int d, .text e] =>
    return [("encoding", .text a), ("object", .bytes b), ("start", .int c), ("end", .int d),
      ("reason", .text e)]
  | "UnicodeEncodeError", [.text a, .text b, .int c, .int d, .text e] =>
    return [("encoding", .text a), ("object", .text b), ("start", .int c), ("end", .int d),
      ("reason", .text e)]
  | "UnicodeTranslateError", [.text b, .int c, .int d, .text e] =>
    return [("object", .text b), ("start", .int c), ("end", .int d), ("reason", .text e)]
  | _, _ => raise "TypeError"

/-- The fields that the arguments of an exception amount to. `path` decides how they are taken, and
`name` is the name of the class. -/
def fields (path name : String) (arguments : Arguments) : Run (List (String × Object)) := do
  let w ← get
  let allowed := match path with
    | "ImportError" => ["name", "path"]
    | "AttributeError" => ["name", "obj"]
    | "NameError" => ["name"]
    | _ => []
  if arguments.named.any fun (key, _) => ! allowed.contains key then
    if allowed.isEmpty then failNamed name
    else fail "TypeError" ("invalid keyword argument for " ++ path)
  else
    match path, arguments.placed with
    | "ImportError", [message] => return ("msg", message) :: arguments.named
    | "SystemExit", [code] => return [("code", code)]
    | "SystemExit", [] => return []
    | "SystemExit", all => return [("code", .tuple all)]
    | "StopIteration", value :: _ => return [("value", value)]
    | "OSError", all => return systemFields all
    | "SyntaxError", all => syntaxFields w all
    | "UnicodeDecodeError", all => codingFields path all
    | "UnicodeEncodeError", all => codingFields path all
    | "UnicodeTranslateError", all => codingFields path all
    | _, _ => return arguments.named

def kept (path : String) (arguments : List Object) : List Object :=
  match path, arguments with
  | "OSError", number :: message :: _ :: _ => [number, message]
  | _, all => all

/-- A new group of exceptions, which is one of errors if all its members are. -/
def makeGroup (h : Hooks) (c : ClassRef) (arguments : Arguments) : Run Object := do
  let w ← get
  match arguments.placed, arguments.named with
  | [.text message, group], [] =>
    let isSequence := match group with
      | .tuple _ => true
      | .text _ => true
      | _ => (Object.list? w group).isSome
    if ! isSequence then
      fail "TypeError" "second argument (exceptions) must be a sequence"
    else
      let members ← group.items h
      let isErrors := members.all fun o => w.isInstance o (.library "Exception")
      if members.isEmpty then
        fail "ValueError" "second argument (exceptions) must be a non-empty sequence"
      else if ! members.all fun o => w.isException (w.classOf o) then
        fail "ValueError" "Item 0 of second argument (exceptions) is not an exception"
      else if ! isErrors && w.isBelow c (.library "Exception") then
        fail "TypeError" "Cannot nest BaseExceptions in an ExceptionGroup"
      else
        let c := if isErrors && c = .library "BaseExceptionGroup" then
            .library "ExceptionGroup" else c
        return .entity (← create (.instance_ c (.tuple [.text message, group]))
          [("message", .text message), ("exceptions", .tuple members)])
  | _, _ => raise "TypeError"

def make (h : Hooks) (c : ClassRef) (arguments : Arguments) : Run Object := do
  let w ← get
  match maker w c with
  | "BaseExceptionGroup" => makeGroup h c arguments
  | "OSError" =>
    let all := arguments.placed
    let c := match c, all with
      | .library "OSError", number :: _ :: _ =>
        match number.int?.bind ofSystemError? with
        | some path => .library path
        | none => c
      | _, _ => c
    return .entity (← create (.instance_ c (.tuple (kept "OSError" all))) (systemFields all))
  | _ => return .entity (← create (.instance_ c (.tuple arguments.placed)) [])

/-- The last part of a message about a malformed document: the place of the fault. -/
def placeText (doc : String) (place : Nat) : String :=
  let before := doc.toList.take place
  let line := before.count '\n' + 1
  let column := (before.reverse.takeWhile (· ≠ '\n')).length + 1
  ": line " ++ toString line ++ " column " ++ toString column ++ " (char " ++ toString place ++ ")"

/-- Sets an exception up with arguments, as the class of the library does that decides about it. -/
def setUp (h : Hooks) (self : Object) (arguments : Arguments) : Run Unit := do
  let w ← get
  match self with
  | .entity id =>
    let c := w.classOf self
    let path := maker w c
    if path = "BaseExceptionGroup" then return
    else if path = "json.decoder.JSONDecodeError" then
      match arguments.placed with
      | [.text message, .text doc, .int place] =>
        let all : Object := .text (message ++ placeText doc place.toNat)
        modify fun w => (w.setKind id (.instance_ c (.tuple [all]))).change id fun e =>
          { e with members := [("msg", .text message), ("doc", .text doc),
              ("pos", .int place)].foldl (fun m (key, o) => m.insert key o) e.members }
      | [_, _, _] => return
      | _ => raise "TypeError"
    else
      let found ← match Refusal.decidingClass? w c with
        | some name => Refusal.fields h name arguments
        | none => fields path (w.className c) arguments
      modify fun w =>
        (w.setKind id (.instance_ c (.tuple (kept path arguments.placed)))).change id fun e =>
          { e with members := found.foldl (fun m (key, o) => m.insert key o) e.members }
  | _ => return

/-- What a `raise` statement raises: an exception, or a new one of a class. -/
def ofRaised (h : Hooks) (o : Object) : Run Object := do
  let w ← get
  let wrong {α : Type} : Run α := fail "TypeError" "exceptions must derive from BaseException"
  match w.classRef? o with
  | some c =>
    if w.isException c then
      let e ← h.call o (.of [])
      let w ← get
      if w.isException (w.classOf e) then return e else wrong
    else wrong
  | none => if w.isException (w.classOf o) then return o else wrong

def isCause (w : World) (o : Object) : Bool :=
  match o with
  | .null => true
  | .unknown => true
  | _ =>
    match w.classRef? o with
    | some c => w.isException c
    | none => w.isException (w.classOf o)

/-- What an exception tells those outside. -/
def raised (h : Hooks) (e : Object) : Run Raised := do
  let w ← get
  let name := Object.className w e
  let isA (path : String) : Bool := w.isInstance e (.library path)
  if let some plea ← Refusal.plea? h e then return ⟨name, plea⟩
  else if isA "ModuleNotFoundError" then
    match ← e.memberOrNone h "name" with
    | some (.text missing) => return ⟨name, .moduleMissing (some missing)⟩
    | some o => if ← o.truth h then return .error "TypeError" else return ⟨name, .moduleMissing none⟩
    | none => return .error "AttributeError"
  else if isA "SystemExit" then
    match ← e.memberOrNone h "code" with
    | some .null => return ⟨name, .exit 0 none⟩
    | some o =>
      match o.int? with
      | some n => return ⟨name, .exit n none⟩
      | none => return ⟨name, .exit 1 (some (← o.plain h))⟩
    | none => return ⟨name, .exit 0 none⟩
  else if isA "KeyboardInterrupt" || isA "EOFError" then return ⟨name, .interrupt⟩
  else if isA "OSError" then
    match ← e.memberOrNone h "errno" with
    | some (.int 32) => return ⟨name, .brokenPipe⟩
    | _ => return .error name
  else return .error name

end RouteDocs.Module.Exception
