import RouteDocs.Module.Comparison
import RouteDocs.Text.Numeral
import RouteDocs.Text.Quoted

namespace RouteDocs.Module

/-- A class by the names of its module and the classes around it; those that every module can name
stand by themselves. -/
def World.classPath (w : World) : ClassRef → String
  | .own id =>
    match w.class? id with
    | some c =>
      match w.member? id "__module__" with
      | some (.text module) => if module = "builtins" then c.qualified
        else module ++ "." ++ c.qualified
      | _ => c.qualified
    | none => ""
  | .library path => path

/-- What stands for the address of an object, which nothing depends on. -/
def addressText : String := "0x7f0000000000"

namespace Object

def integerText (n : Int) : Run String :=
  if Numeral.isTooLong n then
    fail "ValueError" "Exceeds the limit (4300 digits) for integer string conversion"
  else return toString n

def enclose (start stop : String) (parts : List String) : String :=
  start ++ ", ".intercalate parts ++ stop

/-- A tuple of texts; the only one has a comma behind it. -/
def tupleText (parts : List String) : String :=
  match parts with
  | [part] => "(" ++ part ++ ",)"
  | _ => enclose "(" ")" parts

/-- What a method gives has to be a text. -/
def expectText (name : String) (o : Object) : Run String := do
  match (← get).content o with
  | .text s => return s
  | .unknown => return ""
  | _ => fail "TypeError" (name ++ " returned non-string")

def allShown (one : Object → Run String) : List Object → Run (List String)
  | [] => return []
  | o :: os => do
    let s ← one o
    return s :: (← allShown one os)

def entriesShown (one : Object → Run String) : List (Object × Object) → Run (List String)
  | [] => return []
  | (k, v) :: rest => do
    let key ← one k
    let value ← one v
    return (key ++ ": " ++ value) :: (← entriesShown one rest)

def typeText (w : World) (one : Object → Run String) (o : Object) : Run String :=
  match w.classRef? o with
  | some c => return w.classPath c
  | none => if o matches .ellipsis then return "..." else one o

def typesText (w : World) (one : Object → Run String) : List Object → Run (List String)
  | [] => return []
  | o :: os => do
    let s ← typeText w one o
    return s :: (← typesText w one os)

def libraryText (path : String) : String :=
  let name := (Text.cutLast '.' path).2
  match Library.meaning path with
  | .class_ => "<class '" ++ path ++ "'>"
  | .module => "<module '" ++ path ++ "' (built-in)>"
  | .callable =>
    if isMethodPath path then
      let kind := if "__".isPrefixOf name then "slot wrapper" else "method"
      "<" ++ kind ++ " '" ++ name ++ "' of '" ++ (Text.cutLast '.' path).1 ++ "' objects>"
    else if path.toList.contains '.' then "<function " ++ name ++ " at " ++ addressText ++ ">"
    else "<built-in function " ++ name ++ ">"
  | .other => "<" ++ path ++ ">"

/-- The name of a class of the library, and what an instance of it goes over, where it is only another
view of that. -/
def view? (w : World) (o : Object) : Option (String × Object) :=
  match o with
  | .entity id =>
    match w.kind? id with
    | some (.instance_ (.library path) items) =>
      if "dict_".isPrefixOf path then some (path, items) else none
    | _ => none
  | _ => none

/-- An object as the library shows it. `inner` shows what lies in it, behind the collections
`around` it. -/
def shownPlainly (inner : List Nat → Object → Run String) (around : List Nat) (o : Object) :
    Run String := do
  let w ← get
  let here := inner around
  match view? w o with
  | some (name, .entity id) =>
    let items := match w.kind? id with
      | some (.list items) => items
      | some (.set _ items) => items
      | _ => []
    return name ++ "(" ++ enclose "[" "]" (← allShown here items) ++ ")"
  | some (name, _) => return name ++ "([])"
  | none =>
  match w.content o with
  | .null => return "None"
  | .ellipsis => return "Ellipsis"
  | .notImplemented => return "NotImplemented"
  | .bool b => return if b then "True" else "False"
  | .int n => integerText n
  | .float x => return (Number.float x).text
  | .complex re im => return (Number.complex re im).text
  | .text s => return Text.quoted s
  | .bytes content => return Text.quotedBytes content
  | .tuple items => return tupleText (← allShown here items)
  | .range first stop step =>
    let ends := [toString first, toString stop]
    return enclose "range(" ")" (if step = 1 then ends else ends ++ [toString step])
  | .slice first last step =>
    return enclose "slice(" ")" (← allShown here [first, last, step])
  | .library path => return libraryText path
  | .method path self =>
    return "<built-in method " ++ (Text.cutLast '.' path).2 ++ " of " ++ className w self ++
      " object at " ++ addressText ++ ">"
  | .bound (.entity id) _ =>
    return "<bound method " ++ ((w.function? id).map Function.qualified).getD "" ++ ">"
  | .bound .. => return "<bound method>"
  | .staticMethod function => return "<staticmethod(" ++ (← here function) ++ ")>"
  | .classMethod function => return "<classmethod(" ++ (← here function) ++ ")>"
  | .property .. => return "<property object at " ++ addressText ++ ">"
  | .above .. => return "<super object>"
  | .alias origin arguments =>
    let parts := match arguments with
      | .tuple items => items
      | one => [one]
    let shown ← typesText w here parts
    return (← typeText w here origin) ++ enclose "[" "]" shown
  | .union members => return " | ".intercalate (← typesText w here members)
  | .unknown => return ""
  | .entity id =>
    let within := inner (id :: around)
    match w.kind? id with
    | some (.list items) =>
      if around.contains id then return "[...]"
      else return enclose "[" "]" (← allShown within items)
    | some (.mapping entries) =>
      if around.contains id then return "\x7b...\x7d"
      else return enclose "\x7b" "\x7d" (← entriesShown within entries)
    | some (.set isFrozen items) =>
      let name := w.className (w.classOf o)
      if items.isEmpty then return name ++ "()"
      else
        let shown := enclose "\x7b" "\x7d" (← allShown within items)
        return if isFrozen || name ≠ "set" then name ++ "(" ++ shown ++ ")" else shown
    | some (.class_ _) => return "<class '" ++ w.classPath (.own id) ++ "'>"
    | some (.function f) => return "<function " ++ f.qualified ++ " at " ++ addressText ++ ">"
    | some (.module name _) => return "<module '" ++ name ++ "'>"
    | some (.instance_ c (.tuple items)) =>
      if w.isException c then
        let shown ← allShown within items
        return w.className c ++ (match shown with
          | [part] => "(" ++ part ++ ")"
          | parts => tupleText parts)
      else return "<" ++ w.classPath c ++ " object at " ++ addressText ++ ">"
    | _ => return "<" ++ w.classPath (w.classOf o) ++ " object at " ++ addressText ++ ">"

/-- An object in which no more than `n` collections lie in one another. `around` are the collections
that it lies in. -/
def shownWithin (h : Hooks) : Nat → List Nat → Object → Run String
  | 0, _, _ => fail "RecursionError" "maximum recursion depth exceeded"
  | n + 1, around, o => do
    match ← o.callSpecial? h "__repr__" [] with
    | some s => expectText "__repr__" s
    | none => shownPlainly (shownWithin h n) around o

/-- An object as it is shown inside a collection. -/
def shown (h : Hooks) (o : Object) : Run String := shownWithin h maxDepth [] o

/-- An object as the library shows it, whatever its class says. -/
def shownByLibrary (h : Hooks) (o : Object) : Run String :=
  shownPlainly (shownWithin h maxDepth) [] o

/-- The text of an exception: that of its only argument, or of all. -/
def exceptionText (h : Hooks) (plain : Object → Run String) (o : Object) : Run String := do
  let w ← get
  let arguments := w.exceptionArguments o
  let isA (path : String) : Bool := w.isInstance o (.library path)
  let field (name : String) : Object :=
    match o with
    | .entity id => (w.member? id name).getD .null
    | _ => .null
  let usual : Run String := do
    match arguments with
    | [] => return ""
    | [one] => if isA "KeyError" then one.shown h else plain one
    | _ => (Object.tuple arguments).shown h
  if isA "OSError" then
    match field "errno", field "strerror", field "filename" with
    | .null, _, _ => usual
    | _, .null, _ => usual
    | number, message, .null =>
      return "[Errno " ++ (← plain number) ++ "] " ++ (← plain message)
    | number, message, filename =>
      return "[Errno " ++ (← plain number) ++ "] " ++ (← plain message) ++ ": " ++
        (← filename.shown h)
  else if isA "ImportError" then
    match field "msg" with
    | .text s => return s
    | _ => usual
  else if isA "SyntaxError" then
    match field "msg", field "lineno" with
    | .null, .null => usual
    | message, .int line => return (← plain message) ++ " (line " ++ toString line ++ ")"
    | message, _ => plain message
  else if isA "BaseExceptionGroup" then
    match arguments with
    | [message, group] =>
      let count := ((w.itemsOf? group).getD []).length
      return (← plain message) ++ " (" ++ toString count ++ " sub-exception" ++
        (if count = 1 then "" else "s") ++ ")"
    | _ => usual
  else if isA "UnicodeDecodeError" then
    match field "encoding", field "object", field "start", field "end", field "reason" with
    | .text encoding, .bytes content, .int start, .int stop, .text reason =>
      if stop = start + 1 then
        let byte := ((content[start.toNat]?).map UInt8.toNat).getD 0
        return "'" ++ encoding ++ "' codec can't decode byte 0x" ++
          .ofList (Text.hexDigits byte 2) ++ " in position " ++ toString start ++ ": " ++ reason
      else
        return "'" ++ encoding ++ "' codec can't decode bytes in position " ++ toString start ++
          "-" ++ toString (stop - 1) ++ ": " ++ reason
    | _, _, _, _, _ => usual
  else usual

/-- An object by itself, of which no more than `n` exceptions lie in one another. -/
def plainWithin (h : Hooks) : Nat → Object → Run String
  | 0, _ => fail "RecursionError" "maximum recursion depth exceeded"
  | n + 1, o => do
    let w ← get
    match w.find? (w.classOf o) "__str__" with
    | some (.own _) =>
      match ← o.callSpecial? h "__str__" [] with
      | some s => expectText "__str__" s
      | none => return ""
    | _ =>
      match w.content o with
      | .text s => return s
      | _ =>
        if w.isException (w.classOf o) then exceptionText h (plainWithin h n) o
        else o.shown h

def plain (h : Hooks) (o : Object) : Run String := plainWithin h maxDepth o

/-- An object by itself as the library writes it, whatever its class says. -/
def plainByLibrary (h : Hooks) (o : Object) : Run String := do
  let w ← get
  match w.content o with
  | .text s => return s
  | _ => if w.isException (w.classOf o) then exceptionText h (plain h) o else o.shown h

end Object
end RouteDocs.Module
