import RouteDocs.Failure
import RouteDocs.Value
import RouteDocs.Decimal.Shortest

namespace RouteDocs

/-- A value, or the issues of the fields it is made of. -/
abbrev Checked (α : Type) := Except (List Issue) α

/-- Two values, or the issues of both. -/
def Checked.and {α β : Type} (a : Checked α) (b : Checked β) : Checked (α × β) :=
  match a, b with
  | .ok x, .ok y => .ok (x, y)
  | .error is, .error js => .error (is ++ js)
  | .error is, .ok _ => .error is
  | .ok _, .error js => .error js

namespace Field

/-- The text that a value is. Bytes are read as UTF-8, and where `numbersToo` holds a number is as
good as its text. -/
def textOf (numbersToo : Bool) : Value → Except IssueKind String
  | .text s => .ok s
  | .bytes content =>
    match String.fromUTF8? ⟨content.toArray⟩ with
    | some s => .ok s
    | none => .error .notUnicode
  | .int n => if numbersToo then .ok (toString n) else .error .notText
  | .float x => if numbersToo then .ok (DecimalStyle.standard.write x) else .error .notText
  | _ => .error .notText

def text (numbersToo : Bool) (name : String) (v : Value) : Checked String :=
  match textOf numbersToo v with
  | .ok s => .ok s
  | .error kind => .error [⟨name, kind⟩]

def requiredText (name : String) : Option Value → Checked String
  | some v => text false name v
  | none => .error [⟨name, .missing⟩]

def optionalText (numbersToo : Bool) (name : String) : Option Value → Checked (Option String)
  | none => .ok none
  | some .null => .ok none
  | some v => (text numbersToo name v).map some

/-- The texts of the items from the one with a number on. -/
def itemTexts (name : String) : Nat → List Value → Checked (List String)
  | _, [] => .ok []
  | i, v :: vs =>
    ((text false (name ++ "." ++ toString i) v).and (itemTexts name (i + 1) vs)).map fun (s, ss) =>
      s :: ss

def texts (name : String) : Value → Checked (List String)
  | .list items => itemTexts name 0 items
  | _ => .error [⟨name, .notList⟩]

def requiredTexts (name : String) : Option Value → Checked (List String)
  | some v => texts name v
  | none => .error [⟨name, .missing⟩]

def optionalTexts (name : String) : Option Value → Checked (List String)
  | some v => texts name v
  | none => .ok []

end Field

/-- The fields of a record by their names. -/
abbrev Fields := List (String × Value)

end RouteDocs
