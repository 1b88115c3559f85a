import RouteDocs.Text.Blank
import RouteDocs.Text.Cut

namespace RouteDocs

/-- A path: its steps, none of them empty or `.`, from the root or from the working directory. -/
structure FilePath where
  isAbsolute : Bool
  steps : List String
  deriving DecidableEq, Repr, Inhabited

namespace FilePath

def stepsOf (s : String) : List String :=
  (Text.splitAt '/' s).filter fun step => step ≠ "" && step ≠ "."

def ofText (s : String) : FilePath := ⟨s.toList.head? == some '/', stepsOf s⟩

/-- The text of a path. The working directory is written `.`. -/
def text (p : FilePath) : String :=
  let steps := "/".intercalate p.steps
  if p.isAbsolute then "/" ++ steps
  else if p.steps.isEmpty then "."
  else steps

/-- The path that `q` names when it starts at `p`; an absolute `q` is itself. -/
def join (p q : FilePath) : FilePath :=
  if q.isAbsolute then q else { p with steps := p.steps ++ q.steps }

def child (p : FilePath) (name : String) : FilePath := p.join (ofText name)

/-- The last step with `extension` in place of its own, if there is a last step. What follows the
last point of a name is its extension, unless the point starts or ends the name. -/
def withExtension? (p : FilePath) (extension : String) : Option FilePath :=
  match p.steps.getLast? with
  | none => none
  | some name =>
    let (base, own) := Text.cutLast '.' name
    let stem := if base.isEmpty || own.isEmpty then name else base
    some { p with steps := p.steps.dropLast ++ [stem ++ extension] }

end FilePath
end RouteDocs
