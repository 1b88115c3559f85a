namespace RouteDocs

/-- What is printed for the user to read, and what is printed about errors. -/
structure Printed where
  out : String
  errors : String
  deriving DecidableEq, Repr, Inhabited

namespace Printed

def nothing : Printed := ⟨"", ""⟩

def append (p q : Printed) : Printed := ⟨p.out ++ q.out, p.errors ++ q.errors⟩

instance : Append Printed := ⟨append⟩

def text (s : String) : Printed := ⟨s, ""⟩

end Printed
end RouteDocs
