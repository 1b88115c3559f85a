namespace RouteDocs.Module.Library

/-- How a member of a class is used: by its instances, by the class, by nobody in particular, as
a field that every instance has for itself, or as what it is. -/
inductive MemberKind where
  | method
  | classMethod
  | staticMethod
  | field
  | value
  deriving DecidableEq, Repr

/-- A member of a class. One without documentation has an empty one. -/
structure Member where
  name : String
  kind : MemberKind
  doc : String
  deriving DecidableEq, Repr

/-- A class, the classes that it is based on, and its members. -/
structure ClassInfo where
  path : String
  bases : List String
  doc : String
  members : List Member
  deriving DecidableEq, Repr

end RouteDocs.Module.Library
