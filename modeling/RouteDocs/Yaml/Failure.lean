namespace RouteDocs.Yaml

/-- Why a text has no value. -/
inductive Failure where
  /-- The text is not a well-formed document, or a node has a kind that has no values. -/
  | malformed
  /-- A number, day, time or character that does not exist. -/
  | outOfRange
  /-- A number or code beyond what can be computed with. -/
  | overflow
  /-- A truth value that is spelled by none of the words for it. -/
  | unknownWord
  /-- A number without any character. -/
  | noDigits
  /-- A time stamp that is not spelled as one. -/
  | notATimestamp
  /-- A mapping where the spelling of a time stamp has to be. -/
  | notASpelling
  /-- A default value that contains itself. -/
  | endless
  deriving DecidableEq, Repr

/-- The failure of a text that is no document. -/
def malformed {α : Type} : Except Failure α := .error .malformed

end RouteDocs.Yaml
