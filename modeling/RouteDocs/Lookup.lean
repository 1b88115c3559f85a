import RouteDocs.Failure
import RouteDocs.Printed

namespace RouteDocs

/-- What a look-up gives: a text or none, or trouble; what was printed on the way; and the state
for the next look-up. -/
structure Answer (σ : Type) where
  doc : Except Trouble (Option String)
  printed : Printed
  state : σ

/-- A way to find the documentation of a controller's action. -/
abbrev Lookup (σ : Type) := σ → String → String → Answer σ

end RouteDocs
