import RouteDocs.Block
import RouteDocs.OrderedMap

namespace RouteDocs

/-- The descriptions of the responses with each status code. -/
abbrev Responses := OrderedMap String (List String)

namespace Responses

/-- The responses with the one that a declaration `<code> | <description>` declares. -/
def declare (responses : Responses) (declaration : String) : Responses :=
  let (code, description) := Text.cut '|' declaration
  responses.alter (Text.strip code) fun known => known.getD [] ++ [Text.strip description]

def ofDeclarations (declarations : List String) : Responses := declarations.foldl declare .empty

end Responses
end RouteDocs
