import RouteDocs.Param
import RouteDocs.Response
import RouteDocs.Settings
import RouteDocs.Text.Casing

namespace RouteDocs

structure DocumentTag where
  name : String
  description : String
  deriving DecidableEq, Repr, Inhabited

namespace Route

/-- The verb of a route: its methods in small letters, without the `HEAD` that comes along with a
read. -/
def verb (r : Route) : String := Text.lower (Text.remove "|HEAD" r.method)

/-- The path of a route: its URI without the lead that the settings name. -/
def path (r : Route) (settings : Settings) : String := Text.remove settings.uriLead r.uri

/-- The tag of a route: its URI without the base path, and its class. -/
def tag (r : Route) (settings : Settings) : DocumentTag :=
  ⟨Text.remove settings.basePath r.uri, r.className⟩

/-- The tag of a route's operation: its controller without the lead that the settings name. -/
def operationTag (r : Route) (settings : Settings) : String :=
  Text.dropLeading '.' (Text.remove settings.controllerLead r.controller)

end Route

/-- What a document says about one verb of a path. The responses are texts under each status code
and each of its attributes. -/
structure Operation where
  tags : List String
  summary : Option String
  description : String
  operationId : String
  consumes : List String
  produces : List String
  parameters : List Param
  responses : OrderedMap String (OrderedMap String (List String))
  deriving DecidableEq, Inhabited

namespace Operation

def consumed : List String := ["application/json", "application/xml"]

def produced : List String := ["application/xml", "application/json"]

/-- The responses of an operation, each list of descriptions under its attribute. -/
def describe (responses : Responses) : OrderedMap String (OrderedMap String (List String)) :=
  responses.map fun descriptions => OrderedMap.empty.insert "description" descriptions

end Operation

/-- The operation of a route, or nothing when its action has no annotations. -/
def Route.operation (r : Route) (block : Block) (settings : Settings) :
    Except Failure (Option Operation) := do
  if block.isEmpty then return none
  else
    let parameters ← Param.all block.params r
    return some {
      tags := [r.operationTag settings]
      summary := block.description
      description := r.className
      operationId := ""
      consumes := Operation.consumed
      produces := Operation.produced
      parameters
      responses := Operation.describe (Responses.ofDeclarations block.responses) }

end RouteDocs
