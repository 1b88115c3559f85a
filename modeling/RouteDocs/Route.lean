import RouteDocs.Field
import RouteDocs.OrderedMap

namespace RouteDocs

/-- A route of the application. `controller` is the full name of the controller's class, and
`className` its last part. -/
structure Route where
  host : Option String
  methods : List String
  uri : String
  name : Option String
  controller : String
  className : String
  action : String
  deriving DecidableEq, Repr, Inhabited

namespace Route

/-- The methods with bars between them. -/
def method (r : Route) : String := "|".intercalate r.methods

/-- The class and the action that answer the route. -/
def handler (r : Route) : String := r.className ++ "@" ++ r.action

def ofFields (fields : Fields) : Checked Route :=
  let checked :=
    (Field.optionalText false "host" (fields.lookup "host")).and <|
    (Field.requiredTexts "http_methods" (fields.lookup "http_methods")).and <|
    (Field.requiredText "uri" (fields.lookup "uri")).and <|
    (Field.optionalText false "name" (fields.lookup "name")).and <|
    (Field.requiredText "controller_namespace" (fields.lookup "controller_namespace")).and <|
    (Field.requiredText "controller_class_name" (fields.lookup "controller_class_name")).and <|
    Field.requiredText "action_name" (fields.lookup "action_name")
  checked.map fun (host, methods, uri, name, controller, className, action) =>
    { host, methods, uri, name, controller, className, action }

/-- Routes grouped by controller: the controllers in the order of their first routes, the routes of
each in the order given. -/
def byController (routes : List Route) : OrderedMap String (List Route) :=
  routes.foldl (fun groups r => groups.alter r.controller fun rs => rs.getD [] ++ [r]) .empty

end Route
end RouteDocs
