import RouteDocs.Route
import RouteDocs.Text.Casing
import RouteDocs.Value.Display
import RouteDocs.Yaml.File

namespace RouteDocs.Manifest

/-- The controller class of a route that no action answers. -/
def closure : String := "Closure"

/-- The methods of an item: its list, its text cut at the bars, or those of a plain read. -/
def methods (index : Nat) (entries : List (Value × Value)) : Except Failure (List Value) :=
  match (Value.get? "methods" entries).map Value.opened with
  | none => .ok [.text "GET", .text "HEAD"]
  | some (.text s) => .ok ((Text.splitAt '|' s).map .text)
  | some (.list items) => .ok items
  | some _ => .error (.methodsNotList index)

def textOf (v : Value) : Except Failure String :=
  if v.isShowable then .ok v.plain else .error (.trouble .numberTooLong)

/-- The text of an item's action; a missing or empty one counts as the empty text. -/
def action (index : Nat) (entries : List (Value × Value)) : Except Failure String :=
  match Value.get? "action" entries with
  | none => .ok ""
  | some v =>
    if v.isEmpty then .ok ""
    else
      match v with
      | .text s => .ok s
      | _ => .error (.actionNotText index)

/-- The controller, the name of its class and the action that an action text names. -/
def handler (action : String) : String × String × String :=
  let (controller, name) := Text.cut '@' action
  (controller, (Text.cutLast '.' controller).2, name)

/-- The route that an item describes; nothing for a route without a controller, whose other fields
are not looked at. -/
def route? (index : Nat) (item : Value) : Except Failure (Option Route) := do
  let .mapping entries := item.opened | .error (.routeWithoutUri index)
  let some uri := Value.get? "uri" entries | .error (.routeWithoutUri index)
  let (controller, className, action) := handler (← action index entries)
  if controller.isEmpty || className == closure then return none
  else
    let methods ← (← methods index entries).mapM textOf
    let uri ← textOf uri
    let checked :=
      (Field.optionalText false "host" (Value.get? "domain" entries)).and
        (Field.optionalText false "name" (Value.get? "name" entries))
    match checked with
    | .error issues => .error (.routeInvalid index issues)
    | .ok (host, name) =>
      return some {
        host, name, controller, className, action
        methods := methods.map Text.upper
        uri }

/-- The routes that the items from the one with a number on describe. -/
def routesFrom : Nat → List Value → Except Failure (List Route)
  | _, [] => .ok []
  | index, item :: items => do
    let route ← route? index item
    return route.toList ++ (← routesFrom (index + 1) items)

/-- The items of a manifest: the document itself, or what it holds under `routes`. -/
def items (path : String) (v : Value) : Except Failure (List Value) :=
  match v.opened with
  | .mapping entries =>
    match (Value.get? "routes" entries).map Value.opened with
    | none => .ok []
    | some (.list items) => .ok items
    | some _ => .error (.manifestNotList path)
  | .list items => .ok items
  | _ => .error (.manifestNotList path)

/-- The routes in the document of a manifest file. -/
def routes (path : String) (v : Value) : Except Failure (List Route) := do
  routesFrom 0 (← items path v)

def load (disk : Disk) (path : FilePath) : Except Failure (List Route) := do
  routes path.text (← disk.readDocument path (.manifestMalformed path.text))

end RouteDocs.Manifest
