import RouteDocs.Module.Frame

namespace RouteDocs.Module

/-- The name of the package that a module belongs to; a package belongs to itself. -/
def packageOf (name : String) (isPackage : Bool) : String :=
  if isPackage then name else (Text.cutLast '.' name).1

/-- The name of the module that an import with leading points means, in a module of a package. -/
def absoluteName? (package : String) (level : Nat) (name : String) : Option String :=
  if level = 0 then some name
  else
    let segments := Text.splitAt '.' package
    if package.isEmpty ∨ segments.length < level then none
    else
      let base := ".".intercalate (segments.take (segments.length - (level - 1)))
      some (if name.isEmpty then base else base ++ "." ++ name)

namespace Frame

def absoluteName (f : Frame) (level : Nat) (name : String) : Run String := do
  let wrong : Run String :=
    fail "ImportError" "attempted relative import with no known parent package"
  match (← get).kind? f.module with
  | some (.module own places) =>
    match absoluteName? (packageOf own places.isSome) level name with
    | some full => return full
    | none => wrong
  | _ => if level = 0 then return name else wrong

/-- The name under which a module is loaded, and whether it is a package. -/
def moduleOf (w : World) : Object → Option (String × Bool)
  | .entity id =>
    match w.kind? id with
    | some (.module name places) => some (name, places.isSome)
    | _ => none
  | .library path =>
    if Library.meaning path = .module then some (path, Library.isPackage path) else none
  | _ => none

/-- Loads the module of a package that is to be taken from it, unless the package has a member of
that name. That there is no such module is no trouble yet. -/
def loadMember (f : Frame) (package : Object) (name : String) : Run Unit := do
  match moduleOf (← get) package with
  | some (own, true) =>
    if (← package.memberOrNone f.hooks name).isSome then return
    else
      let full := own ++ "." ++ name
      tryCatch (do let _ ← f.hooks.load full) fun e => do
        let w ← get
        if w.isInstance e (.library "ModuleNotFoundError") then
          match ← e.memberOrNone f.hooks "name" with
          | some (.text missing) => if missing = full then return else throw e
          | _ => throw e
        else throw e
  | _ => return

/-- A name taken from a module: a member, or a module of its package. -/
def taken (f : Frame) (module : Object) (name : String) : Run Object := do
  match ← module.memberOrNone f.hooks name with
  | some o => return o
  | none =>
    let w ← get
    let own := ((moduleOf w module).map Prod.fst).getD ""
    match w.modules.find? (own ++ "." ++ name) with
    | some o => return o
    | none =>
      throw (← newException "ImportError"
        [.text ("cannot import name '" ++ name ++ "' from '" ++ own ++ "'")]
        [("msg", .text ("cannot import name '" ++ name ++ "'")), ("name", .text own)])

/-- Binds the module that a dotted name starts with, after the whole has been loaded; under another
name, the last module. -/
def import_ (f : Frame) (item : ImportName) : Run Unit := do
  let o ← f.hooks.load item.name
  let segments := Text.splitAt '.' item.name
  match segments with
  | [] => return
  | first :: rest =>
    let outer ← if rest.isEmpty then pure o else f.hooks.load first
    match item.binding with
    | none => f.bind first outer
    | some name => f.bind name (← rest.foldlM (fun o segment => f.taken o segment) outer)

/-- Binds names that are taken from a module. -/
def importFrom (f : Frame) (level : Nat) (name : String) (items : List ImportName) :
    Run Unit := do
  let o ← f.hooks.load (← f.absoluteName level name)
  items.forM fun item => f.loadMember o item.name
  items.forM fun item => do f.bind (item.binding.getD item.name) (← f.taken o item.name)

/-- The names that a module lists to be given away. -/
def listed (w : World) (names : Object) : Run (List Object) :=
  match w.content names with
  | .tuple items => return items
  | .text s => return s.toList.map fun c => .text (.ofList [c])
  | inner =>
    match Object.list? w inner with
    | some (_, items) => return items
    | none => if names matches .unknown then return [] else raise "TypeError"

/-- Names that have to be texts. -/
def textsOf (names : List Object) : Run (List String) :=
  names.mapM fun o =>
    match o with
    | .text s => return s
    | _ => fail "TypeError" "Item in __all__ must be str"

/-- Binds names with what a module has under them. -/
def bindMembers (f : Frame) (module : Object) (names : List String) : Run Unit :=
  names.forM fun name => do f.bind name (← module.member f.hooks name)

/-- Binds all names that a module gives away: those it lists, or all that do not start with `_`. -/
def importAll (f : Frame) (level : Nat) (name : String) : Run Unit := do
  match ← f.hooks.load (← f.absoluteName level name) with
  | .entity id =>
    let module := Object.entity id
    match ← module.memberOrNone f.hooks "__all__" with
    | some names =>
      let all ← listed (← get) names
      let isPackage := ((moduleOf (← get) module).map Prod.snd).getD false
      if isPackage then (← textsOf all).forM (f.loadMember module)
      f.bindMembers module (← textsOf all)
    | none =>
      let members := (((← get).entity? id).map Entity.members).getD .empty
      members.entries.forM fun (name, o) => do
        if "_".isPrefixOf name then return else f.bind name o
  | .library path =>
    let before := match (← get).member? f.module anyName with
      | some (.tuple libraries) => libraries
      | _ => []
    modify fun w => w.setMember f.module anyName (.tuple (.library path :: before))
  | _ => return

end Frame
end RouteDocs.Module
