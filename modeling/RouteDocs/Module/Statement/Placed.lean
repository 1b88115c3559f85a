import RouteDocs.Module.Pattern.Placed

namespace RouteDocs.Module
open Survey

/-- The names of the features that a module can ask for beforehand. -/
def features : List String := [
  "nested_scopes", "generators", "division", "absolute_import", "with_statement", "print_function",
  "unicode_literals", "barry_as_FLUFL", "generator_stop", "annotations"]

/-- The module whose names are those of features. -/
def featureModule : String := "__future__"

/-- The name that an import of a module binds. -/
def ImportName.bound (i : ImportName) : String := i.binding.getD (Text.cut '.' i.name).1

/-- The name that a name taken from a module is bound to. -/
def ImportName.taken (i : ImportName) : String := i.binding.getD i.name

/-- What is found in what stands before the body of a function. -/
def Head.survey (p : Place) (h : Head) : Survey :=
  ofBinding p h.name ++ Expr.surveyDefaults p h.defaults ++ surveyTypes h.types
where
  /-- What is found in types. That of the parameter for all further arguments can have a star. -/
  surveyTypes : List Expr → Survey
    | [] => nothing
    | .starred e :: es => ofType p (e.survey p) ++ surveyTypes es
    | e :: es => ofType p (e.survey p) ++ surveyTypes es

namespace Statement

/-- What is found in the items of a `with` statement. -/
def surveyManagers (p : Place) : List (Expr × Option Expr) → Survey
  | [] => nothing
  | (e, target) :: rest =>
    e.survey p ++ ((target.map (Expr.surveyTarget p)).getD nothing) ++ surveyManagers p rest

mutual

def survey (p : Place) : Statement → Survey
  | .expression e => e.survey p
  | .assign targets e => targets.foldl (fun s t => s ++ t.surveyTarget p) nothing ++ e.survey p
  | .augment target _ e => target.surveyTarget p ++ e.survey p
  | .annotate target isBare type value =>
    let found := match target with
      | .name id =>
        let here := if isBare then ofMention (.annotate (p.nameOf id))
          else if value.isSome then ofBinding p id else nothing
        here ++ ofBool (id != constantName)
      | _ => target.surveyTarget p
    let unused := p.region matches .function _
    let inType := if unused then { p with region := .function true } else p
    found ++ ofType p (type.survey inType) ++ Expr.surveyOption p value
  | .function head decorators body =>
    let inner := p.function head.isAsync
    let found := surveyAll inner body
    head.survey p ++ Expr.surveyAll p decorators ++
      enclosed .function (ofParameters inner head.signature ++ found ++
        ofBool (! (head.isAsync && found.yields && found.returnsValue)))
  | .class_ name decorators bases named body =>
    ofBinding p name ++ Expr.surveyItems p bases ++ Expr.surveyNamed p named ++
      ofArgumentNames (named.filterMap Prod.fst) ++ Expr.surveyAll p decorators ++
      enclosed .class_ (surveyAll (p.class_ name) body)
  | .pass => nothing
  | .return_ value =>
    Expr.surveyOption p value ++ { ofBool p.canReturn with returnsValue := value.isSome }
  | .raise value cause => Expr.surveyOption p value ++ Expr.surveyOption p cause
  | .import_ names => ofBindings p (names.map ImportName.bound)
  | .importFrom _ module names =>
    ofBindings p (names.map ImportName.taken) ++ ofBool (module != featureModule)
  | .importAll _ module => ofBool (p.region == .module && module != featureModule)
  | .branch condition yes no => condition.survey p ++ surveyAll p yes ++ surveyAll p no
  | .repeat_ condition body otherwise =>
    condition.survey p ++ surveyAll p.loop body ++ surveyAll p otherwise ++ ofBool (p.hasRoom 1)
  | .loop isAsync target source body otherwise =>
    target.surveyTarget p ++ source.survey p ++ surveyAll p.loop body ++ surveyAll p otherwise ++
      ofBool (p.hasRoom 1 && (! isAsync || p.canWait))
  | .managed isAsync items body =>
    surveyManagers p items ++ surveyAll (p.deeper items.length) body ++
      ofBool (p.hasRoom items.length && (! isAsync || p.canWait))
  | .guarded isGroup body handlers otherwise final =>
    let own := if final.isEmpty then p else p.deeper 1
    let inBody := if handlers.isEmpty then own else own.deeper 1
    surveyAll inBody body ++ surveyHandlers own isGroup handlers ++ surveyAll own otherwise ++
      surveyAll (if final.isEmpty then p else p.deeper 1) final ++
      ofBool (inBody.hasRoom 0 && (handlers.isEmpty || own.hasRoom 2) &&
        (handlers.dropLast.all fun (kind, _, _) => kind.isSome))
  | .select subject cases => subject.survey p ++ surveyCases p cases
  | .delete targets => Expr.surveyDeletedAll p targets
  | .declare isGlobal names =>
    { nothing with mentions := names.map fun name => .declare isGlobal (p.nameOf name) }
  | .check condition message => condition.survey p ++ Expr.surveyOption p message
  | .leave _ => ofBool p.inLoop

def surveyAll (p : Place) : List Statement → Survey
  | [] => nothing
  | s :: ss => survey p s ++ surveyAll p ss

def surveyHandlers (p : Place) (isGroup : Bool) :
    List (Option Expr × Option String × List Statement) → Survey
  | [] => nothing
  | (kind, name, body) :: rest =>
    Expr.surveyOption p kind ++ ofBindings p name.toList ++
      surveyAll (p.handler isGroup) body ++ surveyHandlers p isGroup rest

def surveyCases (p : Place) : List (Pattern × Option Expr × List Statement) → Survey
  | [] => nothing
  | (pattern, condition, body) :: rest =>
    pattern.survey p (condition.isSome || rest.isEmpty) ++ Expr.surveyOption p condition ++
      surveyAll p body ++ surveyCases p rest

end

def asksFeatures : Statement → Bool
  | .importFrom _ module _ => module == featureModule
  | .importAll _ module => module == featureModule
  | _ => false

/-- The statements behind the documentation at the start of a module. -/
def afterDocstring : List Statement → List Statement
  | .expression (.text _) :: rest => rest
  | body => body

/-- The statements at the start of a module that ask for features. -/
def featureRequests (body : List Statement) : List Statement :=
  (afterDocstring body).takeWhile asksFeatures

/-- Whether a statement asks for features that there are. -/
def asksWell : Statement → Bool
  | .importFrom _ _ names => names.all fun i =>
    features.contains i.name && i.taken != constantName
  | _ => false

/-- Whether a module asks that its types are not evaluated. -/
def postponesTypes (body : List Statement) : Bool :=
  (featureRequests body).any fun s =>
    match s with
    | .importFrom _ _ names => names.any (·.name = "annotations")
    | _ => false

/-- Whether statements can be those of a module that is to run: features are asked for first, and
all else stands where it can. -/
def isModule (body : List Statement) : Bool :=
  let requests := featureRequests body
  let rest := (afterDocstring body).drop requests.length
  let bound := requests.flatMap fun s =>
    match s with
    | .importFrom _ _ names => names.map fun i => Mention.bind i.taken
    | _ => []
  let found := surveyAll (.top (postponesTypes body)) rest
  requests.all asksWell && found.isWell &&
    (Scope.mk .module (bound ++ found.mentions) found.scopes).isWell []

end Statement

/-- Whether a function with this body gives its values one by one. -/
def isGenerator (body : List Statement) : Bool :=
  (Statement.surveyAll { Place.top false with region := .function true } body).yields

end RouteDocs.Module
