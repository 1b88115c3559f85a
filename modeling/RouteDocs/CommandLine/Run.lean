import RouteDocs.Builder
import RouteDocs.CommandLine.Request
import RouteDocs.Lookup.Import
import RouteDocs.Lookup.Table
import RouteDocs.Manifest
import RouteDocs.Yaml.Writer

namespace RouteDocs.CommandLine
open RouteDocs.Module (World)

/-- The disk, and the modules that have been loaded. -/
structure Session where
  disk : Disk
  world : World

/-- What a run prints, its exit code, the trouble that ended it if there was any, and the session
after it. -/
structure Outcome where
  exit : Int
  printed : Printed
  trouble : Option Trouble
  session : Session

def errorText (message : String) : String := "Error: " ++ message ++ "\n"

def hintText (c : Option Command) : String :=
  let path := program ++ ((c.map (" " ++ ·.name)).getD "")
  usage c ++ "\nTry '" ++ path ++ " --help' for help.\n\n"

/-- The end of a run, after what has been printed, for a cause outside the rules of documenting. A
controller module can ask for an end that is no trouble, and only a document that is being built
reports what is like the failures of the program. -/
def stop (s : Session) (c : Option Command) (printed : Printed) (cause : Trouble) : Outcome :=
  match cause with
  | .module ⟨_, .exit status message⟩ =>
    ⟨status, printed ++ .text ((message.map (· ++ "\n")).getD ""), none, s⟩
  | .module ⟨_, .brokenPipe⟩ => ⟨1, printed, none, s⟩
  | .module ⟨_, .interrupt⟩ => ⟨1, printed ++ ⟨"", "\nAborted!\n"⟩, none, s⟩
  | .module ⟨_, .abort⟩ => ⟨1, printed ++ ⟨"", "Aborted!\n"⟩, none, s⟩
  | .module ⟨_, .refused status isUsage message⟩ =>
    let hint := if isUsage then hintText c else ""
    ⟨status, printed ++ ⟨"", hint ++ errorText message⟩, none, s⟩
  | .module ⟨name, .reported message⟩ =>
    if c = some .generate then ⟨1, printed ++ ⟨"", errorText message⟩, none, s⟩
    else ⟨1, printed, some (.module ⟨name, .reported message⟩), s⟩
  | cause => ⟨1, printed, some cause, s⟩

/-- The end of a run for a reason, after what has been printed. -/
def refuse (s : Session) (c : Option Command) (printed : Printed) : Refusal → Outcome
  | .usage fault => ⟨2, printed ++ ⟨"", hintText c ++ errorText fault.message⟩, none, s⟩
  | .failure (.trouble cause) => stop s c printed cause
  | .failure cause => ⟨1, printed ++ ⟨"", errorText cause.message⟩, none, s⟩

/-- The state of a look-up of any kind. -/
structure LookupState where
  cache : SourceTree.Cache
  world : World

/-- A look-up on a part of the state. -/
def Lookup.onPart {σ τ : Type} (lookup : Lookup σ) (part : τ → σ) (update : τ → σ → τ) :
    Lookup τ := fun state controller action =>
  let answer := lookup (part state) controller action
  { answer with state := update state answer.state }

namespace Request

/-- The look-up that is asked for, and its state at the start. -/
def lookup (r : Request) (s : Session) : Except Refusal (Lookup LookupState × LookupState) :=
  let here : FilePath := ⟨true, s.disk.working⟩
  let root := r.sourceRoot.getD here
  match r.kind with
  | .imported =>
    .ok (Lookup.onPart (LoadedModules.lookup s.disk) LookupState.world
      (fun state world => { state with world }), ⟨.empty, s.world.withSearchPath [root]⟩)
  | .source =>
    .ok (Lookup.onPart (SourceTree.lookup s.disk root) LookupState.cache
      (fun state cache => { state with cache }), ⟨.empty, s.world⟩)
  | .static =>
    match r.docs with
    | none => .error (.usage .docsNeeded)
    | some path => do
      let table ← (DocTable.load s.disk path).mapError .failure
      return (Lookup.onPart table.lookup (fun _ => ()) (fun state _ => state), ⟨.empty, s.world⟩)

/-- The settings, the routes and the look-up that are asked for. Where `needsUrl` holds, the
settings have to have a URL. -/
def inputs (r : Request) (s : Session) (needsUrl : Bool) (argument environment : Option String) :
    Except Refusal (Settings × List Route × Lookup LookupState × LookupState) := do
  let settings ← (Settings.load s.disk r.config argument environment).mapError .failure
  if needsUrl && (nonEmpty settings.appUrl).isNone then .error (.failure .urlMissing)
  let routes ← (Manifest.load s.disk r.routes).mapError .failure
  let (lookup, state) ← r.lookup s
  return (settings, routes, lookup, state)

def generate (r : Request) (s : Session) (environment : Option String) : Outcome :=
  match r.inputs s true r.appUrl environment with
  | .error refusal => refuse s (some .generate) .nothing refusal
  | .ok (settings, routes, lookup, state) =>
    let g := RouteDocs.generate ⟨settings, lookup, true⟩ state routes r.storage s.disk
    let after : Session := ⟨g.disk, g.state.world⟩
    match g.result with
    | .ok path =>
      ⟨0, g.printed ++ .text ("Documentation saved to " ++ path.text ++ "\n"), none, after⟩
    | .error cause => refuse after (some .generate) g.printed (.failure cause)

/-- The heading of a route: its verb, its path and its handler. -/
def heading (settings : Settings) (r : Route) : String :=
  "## " ++ Text.upper r.verb ++ " " ++ r.path settings ++ " (" ++ r.handler ++ ")\n"

/-- The annotations of a route, as a mapping. -/
def annotationText (b : Block) : String :=
  if b.isEmpty then "  (no annotations)\n"
  else
    .ofList (Yaml.Writer.textEntry "desc" b.description ++
      Yaml.Writer.listEntry "params" b.params ++
      Yaml.Writer.listEntry "responses" b.responses ++ ['\n'])

/-- What is printed about routes until a look-up fails, with the state then. -/
def inspectAll (settings : Settings) (lookup : Lookup LookupState) :
    List Route → LookupState → Printed → Printed × LookupState × Option Trouble
  | [], state, printed => (printed, state, none)
  | r :: rs, state, printed =>
    let answer := lookup state r.controller r.action
    let printed := printed ++ answer.printed
    match answer.doc with
    | .error cause => (printed, answer.state, some cause)
    | .ok doc =>
      if Text.hasHalves (heading settings r) then (printed, answer.state, some .lineNotUnicode)
      else
        inspectAll settings lookup rs answer.state
          (printed ++ .text (heading settings r ++ annotationText (Block.ofText? doc)))

def inspect (r : Request) (s : Session) (environment : Option String) : Outcome :=
  match r.inputs s false none environment with
  | .error refusal => refuse s (some .inspect) .nothing refusal
  | .ok (settings, routes, lookup, state) =>
    let (printed, state, trouble) := inspectAll settings lookup routes state .nothing
    let after : Session := { s with world := state.world }
    match trouble with
    | none => ⟨0, printed, none, after⟩
    | some cause => refuse after (some .inspect) printed (.failure (.trouble cause))

end Request

/-- The end of a run that prints help. -/
def tell (s : Session) (c : Option Command) : Outcome := ⟨0, .text (helpText c), none, s⟩

def runCommand (s : Session) (environment : Option String) (c : Command) (args : List String) :
    Outcome :=
  match Given.ofArguments c.options args with
  | .error fault => refuse s (some c) .nothing (.usage fault)
  | .ok given =>
    if given.has .help then tell s (some c)
    else
      match given.check s.disk c.options with
      | .error refusal => refuse s (some c) .nothing refusal
      | .ok () =>
        let request := Request.ofGiven given environment
        let s := { s with world := s.world.withEnvironment "APP_URL" environment }
        match c with
        | .generate => request.generate s environment
        | .inspect => request.inspect s environment

/-- The end of a run with a name that is no command's. A name that starts with `-` is read as
an option first. -/
def refuseName (s : Session) (name : String) (args : List String) : Outcome :=
  let unknown := refuse s none .nothing
    (.usage (.noSuchCommand name (Text.similar name (Command.all.map Command.name))))
  match name.toList with
  | '-' :: _ =>
    match readLead (name :: args) with
    | .error fault => refuse s none .nothing (.usage fault)
    | .ok (true, _) => tell s none
    | .ok (false, _) => unknown
  | _ => unknown

/-- A run with its arguments and the URL in the environment. -/
def run (s : Session) (environment : Option String) (args : List String) : Outcome :=
  if args.isEmpty then ⟨2, ⟨"", helpText none⟩, none, s⟩
  else
    match readLead args with
    | .error fault => refuse s none .nothing (.usage fault)
    | .ok (true, _) => tell s none
    | .ok (false, []) => refuse s none .nothing (.usage .noCommand)
    | .ok (false, name :: rest) =>
      match Command.ofName? name with
      | some c => runCommand s environment c rest
      | none => refuseName s name rest

end RouteDocs.CommandLine
