import RouteDocs.CommandLine.Run
import RouteDocs.Proofs.Manifest
import RouteDocs.Proofs.Runs
import RouteDocs.Proofs.Settings

namespace RouteDocs

/-! ### No file can do what a controller module can -/

namespace Manifest

theorem route?_failsOnly (index : Nat) (item : Value) :
    FailsOnly (·.isOfModule = false) (route? index item) := by
  have text (v : Value) : FailsOnly (·.isOfModule = false) (textOf v) := by
    rw [textOf]
    split
    · exact .ok _
    · exact .error rfl
  rcases route?_outcomes index item with
    ⟨failure, told, about, -⟩ | ⟨entries, uri, a, -, -, -, whole⟩
  · rw [told]
    cases failure <;> first | exact .error rfl | cases about
  · have listed : FailsOnly (·.isOfModule = false) (methods index entries) := by
      constructor
      intro failure failed
      rw [methods] at failed
      split at failed <;> cases failed
      rfl
    rw [whole]
    split
    · refine .bind (.bind listed (.mapM text)) fun texts => .bind (text uri) fun uri => ?_
      split
      · exact .error rfl
      · exact .ok _
    · exact .ok _

theorem load_failsOnly (disk : Disk) (path : FilePath) :
    FailsOnly (·.isOfModule = false) (load disk path) := by
  have each (its : List Value) (start : Nat) :
      FailsOnly (·.isOfModule = false) (routesFrom start its) := by
    induction its generalizing start with
    | nil => exact .ok []
    | cons item its ih =>
      exact .bind (route?_failsOnly start item) fun r => .bind (ih (start + 1)) fun rs => .ok _
  have listed (v : Value) : FailsOnly (·.isOfModule = false) (items path.text v) := by
    constructor
    intro failure failed
    rw [items_of_error failed]
    rfl
  exact .bind (disk.readDocument_failsOnly path rfl) fun v => .bind (listed v) fun its => each its 0

end Manifest

theorem DocTable.load_failsOnly (disk : Disk) (path : FilePath) :
    FailsOnly (·.isOfModule = false) (DocTable.load disk path) := by
  refine .bind (disk.readDocument_failsOnly path rfl) fun v => ?_
  rw [ofValue]
  split
  · dsimp only
    split
    · exact .ok _
    · exact .error rfl
  · exact .error rfl

namespace CommandLine

/-- Whether a controller module raised what a run is refused for. -/
def Refusal.isOfModule : Refusal → Bool
  | .usage _ => false
  | .failure cause => cause.isOfModule

theorem kindOf_failsOnly (disk : Disk) (path : String) :
    FailsOnly (·.isOfModule = false) (kindOf disk path) :=
  .mapError (P := fun _ => True) ⟨fun _ _ => trivial⟩ fun _ _ => rfl

theorem checkFile_failsOnly (disk : Disk) (names : List String) (path : String) :
    FailsOnly (·.isOfModule = false) (checkFile disk names path) := by
  refine .bind (kindOf_failsOnly disk path) fun kind => ?_
  split
  · exact .ok ()
  · exact .error rfl
  · exact .error rfl

theorem checkDirectory_failsOnly (disk : Disk) (mustExist : Bool) (names : List String)
    (path : String) :
    FailsOnly (·.isOfModule = false) (checkDirectory disk mustExist names path) := by
  refine .bind (kindOf_failsOnly disk path) fun kind => ?_
  split
  · exact .ok ()
  · exact .error rfl
  · split
    · exact .error rfl
    · exact .ok ()

theorem Given.check_failsOnly (disk : Disk) (g : Given) (options : List CommandOption) :
    FailsOnly (·.isOfModule = false) (g.check disk options) := by
  have option (o : CommandOption) : FailsOnly (·.isOfModule = false) (g.checkOption disk o) := by
    unfold checkOption
    split
    · exact .map (kindOf_failsOnly disk _)
    · exact checkDirectory_failsOnly ..
    · split
      · exact .ok ()
      · exact .error rfl
    · exact checkDirectory_failsOnly ..
    · exact checkFile_failsOnly ..
    · exact .ok ()
  have argument : FailsOnly (·.isOfModule = false) (g.checkArgument disk) := by
    rw [checkArgument]
    split
    · exact .error rfl
    · exact checkFile_failsOnly ..
  refine .bind (.forM (fun (p : CommandOption × String) => option p.1) _) fun _ =>
    .bind argument fun _ => .bind (.forM option _) fun _ => ?_
  split
  · exact .ok ()
  · exact .error rfl

/-! ### Ends -/

/-- Whether an exception of a controller module ends the program with exit code 0. -/
def endsWell (raised : Raised) : Bool :=
  match raised.plea with
  | .exit status _ => status = 0
  | .refused status _ _ => status = 0
  | _ => false

section
variable {s : Session} {c : Option Command} {printed : Printed}

/-- A refusal leaves the session as it is. -/
@[simp]
theorem refuse_session (refusal : Refusal) : (refuse s c printed refusal).session = s := by
  unfold refuse
  split
  · rfl
  · unfold stop
    split <;> first | rfl | (split <;> rfl)
  · rfl

/-- Only a controller module can end a run with exit code 0 without its work being done. -/
theorem endsWell_of_refuse {refusal : Refusal} (h : (refuse s c printed refusal).exit = 0) :
    ∃ raised, refusal = .failure (.trouble (.module raised)) ∧ endsWell raised = true := by
  unfold refuse at h
  split at h
  · cases h
  · unfold stop at h
    split at h
    · exact ⟨_, rfl, decide_eq_true h⟩
    · cases h
    · cases h
    · cases h
    · exact ⟨_, rfl, decide_eq_true h⟩
    · split at h <;> cases h
    · cases h
  · cases h

theorem refuse_exit_ne_zero {refusal : Refusal} (own : refusal.isOfModule = false) :
    (refuse s c printed refusal).exit ≠ 0 := by
  intro h
  obtain ⟨raised, rfl, -⟩ := endsWell_of_refuse h
  cases own

/-- A failure that no controller module raised ends a run with exit code 1. -/
theorem refuse_exit_of_failure {cause : Failure} (own : cause.isOfModule = false) :
    (refuse s c printed (.failure cause)).exit = 1 := by
  cases cause with
  | trouble cause =>
    cases cause with
    | module raised => cases own
    | _ => rfl
  | _ => rfl

end

/-! ### Requests -/

namespace Request
variable {r : Request} {s : Session} {argument environment : Option String} {needsUrl : Bool}

theorem lookup_failsOnly (r : Request) (s : Session) :
    FailsOnly (·.isOfModule = false) (r.lookup s) := by
  unfold lookup
  dsimp only
  split
  · exact .ok _
  · exact .ok _
  · split
    · exact .error rfl
    · exact .bind (.mapError (DocTable.load_failsOnly ..) fun _ h => h) fun table => .ok _

theorem inputs_failsOnly (r : Request) (s : Session) (needsUrl : Bool)
    (argument environment : Option String) :
    FailsOnly (·.isOfModule = false) (r.inputs s needsUrl argument environment) := by
  refine .bind (.mapError (Settings.load_failsOnly ..) fun _ h => h) fun settings => ?_
  split
  · exact .error rfl
  · exact .bind (.mapError (Manifest.load_failsOnly ..) fun _ h => h) fun routes =>
      .bind (r.lookup_failsOnly s) fun _ => .ok _

/-- What a request is worked on with: settings, routes and a look-up. -/
theorem ok_of_inputs {settings : Settings} {routes : List Route} {lookup : Lookup LookupState}
    {state : LookupState}
    (h : r.inputs s needsUrl argument environment = .ok (settings, routes, lookup, state)) :
    Settings.load s.disk r.config argument environment = .ok settings ∧
      Manifest.load s.disk r.routes = .ok routes ∧ r.lookup s = .ok (lookup, state) := by
  obtain ⟨settings', loaded, h⟩ := ok_of_bind h
  dsimp only at h
  split at h
  · cases h
  · obtain ⟨routes', read, h⟩ := ok_of_bind h
    obtain ⟨⟨lookup', state'⟩, found, h⟩ := ok_of_bind h
    cases h
    exact ⟨ok_of_mapError loaded, ok_of_mapError read, found⟩

theorem inputs_of_ok {settings : Settings} {routes : List Route} {lookup : Lookup LookupState}
    {state : LookupState}
    (loaded : Settings.load s.disk r.config argument environment = .ok settings)
    (hasUrl : needsUrl = true → nonEmpty settings.appUrl ≠ none)
    (read : Manifest.load s.disk r.routes = .ok routes)
    (found : r.lookup s = .ok (lookup, state)) :
    r.inputs s needsUrl argument environment = .ok (settings, routes, lookup, state) := by
  have url : (needsUrl && (nonEmpty settings.appUrl).isNone) = false := by
    cases needsUrl with
    | false => rfl
    | true => simpa [Option.isSome_iff_ne_none] using hasUrl rfl
  simp only [inputs, loaded, read, found, Except.mapError, bind, Except.bind, url]
  rfl

/-- Where a URL is needed and none of its sources gives one, a request is not worked on. -/
theorem inputs_of_no_url (h : ∀ settings, Settings.load s.disk r.config argument environment =
    .ok settings → nonEmpty settings.appUrl = none) :
    ∃ cause, r.inputs s true argument environment = .error (.failure cause) ∧
      cause.isOfModule = false := by
  rw [inputs]
  cases loaded : Settings.load s.disk r.config argument environment with
  | error cause => exact ⟨cause, rfl, (Settings.load_failsOnly ..).holds cause loaded⟩
  | ok settings =>
    refine ⟨.urlMissing, ?_, rfl⟩
    simp only [Except.mapError, bind, Except.bind, h settings loaded]
    rfl

/-- Looking up the routes of the manifest, a controller module ends the program with exit code 0. -/
def EndedByModule (r : Request) (s : Session) : Prop :=
  ∃ routes lookup state raised, Manifest.load s.disk r.routes = .ok routes ∧
    r.lookup s = .ok (lookup, state) ∧ endsWell raised = true ∧ lookup.Raises state routes raised

/-- A request to generate that ends with exit code 0 wrote its document, or a controller module
ended it before anything was written. -/
theorem generate_of_exit (h : (r.generate s environment).exit = 0) :
    ∃ settings routes lookup state,
      r.inputs s true r.appUrl environment = .ok (settings, routes, lookup, state) ∧
      ((∃ start, ApiDocument.start? settings = .ok start ∧
          let ran := Builder.run ⟨settings, lookup, true⟩ routes ⟨start, state, .nothing⟩
          ran.2 = none ∧
          (r.generate s environment).session.disk.readBytes (outputFile r.storage) =
            .ok ran.1.document.text.toUTF8) ∨
        (r.generate s environment).session.disk = s.disk ∧
          ∃ raised, endsWell raised = true ∧ lookup.Raises state routes raised) := by
  cases ready : r.inputs s true r.appUrl environment with
  | error refusal =>
    simp only [generate, ready] at h
    exact absurd h (refuse_exit_ne_zero ((r.inputs_failsOnly s true _ _).holds refusal ready))
  | ok inputs =>
    obtain ⟨settings, routes, lookup, state⟩ := inputs
    refine ⟨settings, routes, lookup, state, rfl, ?_⟩
    cases ended : (RouteDocs.generate ⟨settings, lookup, true⟩ state routes r.storage s.disk).result
      with
    | ok path =>
      obtain ⟨-, start, started, fine, written⟩ := generate_of_ok ended
      simp only [generate, ready, ended]
      exact .inl ⟨start, started, fine, written⟩
    | error cause =>
      simp only [generate, ready, ended] at h ⊢
      obtain ⟨raised, same, well⟩ := endsWell_of_refuse h
      cases same
      obtain ⟨disk, raises⟩ := generate_of_module ended
      rw [refuse_session]
      exact .inr ⟨disk, raised, well, raises⟩

/-- The call that a request to generate comes to. -/
def generation (settings : Settings) (routes : List Route) (lookup : Lookup LookupState)
    (state : LookupState) : Generation :=
  ⟨⟨settings, lookup, true⟩, state, routes⟩

/-- Without routes, the document is the one before any route. -/
theorem document?_generation_nil (settings : Settings) (lookup : Lookup LookupState)
    (state : LookupState) :
    (generation settings [] lookup state).document? = (ApiDocument.start? settings).toOption := by
  rw [generation, Generation.document?]
  cases started : ApiDocument.start? settings with
  | error failure => rfl
  | ok start =>
    have alike := Builder.run_alike (b := ⟨settings, lookup, true⟩) [] ⟨start, state, .nothing⟩
    rcases ran : Builder.run ⟨settings, lookup, true⟩ [] ⟨start, state, .nothing⟩ with ⟨s, f⟩
    rw [ran] at alike
    obtain rfl : f = none := alike.failure
    simp only [ran]
    exact congrArg some alike.build.document

/-- A request to generate into an output directory that is there ends with exit code 0, if its
document is built and Unicode. -/
theorem exit_of_generation {settings : Settings} {routes : List Route}
    {lookup : Lookup LookupState} {state : LookupState} {storage : FilePath}
    (ready : r.inputs s true r.appUrl environment = .ok (settings, routes, lookup, state))
    (stored : r.storage = storage) (plain : (outputFile storage).IsPlain)
    (unicode : (generation settings routes lookup state).document?.map (fun document =>
      document.json.writeChars.any fun c => (Text.half? c).isSome) = some false)
    (start : s.disk.node? (s.disk.start storage) = some .directory)
    (there : s.disk.node? (s.disk.spot (outputDirectory storage)) = some .directory) :
    (r.generate s environment).exit = 0 := by
  obtain ⟨document, built, whole⟩ := Option.map_eq_some_iff.mp unicode
  have halves : Text.hasHalves document.text = false := (Json.hasHalves_write _).trans whole
  obtain ⟨path, done⟩ := (Generation.perform_ok_iff plain).mpr
    ⟨⟨document, built, halves⟩, start, Disk.not_blocked_of_directory there⟩
  rw [generation, Generation.perform, ← stored] at done
  simp only [generate, ready, done]

/-- A request to inspect whose look-ups do not fail ends with exit code 0. -/
theorem exit_of_inspection {settings : Settings} {routes : List Route}
    {lookup : Lookup LookupState} {state : LookupState}
    (ready : r.inputs s false none environment = .ok (settings, routes, lookup, state))
    (fine : (inspectAll settings lookup routes state .nothing).2.2 = none) :
    (r.inspect s environment).exit = 0 := by
  rcases told : inspectAll settings lookup routes state .nothing with ⟨printed, after, ended⟩
  rw [told] at fine
  subst fine
  simp only [inspect, ready, told]

/-- Only a look-up brings in what a controller module raises. -/
theorem raises_of_inspectAll {settings : Settings} {lookup : Lookup LookupState}
    {rs : List Route} {state : LookupState} {printed : Printed} {raised : Raised}
    (h : (inspectAll settings lookup rs state printed).2.2 = some (.module raised)) :
    lookup.Raises state rs raised := by
  induction rs generalizing state printed with
  | nil => cases h
  | cons r rs ih =>
    rw [inspectAll] at h
    cases answered : (lookup state r.controller r.action).doc with
    | error cause =>
      rw [answered] at h
      exact ⟨[], r, rs, rfl, answered.trans (congrArg Except.error (Option.some.inj h))⟩
    | ok doc =>
      simp only [answered] at h
      split at h
      · cases h
      · exact Lookup.raises_cons (ih h)

/-- A request to inspect that ends with exit code 0 told all its routes, or a controller module
ended it. -/
theorem inspect_of_exit (h : (r.inspect s environment).exit = 0) :
    ∃ settings routes lookup state,
      r.inputs s false none environment = .ok (settings, routes, lookup, state) ∧
      ((r.inspect s environment).printed = (inspectAll settings lookup routes state .nothing).1 ∧
          (inspectAll settings lookup routes state .nothing).2.2 = none ∨
        ∃ raised, endsWell raised = true ∧ lookup.Raises state routes raised) := by
  cases ready : r.inputs s false none environment with
  | error refusal =>
    simp only [inspect, ready] at h
    exact absurd h (refuse_exit_ne_zero ((r.inputs_failsOnly s false _ _).holds refusal ready))
  | ok inputs =>
    obtain ⟨settings, routes, lookup, state⟩ := inputs
    refine ⟨settings, routes, lookup, state, rfl, ?_⟩
    rcases told : inspectAll settings lookup routes state .nothing with ⟨printed, after, _ | cause⟩
    · simp only [inspect, ready, told]
      exact .inl ⟨trivial, trivial⟩
    · simp only [inspect, ready, told] at h
      obtain ⟨raised, same, well⟩ := endsWell_of_refuse h
      cases same
      exact .inr ⟨raised, well, raises_of_inspectAll (by rw [told])⟩

end Request

/-! ### Runs -/

/-- Arguments that ask for a command, with what else they give, and not for help. -/
def Asks (c : Command) (args : List String) (g : Given) : Prop :=
  ∃ rest, readLead args = .ok (false, c.name :: rest) ∧
    Given.ofArguments c.options rest = .ok g ∧ g.has .help = false

/-- The session in which a command is performed: controller modules see the environment. -/
def Session.within (s : Session) (environment : Option String) : Session :=
  { s with world := s.world.withEnvironment "APP_URL" environment }

/-- The end of a command on a request. -/
def Request.perform (r : Request) (c : Command) (s : Session) (environment : Option String) :
    Outcome :=
  match c with
  | .generate => r.generate s environment
  | .inspect => r.inspect s environment

theorem ofName?_name (c : Command) : Command.ofName? c.name = some c := by
  cases c <;> decide

section
variable {c : Command} {args : List String} {g : Given} {s : Session}
variable {environment : Option String}

theorem run_of_asks (asks : Asks c args g) (s : Session) (environment : Option String) :
    run s environment args =
      match g.check s.disk c.options with
      | .error refusal => refuse s (some c) .nothing refusal
      | .ok () => (Request.ofGiven g environment).perform c (s.within environment) environment := by
  obtain ⟨rest, lead, given, noHelp⟩ := asks
  have some_args : args.isEmpty = false := by
    cases args with
    | nil => cases lead
    | cons arg args => rfl
  simp only [run, some_args, Bool.false_eq_true, if_false, lead, ofName?_name, runCommand, given,
    noHelp]
  cases g.check s.disk c.options with
  | error refusal => rfl
  | ok _ => cases c <;> rfl

/-- A run with arguments that pass the checks performs its command. -/
theorem run_of_checked (asks : Asks c args g) (checked : g.check s.disk c.options = .ok ()) :
    run s environment args =
      (Request.ofGiven g environment).perform c (s.within environment) environment := by
  rw [run_of_asks asks, checked]

/-- A run with exit code 0 has performed its command. -/
theorem run_of_exit (asks : Asks c args g) (h : (run s environment args).exit = 0) :
    run s environment args =
      (Request.ofGiven g environment).perform c (s.within environment) environment := by
  rw [run_of_asks asks] at h ⊢
  cases checked : g.check s.disk c.options with
  | error refusal =>
    rw [checked] at h
    exact absurd h (refuse_exit_ne_zero ((g.check_failsOnly s.disk _).holds refusal checked))
  | ok _ => rfl

end

end CommandLine
end RouteDocs
