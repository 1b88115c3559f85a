import RouteDocs.Proofs.Commands

/-!
# Inspecting tells what is generated

* `annotationText_eq_iff`: which annotations are told as none;
* `out_inspectAll`: what is printed about routes, one after the other;
* `recorded_of_generate`: the tags and the operations of a document that was generated;
* `inspect_tells_generated`: what both commands make of one manifest.
-/

namespace RouteDocs

/-- What is printed on the way to the documentation of each of some routes. -/
def Lookup.prints {σ : Type} (lookup : Lookup σ) : σ → List Route → List Printed
  | _, [] => []
  | state, r :: rs =>
    let answer := lookup state r.controller r.action
    answer.printed :: lookup.prints answer.state rs

theorem Lookup.length_prints {σ : Type} (lookup : Lookup σ) (state : σ) (rs : List Route) :
    (lookup.prints state rs).length = rs.length := by
  induction rs generalizing state with
  | nil => rfl
  | cons r rs ih => rw [prints, List.length_cons, List.length_cons, ih]

namespace CommandLine
open Settings (HeldBy)

/-- What is told about a route without annotations. -/
def noAnnotations : String := "  (no annotations)\n"

/-- Only of a block without annotations it is told that there are none. -/
theorem annotationText_eq_iff (b : Block) :
    Request.annotationText b = noAnnotations ↔ b.isEmpty = true := by
  rw [Request.annotationText]
  cases b.isEmpty with
  | true => simp [noAnnotations]
  | false =>
    simp only [Bool.false_eq_true, if_false, iff_false]
    intro same
    -- the annotations start with a letter
    have first := congrArg (·.toList.head?) same
    have blank : noAnnotations.toList.head? = some ' ' := by decide
    rw [blank, String.toList_ofList] at first
    cases first

example : Request.annotationText (Block.ofText? (some "no annotation")) = noAnnotations := by
  decide +kernel

/-- What is told about a route, after what was printed on the way to its documentation. -/
def told (settings : Settings) (texts : String → String → Option String) (before : Printed)
    (r : Route) : String :=
  before.out ++
    (Request.heading settings r ++
      Request.annotationText (Block.ofText? (texts r.controller r.action)))

/-- The routes are told one after the other. -/
theorem out_inspectAll {settings : Settings} {lookup : Lookup LookupState}
    {texts : String → String → Option String} {rs : List Route} {state : LookupState}
    {printed : Printed} (finds : lookup.Finds texts state rs)
    (fine : (Request.inspectAll settings lookup rs state printed).2.2 = none) :
    (Request.inspectAll settings lookup rs state printed).1.out =
      printed.out ++
        String.join (List.zipWith (told settings texts) (lookup.prints state rs) rs) := by
  induction rs generalizing state printed with
  | nil => simp [Request.inspectAll, Lookup.prints]
  | cons r rs ih =>
    obtain ⟨answered, later⟩ := finds
    simp only [Request.inspectAll, answered] at fine ⊢
    cases halves : Text.hasHalves (Request.heading settings r) with
    | true => simp [halves] at fine
    | false =>
      simp only [halves, Bool.false_eq_true, if_false] at fine ⊢
      rw [ih later fine, Lookup.prints, List.zipWith_cons_cons, String.join_cons,
        ← String.append_assoc]
      exact congrArg (· ++ _) String.append_assoc

theorem empty_of_start? {settings : Settings} {start : ApiDocument}
    (h : ApiDocument.start? settings = .ok start) : start.tags = [] ∧ start.paths = .empty := by
  rw [ApiDocument.start?] at h
  split at h <;> cases h
  exact ⟨rfl, rfl⟩

/-- A run that succeeds records the tags of all routes, and operations for those that have
annotations. -/
theorem recorded_of_generate {σ : Type} {b : Builder σ} {start : ApiDocument} {state : σ}
    {routes : List Route} {texts : String → String → Option String}
    (started : ApiDocument.start? b.settings = .ok start)
    (finds : b.lookup.Finds texts state routes)
    (fine : (b.run routes ⟨start, state, .nothing⟩).2 = none) :
    (b.run routes ⟨start, state, .nothing⟩).1.document.tags = routes.map (·.tag b.settings) ∧
      ∀ path verb,
        ((b.run routes ⟨start, state, .nothing⟩).1.document.operation? path verb).isSome ↔
          ∃ r ∈ routes, r.path b.settings = path ∧ r.verb = verb ∧
            (Block.ofText? (texts r.controller r.action)).isEmpty = false := by
  have alike := b.run_alike routes ⟨start, state, .nothing⟩
  obtain ⟨accepted, recorded⟩ := Builder.addAll_of_none (alike.failure.symm.trans fine)
  rw [alike.build.document, recorded]
  obtain ⟨noTags, noPaths⟩ := empty_of_start? started
  dsimp only at accepted ⊢
  rw [Lookup.found_of_finds finds] at accepted ⊢
  constructor
  · rw [ApiDocument.recordAll_tags, noTags, List.nil_append, List.map_map]
    rfl
  · intro path verb
    have last := ApiDocument.operation?_recordAll noPaths accepted path verb
    have some_iff := congrArg Option.isSome last
    rw [Option.isSome_map, Option.isSome_map] at some_iff
    rw [some_iff, List.getLast?_isSome, Ne, List.filter_eq_nil_iff]
    simp only [ApiDocument.documented, List.mem_filter, List.mem_map, decide_eq_true_eq,
      Bool.not_eq_true', not_forall, not_not]
    constructor
    · rintro ⟨_, ⟨⟨r, here, rfl⟩, documented⟩, atPath, atVerb⟩
      exact ⟨r, here, atPath, atVerb, documented⟩
    · rintro ⟨r, here, atPath, atVerb, documented⟩
      exact ⟨_, ⟨⟨r, here, rfl⟩, documented⟩, atPath, atVerb⟩

/-- The look-up that a request asks for finds, for each route of the manifest, the text of its
action. -/
def Request.Finds (r : Request) (s : Session) (texts : String → String → Option String) : Prop :=
  ∀ routes lookup state, Manifest.load s.disk r.routes = .ok routes →
    r.lookup s = .ok (lookup, state) → lookup.Finds texts state routes

/-- The look-up in a table, as part of a session. -/
def tableLookup (table : DocTable) : Lookup LookupState :=
  Lookup.onPart table.lookup (fun _ => ()) fun state _ => state

theorem Request.lookup_of_table {r : Request} {s : Session} {path : FilePath} {table : DocTable}
    (kind : r.kind = .static) (docs : r.docs = some path)
    (loaded : DocTable.load s.disk path = .ok table) :
    r.lookup s = .ok (tableLookup table, ⟨.empty, s.world⟩) := by
  simp only [Request.lookup, kind, docs, loaded]
  rfl

/-- A table has one text for each action. -/
theorem Request.finds_of_table {r : Request} {s : Session} {path : FilePath} {table : DocTable}
    (kind : r.kind = .static) (docs : r.docs = some path)
    (loaded : DocTable.load s.disk path = .ok table) :
    r.Finds s fun controller action => table.find? (DocTable.key controller action) := by
  rintro routes lookup state - looking
  cases (Request.lookup_of_table kind docs loaded).symm.trans looking
  generalize (⟨.empty, s.world⟩ : LookupState) = state
  induction routes with
  | nil => trivial
  | cons r rs ih => exact ⟨rfl, ih⟩

theorem not_raises_of_finds {σ : Type} {lookup : Lookup σ} {state : σ} {routes : List Route}
    {texts : String → String → Option String} (finds : lookup.Finds texts state routes)
    (raised : Raised) : ¬ lookup.Raises state routes raised := by
  rintro ⟨before, r, behind, rfl, raises⟩
  induction before generalizing state with
  | nil =>
    rw [Lookup.after, finds.1] at raises
    cases raises
  | cons first before ih => exact ih raises finds.2

/-- The settings of two requests with one settings file differ at most in the URL. -/
theorem settings_agree {disk disk' : Disk} {file file' : Option FilePath}
    {argument environment argument' environment' : Option String} {settings settings' : Settings}
    (same : ∀ own, HeldBy disk file own → HeldBy disk' file' own)
    (loaded : Settings.load disk file argument environment = .ok settings)
    (loaded' : Settings.load disk' file' argument' environment' = .ok settings') :
    settings' = { settings with appUrl := settings'.appUrl } := by
  obtain ⟨own, held, entries⟩ := Settings.heldBy_of_load loaded
  have entries' := (Settings.load_of_heldBy (same own held)).symm.trans loaded'
  exact Settings.ofEntries_agree entries entries'

section
variable {args args' : List String} {g i : Given} {s s' : Session}
variable {environment environment' : Option String}

/-- **What both commands make of one manifest.** Let a run generate and a run inspect the routes of
one manifest with one settings file and with look-ups that find the same text for each action. If
both succeed:

* for each route, in the order of the manifest, inspecting prints its heading and its annotations,
  after what was printed on the way to its documentation;
* the document that is generated has a tag for each of these headings, in the same order;
* the document has an operation under a path and a verb exactly if a route with both is told with
  annotations.

The runs can have different URLs. -/
theorem inspect_tells_generated (texts : String → String → Option String)
    (generates : Asks .generate args g) (inspects : Asks .inspect args' i)
    (manifest : Manifest.load s'.disk (Request.ofGiven i environment').routes =
      Manifest.load s.disk (Request.ofGiven g environment).routes)
    (config : ∀ own, HeldBy s'.disk (Request.ofGiven i environment').config own →
      HeldBy s.disk (Request.ofGiven g environment).config own)
    (found : (Request.ofGiven g environment).Finds (s.within environment) texts)
    (found' : (Request.ofGiven i environment').Finds (s'.within environment') texts)
    (success : (run s environment args).exit = 0)
    (success' : (run s' environment' args').exit = 0) :
    ∃ (routes : List Route) (settings : Settings) (prints : List Printed)
      (document : ApiDocument),
      Manifest.load s'.disk (Request.ofGiven i environment').routes = .ok routes ∧
      Settings.load s'.disk (Request.ofGiven i environment').config none environment' =
        .ok settings ∧
      (∀ lookup state, (Request.ofGiven i environment').lookup (s'.within environment') =
        .ok (lookup, state) → prints = lookup.prints state routes) ∧
      (run s environment args).session.disk.readBytes
          (outputFile (Request.ofGiven g environment).storage) = .ok document.text.toUTF8 ∧
      (run s' environment' args').printed.out =
        String.join (List.zipWith (told settings texts) prints routes) ∧
      prints.length = routes.length ∧ document.tags = routes.map (·.tag settings) ∧
      ∀ path verb, (document.operation? path verb).isSome ↔
        ∃ r ∈ routes, r.path settings = path ∧ r.verb = verb ∧
          Request.annotationText (Block.ofText? (texts r.controller r.action)) ≠ noAnnotations := by
  have performed := run_of_exit generates success
  have performed' := run_of_exit inspects success'
  rw [performed] at success ⊢
  rw [performed'] at success' ⊢
  obtain ⟨generatorSettings, routes, lookup, state, ready, ended⟩ :=
    Request.generate_of_exit success
  obtain ⟨settings, routes', lookup', state', ready', ended'⟩ := Request.inspect_of_exit success'
  obtain ⟨loaded, read, looking⟩ := Request.ok_of_inputs ready
  obtain ⟨loaded', read', looking'⟩ := Request.ok_of_inputs ready'
  obtain rfl : routes' = routes := Except.ok.inj (read'.symm.trans (manifest.trans read))
  have finds := found _ _ _ read looking
  have finds' := found' _ _ _ read' looking'
  rcases ended with ⟨start, started, fine, written⟩ | ⟨-, raised, -, raises⟩
  · rcases ended' with ⟨printed, fine'⟩ | ⟨raised, -, raises⟩
    · obtain ⟨tags, operations⟩ := recorded_of_generate started finds fine
      have agree := settings_agree config loaded' loaded
      refine ⟨routes', settings, lookup'.prints state' routes', _, read', loaded', ?_, written, ?_,
        lookup'.length_prints state' routes', ?_, ?_⟩
      · intro other start' looked
        cases looking'.symm.trans looked
        rfl
      · have out := out_inspectAll finds' fine'
        rw [Printed.nothing, String.empty_append] at out
        exact (congrArg Printed.out printed).trans out
      · rw [tags, agree]
        rfl
      · intro path verb
        rw [operations, agree]
        simp only [Ne, annotationText_eq_iff, Bool.not_eq_true]
        rfl
    · exact absurd raises (not_raises_of_finds finds' raised)
  · exact absurd raises (not_raises_of_finds finds raised)

end

/-- A session with a manifest of two routes, a documentation table for one of them, and an output
directory. -/
def usersSession : Session where
  disk := {
    root := .directory [
      ("r.yaml", .file "- uri: u\n  action: U@s\n- uri: p\n  action: P@g\n".toUTF8),
      ("d.yaml", .file "U@s: '@apiDesc D'\n".toUTF8),
      ("storage", .directory [("appDoc", .directory [])])]
    working := [] }
  world := .empty true

def sessionRoutes : List Route :=
  let methods := ["GET", "HEAD"]
  [{ host := none, methods, uri := "u", name := none, controller := "U", className := "U",
      action := "s" },
    { host := none, methods, uri := "p", name := none, controller := "P", className := "P",
      action := "g" }]

def sessionTable : DocTable := .ofList [("U@s", "@apiDesc D")]

/-- Arguments that ask to inspect with the table. -/
def inspectArgs : List String := ["inspect", "r.yaml", "--lookup", "static", "--docs", "d.yaml"]

def inspectGiven : Given := ⟨[(.lookup, "static"), (.docs, "d.yaml")], ["r.yaml"]⟩

/-- Arguments that ask to generate with the table and a URL. -/
def generateArgs : List String :=
  ["generate", "r.yaml", "--app-url", "h", "--lookup", "static", "--docs", "d.yaml"]

def generateGiven : Given := { inspectGiven with options := (.appUrl, "h") :: inspectGiven.options }

theorem asks_inspectArgs : Asks .inspect inspectArgs inspectGiven :=
  ⟨inspectArgs.tail, by decide +kernel, by decide +kernel, by decide⟩

theorem asks_generateArgs : Asks .generate generateArgs generateGiven :=
  ⟨generateArgs.tail, by decide +kernel, by decide +kernel, by decide⟩

theorem load_sessionRoutes :
    Manifest.load usersSession.disk (.ofText "r.yaml") = .ok sessionRoutes :=
  ok_of_toOption (by decide +kernel)

theorem load_sessionTable :
    DocTable.load usersSession.disk (.ofText "d.yaml") = .ok sessionTable :=
  ok_of_toOption (by decide +kernel)

/-- The URL in the environment does not count. -/
theorem exit_of_generateArgs : (run usersSession (some "http://e") generateArgs).exit = 0 := by
  have checked : generateGiven.check usersSession.disk Command.generate.options = .ok () :=
    ok_of_toOption (by decide +kernel)
  have ready : (Request.ofGiven generateGiven (some "http://e")).inputs
      (usersSession.within (some "http://e")) true (some "h") (some "http://e") =
        .ok (.ofUrl (some "h"), sessionRoutes, tableLookup sessionTable,
          ⟨.empty, (usersSession.within (some "http://e")).world⟩) :=
    Request.inputs_of_ok rfl (by decide) load_sessionRoutes
      (Request.lookup_of_table rfl rfl load_sessionTable)
  have plain : (outputFile (.ofText "storage")).IsPlain :=
    ⟨by decide +kernel, by decide +kernel, by decide +kernel⟩
  rw [run_of_checked asks_generateArgs checked]
  exact Request.exit_of_generation ready rfl plain (by decide +kernel) rfl rfl

theorem exit_of_inspectArgs : (run usersSession none inspectArgs).exit = 0 := by
  have checked : inspectGiven.check usersSession.disk Command.inspect.options = .ok () :=
    ok_of_toOption (by decide +kernel)
  have ready : (Request.ofGiven inspectGiven none).inputs (usersSession.within none) false none
      none = .ok (.ofUrl none, sessionRoutes, tableLookup sessionTable,
        ⟨.empty, (usersSession.within none).world⟩) :=
    Request.inputs_of_ok rfl nofun load_sessionRoutes
      (Request.lookup_of_table rfl rfl load_sessionTable)
  rw [run_of_checked asks_inspectArgs checked]
  exact Request.exit_of_inspection ready (by decide +kernel)

/-- Of the two routes one is told with annotations, and it alone has an operation. -/
theorem users_told_as_generated :
    Asks .generate generateArgs generateGiven ∧ Asks .inspect inspectArgs inspectGiven ∧
      (run usersSession (some "http://e") generateArgs).exit = 0 ∧
      (run usersSession none inspectArgs).exit = 0 ∧
      ∃ document : ApiDocument,
        (run usersSession (some "http://e") generateArgs).session.disk.readBytes
          ⟨false, ["storage", "appDoc", "resource.json"]⟩ = .ok document.text.toUTF8 ∧
        document.tags = [⟨"u", "U"⟩, ⟨"p", "P"⟩] ∧
        (document.operation? "u" "get").isSome ∧ ¬ (document.operation? "p" "get").isSome := by
  let texts (controller action : String) : Option String :=
    sessionTable.find? (DocTable.key controller action)
  have found : (Request.ofGiven generateGiven (some "http://e")).Finds
      (usersSession.within (some "http://e")) texts :=
    Request.finds_of_table rfl rfl load_sessionTable
  have found' : (Request.ofGiven inspectGiven none).Finds (usersSession.within none) texts :=
    Request.finds_of_table rfl rfl load_sessionTable
  obtain ⟨routes, settings, prints, document, read, loaded, -, written, -, -, tags, operations⟩ :=
    inspect_tells_generated texts asks_generateArgs asks_inspectArgs rfl (fun _ held => held)
      found found' exit_of_generateArgs exit_of_inspectArgs
  obtain rfl : sessionRoutes = routes := Except.ok.inj (load_sessionRoutes.symm.trans read)
  obtain rfl : Settings.ofUrl none = settings := Except.ok.inj loaded
  refine ⟨asks_generateArgs, asks_inspectArgs, exit_of_generateArgs, exit_of_inspectArgs, document,
    written, tags, ?_, ?_⟩
  · rw [operations]
    decide +kernel
  · rw [operations]
    decide +kernel

end CommandLine
end RouteDocs
