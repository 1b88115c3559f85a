import RouteDocs.Lookup.Table
import RouteDocs.Proofs.Calls
import RouteDocs.Proofs.OrderedMap

/-!
# What a document records

* `Lookup.found`: routes with the documentation that is found for them, one after the other;
* `ApiDocument.record_cases`: all that recording one route does;
* `ApiDocument.recordAll`: a document with many routes recorded;
* `addAll_none_iff`: a list of routes is added without a failure exactly if none of them fails on
  its own;
* `addAll_recordAll`: what is then recorded;
* `recordAll_tags`, `keys_recordAll`, `keys_verbs_recordAll`, `operation?_recordAll`: the tags,
  the paths, the verbs under a path, and the operation under both;
* `performAll_document`: the document after a sequence of calls, from the routes alone.
-/

namespace RouteDocs

/-! ### Recording one route -/

/-- Why a route with this documentation cannot be recorded. -/
def Route.refusal? (r : Route) (settings : Settings) (doc : Option String) : Option Failure :=
  match r.operation (Block.ofText? doc) settings with
  | .error failure => some failure
  | .ok _ => none

namespace Route

theorem operation_of_isEmpty {r : Route} {block : Block} {settings : Settings}
    (empty : block.isEmpty = true) : r.operation block settings = .ok none := by
  simp only [operation, empty, if_true]
  rfl

/-- A route with annotations has an operation unless it is refused. -/
theorem exists_operation {r : Route} {settings : Settings} {doc : Option String}
    (accepted : r.refusal? settings doc = none)
    (documented : (Block.ofText? doc).isEmpty = false) :
    ∃ o, r.operation (Block.ofText? doc) settings = .ok (some o) := by
  cases built : r.operation (Block.ofText? doc) settings with
  | error failure => simp [refusal?, built] at accepted
  | ok found =>
    cases found with
    | some o => exact ⟨o, rfl⟩
    | none =>
      simp only [operation, documented, Bool.false_eq_true, if_false] at built
      cases params : Param.all (Block.ofText? doc).params r with
      | error failure => rw [params] at built; cases built
      | ok ps => rw [params] at built; cases built

end Route

namespace ApiDocument

/-- The operation under a path and a verb. -/
def operation? (d : ApiDocument) (path verb : String) : Option Operation :=
  (d.paths.find? path).bind (·.find? verb)

/-- All that a document says apart from the routes. -/
def heading (d : ApiDocument) : ApiDocument := { d with tags := [], paths := .empty }

/-- The document with routes recorded that have this documentation. -/
def recordAll (settings : Settings) (d : ApiDocument) (found : List (Route × Option String)) :
    ApiDocument :=
  found.foldl (fun d p => (d.record settings p.1 p.2).1) d

variable (d : ApiDocument) (settings : Settings)

/-- All that recording a route does: its tag is recorded, and its operation if it has one. -/
theorem record_cases (r : Route) (doc : Option String) :
    let tagged := { d with tags := d.tags ++ [r.tag settings] }
    (∃ failure, r.operation (Block.ofText? doc) settings = .error failure ∧
        d.record settings r doc = (tagged, some failure)) ∨
      r.operation (Block.ofText? doc) settings = .ok none ∧
        d.record settings r doc = (tagged, none) ∨
      ∃ o, r.operation (Block.ofText? doc) settings = .ok (some o) ∧
        d.record settings r doc = (tagged.insert (r.path settings) r.verb o, none) := by
  unfold record
  cases r.operation (Block.ofText? doc) settings with
  | error failure => exact .inl ⟨failure, rfl, rfl⟩
  | ok found =>
    cases found with
    | none => exact .inr (.inl ⟨rfl, rfl⟩)
    | some o => exact .inr (.inr ⟨o, rfl, rfl⟩)

theorem record_failure (r : Route) (doc : Option String) :
    (d.record settings r doc).2 = r.refusal? settings doc := by
  rcases d.record_cases settings r doc with
    ⟨failure, built, recorded⟩ | ⟨built, recorded⟩ | ⟨o, built, recorded⟩ <;>
  rw [recorded, Route.refusal?, built]

/-- A tag is recorded in any case. -/
theorem record_tags (r : Route) (doc : Option String) :
    (d.record settings r doc).1.tags = d.tags ++ [r.tag settings] := by
  rcases d.record_cases settings r doc with
    ⟨failure, -, recorded⟩ | ⟨-, recorded⟩ | ⟨o, -, recorded⟩
  · rw [recorded]
  · rw [recorded]
  · rw [recorded, insert]

/-- Nothing but tags and paths is ever recorded. -/
theorem record_heading (r : Route) (doc : Option String) :
    (d.record settings r doc).1.heading = d.heading := by
  rcases d.record_cases settings r doc with
    ⟨failure, -, recorded⟩ | ⟨-, recorded⟩ | ⟨o, -, recorded⟩
  · rw [recorded, heading, heading]
  · rw [recorded, heading, heading]
  · rw [recorded, insert, heading, heading]

/-- A route that is refused leaves its tag and nothing else. -/
theorem record_of_refusal {r : Route} {doc : Option String} {failure : Failure}
    (refused : r.refusal? settings doc = some failure) :
    (d.record settings r doc).1 = { d with tags := d.tags ++ [r.tag settings] } := by
  rw [Route.refusal?] at refused
  rcases d.record_cases settings r doc with
    ⟨failure, -, recorded⟩ | ⟨-, recorded⟩ | ⟨o, built, -⟩
  · rw [recorded]
  · rw [recorded]
  · rw [built] at refused
    cases refused

/-! ### Recording many routes -/

/-- The operations that routes with this documentation have, each with its route. -/
def operations (settings : Settings) (found : List (Route × Option String)) :
    List (Route × Operation) :=
  found.filterMap fun p =>
    match p.1.operation (Block.ofText? p.2) settings with
    | .ok (some o) => some (p.1, o)
    | _ => none

/-- The documented ones of routes with documentation. -/
def documented (found : List (Route × Option String)) : List (Route × Option String) :=
  found.filter fun p => ! (Block.ofText? p.2).isEmpty

theorem recordAll_tags (found : List (Route × Option String)) :
    (d.recordAll settings found).tags = d.tags ++ found.map (·.1.tag settings) := by
  induction found generalizing d with
  | nil => simp [recordAll]
  | cons p found ih =>
    have later := ih (d.record settings p.1 p.2).1
    rw [record_tags, List.append_assoc] at later
    exact later

theorem recordAll_heading (found : List (Route × Option String)) :
    (d.recordAll settings found).heading = d.heading := by
  induction found generalizing d with
  | nil => rfl
  | cons p found ih => exact (ih _).trans (d.record_heading settings p.1 p.2)

theorem recordAll_paths (found : List (Route × Option String)) :
    (d.recordAll settings found).paths =
      (operations settings found).foldl
        (fun paths w => paths.alter (w.1.path settings) fun verbs =>
          (verbs.getD .empty).insert w.1.verb w.2) d.paths := by
  induction found generalizing d with
  | nil => rfl
  | cons p found ih =>
    show (recordAll settings (d.record settings p.1 p.2).1 found).paths = _
    rw [ih, operations, operations, List.filterMap_cons]
    rcases d.record_cases settings p.1 p.2 with
      ⟨failure, built, recorded⟩ | ⟨built, recorded⟩ | ⟨o, built, recorded⟩
    · rw [recorded, built]
    · rw [recorded, built]
    · rw [recorded, built]
      rfl

/-- Where no route is refused, the routes with an operation are those that are documented. -/
theorem operations_eq {found : List (Route × Option String)}
    (accepted : ∀ p ∈ found, p.1.refusal? settings p.2 = none) :
    (operations settings found).map
        (fun w => (w.1, (.ok (some w.2) : Except Failure (Option Operation)))) =
      (documented found).map fun p => (p.1, p.1.operation (Block.ofText? p.2) settings) := by
  simp only [operations, documented]
  induction found with
  | nil => rfl
  | cons p found ih =>
    obtain ⟨first, rest⟩ := List.forall_mem_cons.mp accepted
    rw [List.filterMap_cons, List.filter_cons]
    cases empty : (Block.ofText? p.2).isEmpty with
    | true => simpa [Route.operation_of_isEmpty empty] using ih rest
    | false =>
      obtain ⟨o, built⟩ := Route.exists_operation first empty
      simpa [built] using ih rest

theorem operations_routes {found : List (Route × Option String)}
    (accepted : ∀ p ∈ found, p.1.refusal? settings p.2 = none) :
    (operations settings found).map Prod.fst = (documented found).map Prod.fst := by
  have routes := congrArg (List.map Prod.fst) (operations_eq settings accepted)
  rw [List.map_map, List.map_map] at routes
  exact routes

/-! ### The paths and verbs of a fresh document -/

section
variable {d} {settings} {found : List (Route × Option String)} (fresh : d.paths = .empty)
  (accepted : ∀ p ∈ found, p.1.refusal? settings p.2 = none)
include fresh

theorem recordAll_nest : (d.recordAll settings found).paths =
    .nest (·.1.path settings) (·.1.verb) Prod.snd (operations settings found) := by
  rw [recordAll_paths, fresh]
  rfl

include accepted

theorem keys_recordAll : (d.recordAll settings found).paths.keys =
    ((documented found).map (·.1.path settings)).eraseDups := by
  have paths := congrArg (List.map (Route.path · settings)) (operations_routes settings accepted)
  rw [List.map_map, List.map_map] at paths
  rw [recordAll_nest fresh, OrderedMap.keys_nest]
  exact congrArg List.eraseDups paths

theorem keys_verbs_recordAll {path : String} {verbs : OrderedMap String Operation}
    (here : (d.recordAll settings found).paths.find? path = some verbs) :
    verbs.keys = (((documented found).filter (·.1.path settings = path)).map (·.1.verb)).eraseDups ∧
      verbs ≠ .empty := by
  rw [recordAll_nest fresh] at here
  obtain ⟨keys, nonempty⟩ := OrderedMap.keys_of_find?_nest _ _ _ here
  have routes := congrArg (List.filter (Route.path · settings = path))
    (operations_routes settings accepted)
  rw [List.filter_map, List.filter_map] at routes
  have sameVerbs := congrArg (List.map Route.verb) routes
  rw [List.map_map, List.map_map] at sameVerbs
  exact ⟨keys.trans (congrArg List.eraseDups sameVerbs), nonempty⟩

/-- The operation under a path and a verb is that of the last documented route with both. -/
theorem operation?_recordAll (path verb : String) :
    ((d.recordAll settings found).operation? path verb).map
        (fun o => (.ok (some o) : Except Failure (Option Operation))) =
      (((documented found).filter fun p =>
          p.1.path settings = path ∧ p.1.verb = verb).getLast?).map
        fun p => p.1.operation (Block.ofText? p.2) settings := by
  let here (r : Route) : Bool := r.path settings = path ∧ r.verb = verb
  have same := congrArg (List.filter fun e => here e.1) (operations_eq settings accepted)
  rw [List.filter_map, List.filter_map] at same
  have last := congrArg List.getLast? same
  rw [List.getLast?_map, List.getLast?_map] at last
  have built := congrArg (Option.map Prod.snd) last
  rw [Option.map_map, Option.map_map] at built
  rw [operation?, recordAll_nest fresh, OrderedMap.find?_find?_nest, Option.map_map]
  exact built

end

end ApiDocument

/-! ### Adding routes whose documentation is found -/

/-- Whether the look-up never fails. -/
def Lookup.Answers {σ : Type} (lookup : Lookup σ) : Prop :=
  ∀ state controller action, ∃ doc, (lookup state controller action).doc = .ok doc

namespace Lookup
variable {σ : Type} (lookup : Lookup σ)

/-- Routes with the documentation that is found for them, one after the other. -/
def found : σ → List Route → List (Route × Option String)
  | _, [] => []
  | state, r :: rs =>
    let answer := lookup state r.controller r.action
    (r, answer.doc.toOption.join) :: found answer.state rs

/-- The state of the look-up after the documentation of routes has been found. -/
def after : σ → List Route → σ
  | state, [] => state
  | state, r :: rs => after (lookup state r.controller r.action).state rs

theorem found_cons_of_doc {lookup : Lookup σ} {state : σ} {r : Route} {doc : Option String}
    (answered : (lookup state r.controller r.action).doc = .ok doc) (rs : List Route) :
    lookup.found state (r :: rs) =
      (r, doc) :: lookup.found (lookup state r.controller r.action).state rs := by
  rw [found, answered]
  rfl

theorem found_append (state : σ) (xs ys : List Route) :
    lookup.found state (xs ++ ys) =
      lookup.found state xs ++ lookup.found (lookup.after state xs) ys := by
  induction xs generalizing state with
  | nil => rfl
  | cons r xs ih => exact congrArg _ (ih _)

theorem found_routes (state : σ) (rs : List Route) :
    (lookup.found state rs).map Prod.fst = rs := by
  induction rs generalizing state with
  | nil => rfl
  | cons r rs ih => exact congrArg _ (ih _)

/-- A look-up with one text for each action finds that text, whatever was looked up before. -/
theorem found_of_fixed {texts : String → String → Option String}
    (fixed : ∀ state controller action,
      (lookup state controller action).doc = .ok (texts controller action))
    (state : σ) (rs : List Route) :
    lookup.found state rs = rs.map fun r => (r, texts r.controller r.action) := by
  induction rs generalizing state with
  | nil => rfl
  | cons r rs ih => rw [found_cons_of_doc (fixed _ _ _), ih, List.map_cons]

end Lookup

namespace Builder
variable {σ : Type} (b : Builder σ)

/-- Why adding a route with this documentation fails. -/
def refusal? (r : Route) (doc : Option String) : Option Failure :=
  if b.canSay r.handler then r.refusal? b.settings doc else some (.trouble .lineNotUnicode)

variable {b}

/-- A route that is not refused has a handler that can be printed. -/
theorem canSay_of_accepted {r : Route} {doc : Option String} (accepted : b.refusal? r doc = none) :
    b.canSay r.handler = true ∧ r.refusal? b.settings doc = none := by
  unfold refusal? at accepted
  split at accepted
  · next can => exact ⟨can, accepted⟩
  · cases accepted

variable (answers : b.lookup.Answers)
include answers

/-- Adding a route fails exactly if the route is refused; otherwise it is recorded. -/
theorem add_of_answers (r : Route) (s : Build σ) :
    ∃ doc, (b.lookup s.state r.controller r.action).doc = .ok doc ∧
      (b.add r s).2 = b.refusal? r doc ∧
      (b.canSay r.handler = true →
        (b.add r s).1.document = (s.document.record b.settings r doc).1 ∧
        (b.add r s).1.state = (b.lookup s.state r.controller r.action).state) := by
  obtain ⟨doc, answered⟩ := answers s.state r.controller r.action
  refine ⟨doc, answered, ?_⟩
  unfold refusal?
  cases can : b.canSay r.handler with
  | false =>
    rw [b.add_of_unprintable can]
    exact ⟨rfl, nofun⟩
  | true =>
    have step := b.add_of_doc can answered
    exact ⟨step.failure.trans (s.document.record_failure b.settings r doc),
      fun _ => ⟨step.build.document, step.build.state⟩⟩

theorem addAll_none_iff (rs : List Route) (s : Build σ) :
    (b.addAll rs s).2 = none ↔
      ∀ p ∈ b.lookup.found s.state rs, b.refusal? p.1 p.2 = none := by
  induction rs generalizing s with
  | nil => simp [addAll, Lookup.found]
  | cons r rs ih =>
    obtain ⟨doc, answered, failure, recorded⟩ := add_of_answers answers r s
    rw [Lookup.found_cons_of_doc answered, List.forall_mem_cons]
    dsimp only
    cases refused : b.refusal? r doc with
    | some cause =>
      rw [refused] at failure
      rw [b.addAll_cons_of_some failure, failure]
      simp
    | none =>
      rw [refused] at failure
      rw [b.addAll_cons_of_none failure, ih, (recorded (canSay_of_accepted refused).1).2]
      simp

/-- What is left of routes that are added without a failure. -/
theorem addAll_recordAll {rs : List Route} {s : Build σ} (fine : (b.addAll rs s).2 = none) :
    (b.addAll rs s).1.document =
        s.document.recordAll b.settings (b.lookup.found s.state rs) ∧
      (b.addAll rs s).1.state = b.lookup.after s.state rs := by
  induction rs generalizing s with
  | nil => exact ⟨rfl, rfl⟩
  | cons r rs ih =>
    obtain ⟨doc, answered, failure, recorded⟩ := add_of_answers answers r s
    cases added : (b.add r s).2 with
    | some cause =>
      rw [b.addAll_cons_of_some added, added] at fine
      cases fine
    | none =>
      obtain ⟨document, state⟩ := recorded (canSay_of_accepted (failure.symm.trans added)).1
      rw [b.addAll_cons_of_none added] at fine ⊢
      obtain ⟨laterDocument, laterState⟩ := ih fine
      rw [laterDocument, laterState, document, state, Lookup.found_cons_of_doc answered]
      exact ⟨rfl, rfl⟩

/-- Calls on routes of which none is refused record all of them. -/
theorem performAll_recordAll (calls : List Call) (s : Build σ)
    (accepted : ∀ p ∈ b.lookup.found s.state (calls.flatMap Call.routes),
      b.refusal? p.1 p.2 = none) :
    (∀ f ∈ (b.performAll calls s).2, f = none) ∧
      (b.performAll calls s).1.document =
        s.document.recordAll b.settings (b.lookup.found s.state (calls.flatMap Call.routes)) := by
  have added := (addAll_none_iff answers _ s).mpr accepted
  have together := b.performAll_alike calls (Build.Alike.refl s)
  exact ⟨together.1.mpr added,
    (together.2 added).document.trans (addAll_recordAll answers added).1⟩

end Builder

/-! ### Documents from sequences of calls -/

theorem ApiDocument.start?_of_url {settings : Settings} {url : String}
    (hasUrl : settings.appUrl = some url) (nonempty : url ≠ "") :
    ∃ start, ApiDocument.start? settings = .ok start ∧ start.tags = [] ∧ start.paths = .empty := by
  have kept : settings.appUrl.filter (! ·.isEmpty) = some url := by
    simp [hasUrl, Option.filter, nonempty]
  simp only [start?, kept]
  exact ⟨_, rfl, rfl, rfl⟩

/-- **The routes alone make the document.** After a sequence of calls of which none fails, the tags
are those of all routes. The paths, the verbs and the operations are those of the documented ones,
the keys in the order in which they first occur, and under each path and verb the last route
counts. Cutting the routes into calls in another way changes nothing. -/
theorem performAll_document {σ : Type} (b : Builder σ) {url : String}
    (hasUrl : b.settings.appUrl = some url) (nonempty : url ≠ "")
    (texts : String → String → Option String)
    (fixed : ∀ state controller action,
      (b.lookup state controller action).doc = .ok (texts controller action))
    (calls : List Call) (state : σ) :
    ∃ start, ApiDocument.start? b.settings = .ok start ∧
      ((∀ f ∈ (b.performAll calls ⟨start, state, .nothing⟩).2, f = none) →
        let d := (b.performAll calls ⟨start, state, .nothing⟩).1.document
        let routes := calls.flatMap Call.routes
        let block (r : Route) : Block := Block.ofText? (texts r.controller r.action)
        let documented := routes.filter fun r => ! (block r).isEmpty
        d.tags = routes.map (·.tag b.settings) ∧
        d.paths.keys = (documented.map (·.path b.settings)).eraseDups ∧
        (∀ path verbs, d.paths.find? path = some verbs →
          verbs.keys =
              ((documented.filter (·.path b.settings = path)).map Route.verb).eraseDups ∧
            verbs ≠ .empty) ∧
        (∀ path verb,
          (d.operation? path verb).map
              (fun o => (.ok (some o) : Except Failure (Option Operation))) =
            ((documented.filter fun r => r.path b.settings = path ∧ r.verb = verb).getLast?).map
              fun r => r.operation (block r) b.settings) ∧
        d.swagger = start.swagger ∧ d.info = start.info ∧ d.host = start.host ∧
        d.basePath = start.basePath ∧
        ∀ others : List Call, others.flatMap Call.routes = routes →
          (∀ f ∈ (b.performAll others ⟨start, state, .nothing⟩).2, f = none) ∧
          (b.performAll others ⟨start, state, .nothing⟩).1.document = d) := by
  obtain ⟨start, started, noTags, noPaths⟩ := ApiDocument.start?_of_url hasUrl nonempty
  refine ⟨start, started, fun fine => ?_⟩
  have answers : b.lookup.Answers := fun state c a => ⟨_, fixed state c a⟩
  let routes := calls.flatMap Call.routes
  let found := b.lookup.found state routes
  have added := (b.performAll_alike calls (Build.Alike.refl ⟨start, state, .nothing⟩)).1.mp fine
  have accepted : ∀ p ∈ found, b.refusal? p.1 p.2 = none :=
    (Builder.addAll_none_iff answers _ _).mp added
  have document : (b.performAll calls ⟨start, state, .nothing⟩).1.document =
      start.recordAll b.settings found :=
    (Builder.performAll_recordAll answers calls ⟨start, state, .nothing⟩ accepted).2
  have built : ∀ p ∈ found, p.1.refusal? b.settings p.2 = none := fun p hp =>
    (Builder.canSay_of_accepted (accepted p hp)).2
  have pairs : found = routes.map fun r => (r, texts r.controller r.action) :=
    b.lookup.found_of_fixed fixed state routes
  have kept : ApiDocument.documented found =
      (routes.filter fun r => ! (Block.ofText? (texts r.controller r.action)).isEmpty).map
        fun r => (r, texts r.controller r.action) := by
    rw [ApiDocument.documented, pairs, List.filter_map]
    rfl
  dsimp only
  rw [document]
  have heading := start.recordAll_heading b.settings found
  refine ⟨?_, ?_, fun path verbs here => ?_, fun path verb => ?_,
    (congrArg ApiDocument.swagger heading :), (congrArg ApiDocument.info heading :),
    (congrArg ApiDocument.host heading :), (congrArg ApiDocument.basePath heading :),
    fun others same => ?_⟩
  · rw [ApiDocument.recordAll_tags, noTags, List.nil_append, pairs, List.map_map]
    rfl
  · rw [ApiDocument.keys_recordAll noPaths built, kept, List.map_map]
    rfl
  · obtain ⟨keys, verbs_here⟩ := ApiDocument.keys_verbs_recordAll noPaths built here
    rw [kept, List.filter_map, List.map_map] at keys
    exact ⟨keys, verbs_here⟩
  · rw [ApiDocument.operation?_recordAll noPaths built, kept, List.filter_map,
      List.getLast?_map, Option.map_map]
    rfl
  · have again := Builder.performAll_recordAll answers others ⟨start, state, .nothing⟩
    rw [same] at again
    exact again accepted

def usersTable : DocTable :=
  .ofList [("app.Users@show", "@apiDesc Show"), ("app.Users@find", "@apiDesc Find\n@apiErr 404 | No")]

def usersBuilder : Builder Unit where
  settings := {
    title := "Users", version := "1", description := "", basePath := "api/v1",
    appUrl := some "https://example.com", uriLead := "api/v1", controllerLead := "" }
  lookup := usersTable.lookup
  verbose := true

/-- A route to an action of that application. -/
def usersRoute (uri action : String) : Route where
  host := none
  methods := ["GET", "HEAD"]
  uri := uri
  name := none
  controller := "app.Users"
  className := "Users"
  action := action

/-- Two documented routes on one path, with one between them that is not documented. -/
def usersCalls : List Call :=
  [.add (usersRoute "api/v1/users" "show"),
    .run [usersRoute "api/v1/ping" "ping", usersRoute "api/v1/users" "find"]]

theorem performAll_document_users :
    ∃ start, ApiDocument.start? usersBuilder.settings = .ok start ∧
      (∀ f ∈ (usersBuilder.performAll usersCalls ⟨start, (), .nothing⟩).2, f = none) ∧
      (usersBuilder.performAll usersCalls ⟨start, (), .nothing⟩).1.document.tags.map
        DocumentTag.name = ["/users", "/ping", "/users"] ∧
      (usersBuilder.performAll usersCalls ⟨start, (), .nothing⟩).1.document.paths.keys =
        ["/users"] := by
  obtain ⟨start, started, recorded⟩ := performAll_document usersBuilder rfl (by decide)
    (fun controller action => usersTable.find? (DocTable.key controller action))
    (fun _ _ _ => rfl) usersCalls ()
  refine ⟨start, started, ?_⟩
  obtain rfl := Except.ok.inj started
  obtain ⟨tags, keys, _⟩ := recorded (by decide +kernel)
  refine ⟨by decide +kernel, ?_, keys.trans (by decide +kernel)⟩
  exact (congrArg (List.map DocumentTag.name) tags).trans (by decide +kernel)

end RouteDocs
