import RouteDocs.Proofs.Commands

/-!
# The URL that a document is generated with

The settings promise that the option comes first, then the settings file, then the environment. But
where no option is given, the value of the environment stands in for it, and so comes before the
file. Main statements:

* `chosenUrl`, `promisedUrl`: the URL that a run works with, and the one that is promised;
* `document_of_generate`: a run that succeeds writes a document with the host of the chosen URL;
* `host_of_generate`: which source decides in each case, and when this is what is promised;
* `environment_comes_before_file`: a run that breaks the promise.
-/

namespace RouteDocs.CommandLine
open ApiDocument (hostOf)
open Settings (HeldBy fileUrl?)

/-- The URL that is promised: that of the option, or else that of the file, or else that of the
environment. -/
def promisedUrl (option file environment : Option String) : Option String :=
  (nonEmpty option).or (file.or (nonEmpty environment))

/-- The URL that a run works with. -/
def chosenUrl (option file environment : Option String) : Option String :=
  (nonEmpty (option.or (nonEmpty environment))).or (file.or (nonEmpty environment))

theorem nonEmpty_some {url : String} (full : url ≠ "") : nonEmpty (some url) = some url := by
  simp [nonEmpty, Option.filter, full]

theorem nonEmpty_nonEmpty (s : Option String) : nonEmpty (nonEmpty s) = nonEmpty s := by
  simp [nonEmpty, Option.filter_filter]

/-- The promise is kept where the option is given, even if it is empty. -/
theorem chosenUrl_of_option (option : String) (file environment : Option String) :
    chosenUrl (some option) file environment = promisedUrl (some option) file environment := rfl

/-- Without the option, the environment comes before the file. -/
theorem chosenUrl_of_no_option (file environment : Option String) :
    chosenUrl none file environment = (nonEmpty environment).or file := by
  rw [chosenUrl, Option.none_or, nonEmpty_nonEmpty]
  cases nonEmpty environment <;> simp

example : chosenUrl none (some "http://file.example") (some "http://env.example") =
    some "http://env.example" := by
  decide +kernel

section
variable {args : List String} {g : Given} {s : Session} {environment : Option String}

/-- The document before any route has the host of the URL. -/
theorem host_of_start? {settings : Settings} {start : ApiDocument}
    (h : ApiDocument.start? settings = .ok start) :
    ∃ url, settings.appUrl = some url ∧ start.host = hostOf url := by
  rw [ApiDocument.start?] at h
  cases given : settings.appUrl.filter (! ·.isEmpty) with
  | none =>
    rw [given] at h
    cases h
  | some url =>
    rw [given] at h
    cases h
    exact ⟨url, (Option.filter_eq_some_iff.mp given).1, rfl⟩

/-- A run that succeeds writes a document with the host of the chosen URL, unless a controller
module ended it. -/
theorem document_of_generate (asks : Asks .generate args g)
    (success : (run s environment args).exit = 0) :
    (∃ (url : String) (document : ApiDocument),
        (∀ own, HeldBy s.disk (Request.ofGiven g environment).config own →
          chosenUrl (g.value? .appUrl) (fileUrl? own) environment = some url) ∧
        (run s environment args).session.disk.readBytes
            (outputFile (Request.ofGiven g environment).storage) =
          .ok document.text.toUTF8 ∧ document.host = hostOf url) ∨
      (run s environment args).session.disk = s.disk ∧
        (Request.ofGiven g environment).EndedByModule (s.within environment) := by
  have performed := run_of_exit asks success
  rw [performed] at success ⊢
  obtain ⟨settings, routes, lookup, state, ready, done | ⟨same, raised, well, raises⟩⟩ :=
    Request.generate_of_exit success
  · obtain ⟨start, started, -, written⟩ := done
    obtain ⟨loaded, -, -⟩ := Request.ok_of_inputs ready
    obtain ⟨url, settled, host⟩ := host_of_start? started
    refine .inl ⟨url, (Builder.run ⟨settings, lookup, true⟩ routes
      ⟨start, state, .nothing⟩).1.document, fun own held => ?_, written, ?_⟩
    · have entries := (Settings.load_of_heldBy held).symm.trans loaded
      rw [← settled, Settings.appUrl_of_ofEntries entries, chosenUrl]
      rfl
    · rw [Builder.run_host, host]
  · obtain ⟨-, read, found⟩ := Request.ok_of_inputs ready
    exact .inr ⟨same, routes, lookup, state, raised, read, found, well, raises⟩

/-- Without any URL a run fails and changes nothing. -/
theorem generate_without_url (asks : Asks .generate args g)
    (checked : g.check s.disk Command.generate.options = .ok ())
    (none_chosen : ∀ own, HeldBy s.disk (Request.ofGiven g environment).config own →
      chosenUrl (g.value? .appUrl) (fileUrl? own) environment = none) :
    (run s environment args).exit = 1 ∧ (run s environment args).session.disk = s.disk := by
  have missing : ∀ settings, Settings.load s.disk (Request.ofGiven g environment).config
      (Request.ofGiven g environment).appUrl environment = .ok settings →
      nonEmpty settings.appUrl = none := by
    intro settings loaded
    obtain ⟨own, held, entries⟩ := Settings.heldBy_of_load loaded
    have url := (Settings.appUrl_of_ofEntries entries).trans (none_chosen own held)
    rw [url]
    rfl
  obtain ⟨cause, refused, own⟩ :=
    Request.inputs_of_no_url (s := s.within environment) missing
  have ended : run s environment args =
      refuse (s.within environment) (some .generate) .nothing (.failure cause) := by
    rw [run_of_asks asks, checked]
    simp only [Request.perform, Request.generate, refused]
  rw [ended, refuse_session]
  exact ⟨refuse_exit_of_failure own, rfl⟩

/-- Which source decides about a host. -/
structure Decides (option file environment : Option String) (host : String) : Prop where
  byOption : ∀ url, option = some url → url ≠ "" → host = hostOf url
  byEnvironment : option = none → file = none →
    ∃ url, nonEmpty environment = some url ∧ host = hostOf url
  /-- Without the option, the file decides only if the environment agrees. -/
  byFile : ∀ url, option = none → file = some url →
    (host = hostOf url ↔ ∀ other, nonEmpty environment = some other → hostOf other = hostOf url)
  byRest : option = some "" →
    ∃ url, file.or (nonEmpty environment) = some url ∧ host = hostOf url

theorem decides_of_chosenUrl {option file environment : Option String} {url : String}
    (h : chosenUrl option file environment = some url) :
    Decides option file environment (hostOf url) where
  byOption := by
    rintro other rfl full
    rw [chosenUrl_of_option, promisedUrl, nonEmpty_some full] at h
    rw [← Option.some.inj h]
  byEnvironment := by
    rintro rfl rfl
    rw [chosenUrl_of_no_option, Option.or_none] at h
    exact ⟨url, h, rfl⟩
  byFile := by
    rintro file rfl rfl
    rw [chosenUrl_of_no_option] at h
    cases last : nonEmpty environment <;> rw [last] at h <;> simp [Option.some.inj h]
  byRest := by
    rintro rfl
    exact ⟨url, h, rfl⟩

/-- **Which source decides about the host.** For arguments that ask to generate:

* a run that succeeds writes a document, unless a controller module ended it before that. An option
  that is not empty decides about its host; without the option and without a URL in the file the
  environment does; and without the option the host is that of the file exactly if the environment
  has no URL, or one with the same host;
* a run without any of the three fails and changes nothing. -/
theorem host_of_generate (asks : Asks .generate args g) (s : Session)
    (environment : Option String) :
    ((run s environment args).exit = 0 →
      (∃ document : ApiDocument, (run s environment args).session.disk.readBytes
            (outputFile (Request.ofGiven g environment).storage) = .ok document.text.toUTF8 ∧
          ∀ own, HeldBy s.disk (Request.ofGiven g environment).config own →
            Decides (g.value? .appUrl) (fileUrl? own) environment document.host) ∨
        (run s environment args).session.disk = s.disk ∧
          (Request.ofGiven g environment).EndedByModule (s.within environment)) ∧
    (g.check s.disk Command.generate.options = .ok () → nonEmpty (g.value? .appUrl) = none →
      nonEmpty environment = none →
      (∀ own, HeldBy s.disk (Request.ofGiven g environment).config own → fileUrl? own = none) →
      (run s environment args).exit = 1 ∧ (run s environment args).session.disk = s.disk) := by
  constructor
  · intro success
    rcases document_of_generate asks success with ⟨url, document, chosen, written, host⟩ | ended
    · refine .inl ⟨document, written, fun own held => ?_⟩
      rw [host]
      exact decides_of_chosenUrl (chosen own held)
    · exact .inr ended
  · intro checked noOption noEnvironment noFile
    refine generate_without_url asks checked fun own held => ?_
    rw [noFile own held, chosenUrl, noEnvironment, Option.or_none, noOption]
    rfl

end

/-- A session with a manifest without routes, settings with a URL, and an output directory. -/
def fileUrlSession : Session where
  disk := {
    root := .directory [
      ("r.json", .file "[]".toUTF8),
      ("c.yaml", .file "app_url: http://file.example\n".toUTF8),
      ("storage", .directory [("appDoc", .directory [])])]
    working := [] }
  world := .empty true

def fileUrlArgs : List String := ["generate", "r.json", "-c", "c.yaml"]

def fileUrlGiven : Given := ⟨[(.config, "c.yaml")], ["r.json"]⟩

theorem asks_fileUrlArgs : Asks .generate fileUrlArgs fileUrlGiven :=
  ⟨fileUrlArgs.tail, by decide +kernel, by decide +kernel, by decide⟩

theorem load_fileUrl : Settings.load fileUrlSession.disk (some (.ofText "c.yaml")) none none =
    .ok (.ofUrl (some "http://file.example")) :=
  ok_of_toOption (by decide +kernel)

theorem heldBy_fileUrlSession : ∃ own,
    HeldBy fileUrlSession.disk (some (.ofText "c.yaml")) own ∧
      fileUrl? own = some "http://file.example" := by
  obtain ⟨own, held, entries⟩ := Settings.heldBy_of_load load_fileUrl
  have url := Settings.appUrl_of_ofEntries entries
  refine ⟨own, held, ?_⟩
  simpa [nonEmpty, Settings.ofUrl] using url.symm

theorem load_noRoutes : Manifest.load fileUrlSession.disk (.ofText "r.json") = .ok [] :=
  ok_of_toOption (by decide +kernel)

/-- These arguments succeed with a URL whose document is Unicode. -/
theorem exit_of_fileUrlArgs {environment : Option String} (url : String)
    (loaded : Settings.load fileUrlSession.disk (some (.ofText "c.yaml")) (nonEmpty environment)
      environment = .ok (.ofUrl (some url)))
    (full : url ≠ "")
    (unicode : (ApiDocument.start? (.ofUrl (some url))).toOption.map (fun document =>
      document.json.writeChars.any fun c => (Text.half? c).isSome) = some false) :
    (run fileUrlSession environment fileUrlArgs).exit = 0 := by
  have checked : fileUrlGiven.check fileUrlSession.disk Command.generate.options = .ok () :=
    ok_of_toOption (by decide +kernel)
  have ready : (Request.ofGiven fileUrlGiven environment).inputs
      (fileUrlSession.within environment) true (nonEmpty environment) environment =
        .ok (.ofUrl (some url), [], _, _) :=
    Request.inputs_of_ok loaded (fun _ => by simp [Settings.ofUrl, nonEmpty_some full])
      load_noRoutes rfl
  rw [run_of_checked asks_fileUrlArgs checked]
  have plain : (outputFile (.ofText "storage")).IsPlain :=
    ⟨by decide +kernel, by decide +kernel, by decide +kernel⟩
  refine Request.exit_of_generation ready rfl plain ?_ rfl rfl
  rw [Request.document?_generation_nil, unicode]

/-- No route of this session has a controller that could end a run. -/
theorem not_endedByModule_fileUrlSession (environment : Option String) :
    ¬ (Request.ofGiven fileUrlGiven environment).EndedByModule
      (fileUrlSession.within environment) := by
  rintro ⟨routes, -, -, -, read, -, -, before, r, behind, rfl, -⟩
  have none_read : before ++ r :: behind = [] := Except.ok.inj (read.symm.trans load_noRoutes)
  simp at none_read

/-- Where only the file has a URL, it decides. -/
theorem file_decides_alone : Asks .generate fileUrlArgs fileUrlGiven ∧
    (run fileUrlSession none fileUrlArgs).exit = 0 ∧
    ∃ document : ApiDocument, (run fileUrlSession none fileUrlArgs).session.disk.readBytes
        ⟨false, ["storage", "appDoc", "resource.json"]⟩ = .ok document.text.toUTF8 ∧
      document.host = "file.example" := by
  have success : (run fileUrlSession none fileUrlArgs).exit = 0 :=
    exit_of_fileUrlArgs "http://file.example" load_fileUrl (by decide) (by decide +kernel)
  obtain ⟨own, held, url⟩ := heldBy_fileUrlSession
  refine ⟨asks_fileUrlArgs, success, ?_⟩
  rcases (host_of_generate asks_fileUrlArgs fileUrlSession none).1 success with
    ⟨document, written, decides⟩ | ⟨-, ended⟩
  · refine ⟨document, written, ?_⟩
    have host := ((decides own held).byFile _ rfl url).mpr nofun
    exact host.trans (by decide +kernel)
  · exact absurd ended (not_endedByModule_fileUrlSession none)

/-- Without the option, a URL in the environment comes before the one in the file, although the
settings promise the opposite. -/
theorem environment_comes_before_file :
    (∃ own, HeldBy fileUrlSession.disk (some (.ofText "c.yaml")) own ∧
      fileUrl? own = some "http://file.example" ∧
      promisedUrl none (fileUrl? own) (some "http://env.example") = some "http://file.example") ∧
    (run fileUrlSession (some "http://env.example") fileUrlArgs).exit = 0 ∧
    ∃ document : ApiDocument,
      (run fileUrlSession (some "http://env.example") fileUrlArgs).session.disk.readBytes
        ⟨false, ["storage", "appDoc", "resource.json"]⟩ = .ok document.text.toUTF8 ∧
      document.host = "env.example" := by
  have success : (run fileUrlSession (some "http://env.example") fileUrlArgs).exit = 0 :=
    exit_of_fileUrlArgs "http://env.example" (ok_of_toOption (by decide +kernel)) (by decide)
      (by decide +kernel)
  obtain ⟨own, held, url⟩ := heldBy_fileUrlSession
  refine ⟨⟨own, held, url, by rw [url]; rfl⟩, success, ?_⟩
  rcases document_of_generate asks_fileUrlArgs success with
    ⟨chosen, document, decides, written, host⟩ | ⟨-, ended⟩
  · refine ⟨document, written, host.trans ?_⟩
    have same : some "http://env.example" = some chosen := by
      rw [← decides own held, url]
      rfl
    rw [← Option.some.inj same]
    decide +kernel
  · exact absurd ended (not_endedByModule_fileUrlSession _)

end RouteDocs.CommandLine
