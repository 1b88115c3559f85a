import RouteDocs.ApiDocument
import RouteDocs.Lookup

/-!
# Building a document

* `Build`: a document under construction, with what has been printed;
* `Builder.add`, `Builder.run`: adding one route, or a list of routes;
* `generate`: building the document of a list of routes and writing it to a disk.

A step that fails keeps what it changed before.
-/

namespace RouteDocs

/-- What stays the same while a document is built. -/
structure Builder (σ : Type) where
  settings : Settings
  lookup : Lookup σ
  verbose : Bool

/-- A document under construction, the state of the look-up, and what has been printed. -/
structure Build (σ : Type) where
  document : ApiDocument
  state : σ
  printed : Printed

/-- The build after a step, and the failure of the step if it failed. -/
abbrev Stepped (σ : Type) := Build σ × Option Failure

namespace Builder
variable {σ : Type}

/-- Prints a line, if lines are printed at all. One with half of a surrogate pair has no encoding;
the characters that stand in for halves count as such. -/
def say (b : Builder σ) (line : String) (s : Build σ) : Stepped σ :=
  if ! b.verbose then (s, none)
  else if Text.hasHalves line then (s, some (.trouble .lineNotUnicode))
  else ({ s with printed := s.printed ++ .text (line ++ "\n") }, none)

/-- Adds a route: prints its handler, looks up its documentation and records both. -/
def add (b : Builder σ) (r : Route) (s : Build σ) : Stepped σ :=
  match b.say r.handler s with
  | (s, some failure) => (s, some failure)
  | (s, none) =>
    let answer := b.lookup s.state r.controller r.action
    let s := { s with state := answer.state, printed := s.printed ++ answer.printed }
    match answer.doc with
    | .error cause => (s, some (.trouble cause))
    | .ok doc =>
      let (document, failure) := s.document.record b.settings r doc
      ({ s with document }, failure)

def addAll (b : Builder σ) : List Route → Build σ → Stepped σ
  | [], s => (s, none)
  | r :: rs, s =>
    match b.add r s with
    | (s, none) => b.addAll rs s
    | (s, some failure) => (s, some failure)

/-- Says how many routes and controllers there are, and adds the routes. -/
def run (b : Builder σ) (routes : List Route) (s : Build σ) : Stepped σ :=
  let controllers := (Route.byController routes).entries.length
  let line := "Found " ++ toString routes.length ++ " routes in " ++ toString controllers ++
    " controllers."
  match b.say line s with
  | (s, some failure) => (s, some failure)
  | (s, none) => b.addAll routes s

end Builder

/-- The directory below the storage that holds the document, and nothing else. -/
def outputDirectory (storage : FilePath) : FilePath := storage.child "appDoc"

def outputFile (storage : FilePath) : FilePath := (outputDirectory storage).child "resource.json"

/-- Makes the output directory and writes the document into it. -/
def Disk.writeFresh (disk : Disk) (storage : FilePath) (document : ApiDocument) :
    Disk × Option Trouble :=
  match disk.makeDirectories (outputDirectory storage) with
  | (disk, some trouble) => (disk, some (.file trouble))
  | (disk, none) =>
    match document.serialize with
    | .error cause => (disk, some cause)
    | .ok text =>
      match disk.writeFile (outputFile storage) text.toUTF8 with
      | .ok disk => (disk, none)
      | .error trouble => (disk, some (.file trouble))

/-- The disk with the document in a fresh output directory; what the directory held is gone. -/
def Disk.writeDocument (disk : Disk) (storage : FilePath) (document : ApiDocument) :
    Disk × Option Trouble :=
  let directory := outputDirectory storage
  let cleared : Except FileTrouble Disk := do
    if (← disk.find? directory).isSome then disk.removeDirectory directory else return disk
  match cleared with
  | .error trouble => (disk, some (.file trouble))
  | .ok disk => disk.writeFresh storage document

/-- What a run gives: the file that was written or the failure, the disk, the state of the look-up,
and what was printed. -/
structure Generated (σ : Type) where
  result : Except Failure FilePath
  disk : Disk
  state : σ
  printed : Printed

/-- Builds the document of a list of routes and writes it below the storage. Nothing is written when
building fails. -/
def generate {σ : Type} (b : Builder σ) (state : σ) (routes : List Route) (storage : FilePath)
    (disk : Disk) : Generated σ :=
  match ApiDocument.start? b.settings with
  | .error failure => ⟨.error failure, disk, state, .nothing⟩
  | .ok document =>
    match b.run routes ⟨document, state, .nothing⟩ with
    | (s, some failure) => ⟨.error failure, disk, s.state, s.printed⟩
    | (s, none) =>
      match disk.writeDocument storage s.document with
      | (disk, none) => ⟨.ok (outputFile storage), disk, s.state, s.printed⟩
      | (disk, some cause) => ⟨.error (.trouble cause), disk, s.state, s.printed⟩

end RouteDocs
