/-
  RenderDesk.Session.State
  ────────────────────────
  What a session knows: the document and whether it is saved, the latest
  render, the templates, the intermediate source, and the latest export.

  Each operation marks the state as changed (`dirty`) when it changes
  something that can be seen.
-/
import RenderDesk.Artifact.Stamp
import RenderDesk.Service.Exchange

namespace RenderDesk.Session

/-! ## §1. Parts of the state. -/

/-- Numbers the edits of a document. -/
abbrev Revision := UInt64

/-- Numbers the render requests of a session. -/
abbrev RenderId := UInt64

/-- Numbers the source requests of a session. -/
abbrev ExtractId := UInt64

/-- Where the latest render stands. -/
inductive Phase where
  | idle
  | submitting
  /-- The request is on its way. -/
  | compiling
  | succeeded
  | failed
  deriving Repr, DecidableEq, Inhabited

/-- Whether an answer is still awaited. -/
def Phase.inFlight : Phase → Bool
  | .submitting | .compiling => true
  | _ => false

/-- How the latest finished render ended. -/
inductive Conclusion where
  | newArtifact
  /-- It succeeded without an artifact; the one before is still shown. -/
  | noArtifact
  | failed
  | timedOut
  deriving Repr, DecidableEq

/-- The text being edited. -/
structure Document where
  text : String := ""
  revision : Revision := 0
  saved : Bool := false
  deriving Repr, DecidableEq, Inhabited

/-- The latest render. -/
structure Render where
  phase : Phase := .idle
  /-- The log, in the pieces in which it was written. -/
  log : List String := []
  jobId : Option String := none
  /-- The last good artifact, with its stamp. -/
  artifactRef : Option String := none
  inFlight : Option RenderId := none
  conclusion : Option Conclusion := none
  deriving Repr, DecidableEq, Inhabited

/-- The intermediate source of the document. -/
inductive SourceStatus where
  | none
  | pending (extractId : ExtractId)
  | ready (source : String)
  | failed (reason : String)
  deriving Repr, DecidableEq, Inhabited

/-- The latest export of an artifact. -/
inductive ExportStatus where
  | none
  | pending
  | written (path : String)
  | failed (reason : String)
  deriving Repr, DecidableEq, Inhabited

/-! ## §2. The state. -/

/-- The template chosen when the service offers it and nothing else is set. -/
def defaultTemplate : String := "matnoble"

structure State where
  document : Document := {}
  render : Render := {}
  templates : List String := []
  selected : Option String := none
  /-- The template to select when a list arrives. -/
  preferred : String := defaultTemplate
  source : SourceStatus := .none
  exported : ExportStatus := .none
  stamper : Artifact.Stamper := {}
  nextRender : RenderId := 1
  nextExtract : ExtractId := 1
  dirty : Bool := false
  deriving Repr, DecidableEq, Inhabited

namespace State

/-- A new session that prefers a template. -/
def preferring (template : String) : State := { preferred := template }

def touched (s : State) : State := { s with dirty := true }

/-- The state with its mark of change cleared. -/
def seen (s : State) : State := { s with dirty := false }

/-! ## §3. The document. -/

/-- Begins with a stored or given text. -/
def load (s : State) (text : String) : State :=
  { s with document := { text, revision := 0, saved := true } }.touched

/-- Replaces the text. -/
def edit (s : State) (text : String) : State :=
  { s with document := { text, revision := s.document.revision + 1, saved := false } }.touched

/-- Takes note of a saved revision; only the latest one counts. -/
def noteSaved (s : State) (revision : Revision) : State :=
  if revision = s.document.revision ∧ s.document.saved = false then
    { s with document := { s.document with saved := true } }.touched
  else s

/-! ## §4. Templates. -/

/-- The template to select from a list. -/
def pick (preferred : String) (templates : List String) : Option String :=
  if preferred ∈ templates then some preferred else templates.head?

def setTemplates (s : State) (templates : List String) : State :=
  { s with selected := pick s.preferred templates, templates }.touched

/-- Selects a template of the list. -/
def select (s : State) (name : String) : State :=
  if s.selected ≠ some name ∧ name ∈ s.templates then
    { s with selected := some name }.touched
  else s

/-! ## §5. The render. -/

/-- Begins a render, with the first piece of its log. -/
def beginRender (s : State) (line : String) : State :=
  { s with
    nextRender := s.nextRender + 1
    render := { s.render with
      phase := .submitting
      log := [line]
      jobId := none
      inFlight := some s.nextRender } }.touched

/-- Ends a render that could not even be sent. -/
def failRender (s : State) (line : String) : State :=
  { s with
    render := { s.render with
      phase := .failed
      log := [line]
      jobId := none
      conclusion := some .failed } }.touched

/-- Takes note that the render with a number is on its way. -/
def markCompiling (s : State) (id : RenderId) : State :=
  if s.render.inFlight = some id ∧ s.render.phase = .submitting then
    { s with render := { s.render with phase := .compiling } }.touched
  else s

def appendLog (s : State) (piece : String) : State :=
  { s with render := { s.render with log := s.render.log ++ [piece] } }.touched

def setJobId (s : State) (jobId : Option String) : State :=
  { s with render := { s.render with jobId } }

/-- Keeps an artifact under a reference that was never used before. -/
def storeArtifact (s : State) (artifact : String) (now : UInt64) : State :=
  let (stamp, stamper) := s.stamper.next now
  { s with
    stamper
    render := { s.render with artifactRef := some (Artifact.stamped artifact stamp) } }.touched

def finishRender (s : State) (phase : Phase) (conclusion : Conclusion) : State :=
  { s with
    render := { s.render with
      phase
      inFlight := none
      conclusion := some conclusion } }.touched

def clearLog (s : State) : State :=
  if s.render.log = [] then s
  else { s with render := { s.render with log := [] } }.touched

/-! ## §6. The source and the export. -/

def beginExtract (s : State) : State :=
  { s with nextExtract := s.nextExtract + 1, source := .pending s.nextExtract }.touched

/-- Keeps the result of the source request that is awaited. -/
def noteExtract (s : State) (id : ExtractId) (result : Except String String) : State :=
  if s.source = .pending id then
    { s with
      source := match result with
        | .ok source => .ready source
        | .error reason => .failed reason }.touched
  else s

def setExport (s : State) (status : ExportStatus) : State :=
  { s with exported := status }.touched

/-- Keeps the result of the export that is awaited. -/
def noteExport (s : State) (result : Except String String) : State :=
  if s.exported = .pending then
    s.setExport (match result with
      | .ok path => .written path
      | .error reason => .failed reason)
  else s

end State

end RenderDesk.Session
