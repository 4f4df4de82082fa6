/-
  RenderDesk.Session.Update
  ─────────────────────────
  How a session answers what happens to it: the new state, and what it asks
  for.

  Main statements:
    * `update_renderRequested_busy` — a render is refused while one is in
      flight;
    * `update_renderCompleted_stale` — an answer that is not awaited changes
      nothing;
    * `update_renderCompleted_awaited` — the one that is awaited ends the render;
    * `update_text` — only a start and an edit change the text.
-/
import RenderDesk.Document.Title
import RenderDesk.Session.Message
import RenderDesk.Text.Blank

namespace RenderDesk.Session

open RenderDesk.Service

/-! ## §1. The pieces of the log. -/

namespace LogLine

def sending : String := "Sending request..."
def converted : String := "Conversion successful."
def compiled : String := "PDF compiled successfully."
def noPdf : String := "Warning: PDF URL not returned (maybe latexmk missing?)."
def noTemplate : String := "Error: no template selected"

/-- The piece that reports an error. -/
def error (text : String) : String := "Error: " ++ text

/-- The piece that reports that no answer came in time. -/
def timedOut (after : Duration) : String :=
  error ("no response from compile service after " ++ after.text)

end LogLine

/-- The service's own log as a piece of the session's, unless nothing is left
of it without the blanks at its end. -/
def backendPieces : Option String → List String
  | none => []
  | some text =>
    let trimmed := Text.trimmedEnd text
    if trimmed.isEmpty then [] else [trimmed]

/-! ## §2. Requests. -/

namespace State

/-- The request for the current text and a template. -/
def request (s : State) (template : String) (compile : Bool) : CompileRequest where
  content := s.document.text
  template := template
  compile := compile

/-- Starts a render, unless one is in flight or no template is selected. -/
def requestRender (s : State) : State × List Effect :=
  if s.render.phase.inFlight then (s, [])
  else
    match s.selected with
    | none => (s.failRender LogLine.noTemplate, [])
    | some template =>
      (s.beginRender LogLine.sending, [.submitRender s.nextRender (s.request template true)])

/-- Asks for the source, when a template is selected. -/
def requestExtract (s : State) : State × List Effect :=
  match s.selected with
  | none => (s, [])
  | some template =>
    (s.beginExtract, [.submitSourceExtract s.nextExtract (s.request template false)])

/-- Asks for an export, when there is an artifact and no export is under way. -/
def requestExport (s : State) : State × List Effect :=
  match s.render.artifactRef with
  | some reference =>
    if s.exported = .pending then (s, [])
    else
      (s.setExport .pending, [.exportArtifact reference (Document.title s.document.text)])
  | none => (s, [])

/-! ## §3. The end of a render. -/

def appendPieces (s : State) (pieces : List String) : State :=
  pieces.foldl appendLog s

/-- Takes in how the render in flight ended. -/
def applyOutcome (s : State) (outcome : Outcome) (completedAt : UInt64) : State :=
  match outcome with
  | .compiled jobId backendLog artifact =>
    let s := ((s.appendPieces (backendPieces backendLog)).appendLog LogLine.converted).setJobId
      jobId
    match artifact with
    | some artifact =>
      ((s.storeArtifact artifact completedAt).appendLog LogLine.compiled).finishRender
        .succeeded .newArtifact
    | none => (s.appendLog LogLine.noPdf).finishRender .succeeded .noArtifact
  | .rejected backendLog detail =>
    ((s.appendPieces (backendPieces backendLog)).appendLog (LogLine.error detail)).finishRender
      .failed .failed
  | .transportFailed reason => (s.appendLog (LogLine.error reason)).finishRender .failed .failed
  | .timedOut after => (s.appendLog (LogLine.timedOut after)).finishRender .failed .timedOut

end State

/-! ## §4. The update. -/

/-- The state after a message, and what the session asks for. -/
def update (s : State) : Message → State × List Effect
  | .sessionStarted document => (s.load document, [.fetchTemplates])
  | .documentEdited text =>
    (s.edit text, [.scheduleSave (s.document.revision + 1) text])
  | .documentSaved revision => (s.noteSaved revision, [])
  | .templatesLoaded templates => (s.setTemplates templates, [])
  | .templateSelected name => (s.select name, [])
  | .renderRequested => s.requestRender
  | .renderDispatched id => (s.markCompiling id, [])
  | .renderCompleted id outcome completedAt =>
    if s.render.inFlight = some id then (s.applyOutcome outcome completedAt, []) else (s, [])
  | .sourceExtractRequested => s.requestExtract
  | .sourceExtracted id result => (s.noteExtract id result, [])
  | .logResetRequested => (s.clearLog, [])
  | .exportRequested => s.requestExport
  | .exportFinished result => (s.noteExport result, [])

/-- The state after a list of messages, and everything asked for on the way. -/
def run (s : State) : List Message → State × List Effect
  | [] => (s, [])
  | m :: ms =>
    let (s, effects) := update s m
    let (s, later) := run s ms
    (s, effects ++ later)

/-! ## §5. Laws. -/

theorem update_renderRequested_busy {s : State} (h : s.render.phase.inFlight = true) :
    update s .renderRequested = (s, []) := by
  simp [update, State.requestRender, h]

theorem update_renderCompleted_stale {s : State} {id : RenderId}
    (h : s.render.inFlight ≠ some id) (outcome : Outcome) (now : UInt64) :
    update s (.renderCompleted id outcome now) = (s, []) := by
  simp [update, h]

/-- The answer that is awaited ends the render. -/
theorem update_renderCompleted_awaited {s : State} {id : RenderId}
    (h : s.render.inFlight = some id) (outcome : Outcome) (now : UInt64) :
    update s (.renderCompleted id outcome now) = (s.applyOutcome outcome now, []) := by
  simp only [update, h, if_true]

theorem appendPieces_document (s : State) (pieces : List String) :
    (s.appendPieces pieces).document = s.document := by
  induction pieces generalizing s with
  | nil => rfl
  | cons piece pieces ih => exact (ih (s.appendLog piece)).trans rfl

theorem applyOutcome_document (s : State) (outcome : Outcome) (now : UInt64) :
    (s.applyOutcome outcome now).document = s.document := by
  cases outcome with
  | compiled jobId log artifact => cases artifact <;> exact appendPieces_document s _
  | rejected log detail => exact appendPieces_document s _
  | _ => rfl

theorem update_text (s : State) (m : Message) :
    (update s m).1.document.text = m.newText?.getD s.document.text := by
  cases m with
  | renderCompleted id outcome now =>
    simp only [update]
    split
    · simp [applyOutcome_document, Message.newText?]
    · rfl
  | _ =>
    simp only [update, State.requestRender, State.requestExtract, State.requestExport,
      State.noteSaved, State.select, State.markCompiling, State.noteExtract, State.clearLog,
      State.noteExport]
    repeat' split
    all_goals rfl

end RenderDesk.Session
