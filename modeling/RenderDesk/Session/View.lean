/-
  RenderDesk.Session.View
  ───────────────────────
  What can be seen of a session.
-/
import RenderDesk.Document.Title
import RenderDesk.Session.State

namespace RenderDesk.Session

/-- Everything that a display needs. -/
structure View where
  phase : Phase := .idle
  log : String := ""
  jobId : Option String := none
  artifactRef : Option String := none
  conclusion : Option Conclusion := none
  saved : Bool := false
  title : Option String := none
  templates : List String := []
  selected : Option String := none
  source : SourceStatus := .none
  exported : ExportStatus := .none
  dirty : Bool := false
  deriving Repr, DecidableEq, Inhabited

/-- Whether a render is under way. -/
def View.busy (v : View) : Bool := v.phase.inFlight

/-- The view of a state. -/
def State.view (s : State) : View where
  phase := s.render.phase
  log := "\n".intercalate s.render.log
  jobId := s.render.jobId
  artifactRef := s.render.artifactRef
  conclusion := s.render.conclusion
  saved := s.document.saved
  title := Document.title s.document.text
  templates := s.templates
  selected := s.selected
  source := s.source
  exported := s.exported
  dirty := s.dirty

end RenderDesk.Session
