/-
  RenderDesk.Session.Message
  ──────────────────────────
  What can happen to a session, and what a session asks for.
-/
import RenderDesk.Session.State

namespace RenderDesk.Session

/-- What happens to a session: the user's wishes and the engine's answers. -/
inductive Message where
  /-- The session begins with a text. -/
  | sessionStarted (document : String)
  /-- The user changed the document; the whole new text. -/
  | documentEdited (text : String)
  /-- A revision was written to storage. -/
  | documentSaved (revision : Revision)
  /-- The service's list of templates arrived. -/
  | templatesLoaded (templates : List String)
  /-- The user chose a template. -/
  | templateSelected (name : String)
  /-- The user wants the document rendered. -/
  | renderRequested
  /-- A render request was handed to the network. -/
  | renderDispatched (id : RenderId)
  /-- A render ended, at a reading of the clock in milliseconds. -/
  | renderCompleted (id : RenderId) (outcome : Service.Outcome) (completedAt : UInt64)
  /-- The user wants to see the intermediate source. -/
  | sourceExtractRequested
  /-- A source request ended. -/
  | sourceExtracted (id : ExtractId) (result : Except String String)
  /-- The user wants the log emptied. -/
  | logResetRequested
  /-- The user wants the artifact in a file. -/
  | exportRequested
  /-- An export ended. -/
  | exportFinished (result : Except String String)
  deriving Repr

/-- The text that a message gives the document. -/
def Message.newText? : Message → Option String
  | .sessionStarted text | .documentEdited text => some text
  | _ => none

/-- What a session asks the engine for. -/
inductive Effect where
  | fetchTemplates
  /-- Save a revision, unless a later one replaces it first. -/
  | scheduleSave (revision : Revision) (content : String)
  | submitRender (id : RenderId) (request : Service.CompileRequest)
  | submitSourceExtract (id : ExtractId) (request : Service.CompileRequest)
  | exportArtifact (reference : String) (title : Option String)
  deriving Repr, DecidableEq

end RenderDesk.Session
