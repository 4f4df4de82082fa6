/-
  RenderDesk.Engine.Command
  ─────────────────────────
  What the engine is told to do, and what it tells back.
-/
import RenderDesk.Files.Path
import RenderDesk.Service.Calls
import RenderDesk.Session.Message
import RenderDesk.Storage.Committer

namespace RenderDesk.Engine

open RenderDesk.Service
open RenderDesk.Session
open RenderDesk.Storage

/-! ## §1. Commands. -/

inductive Command where
  | render (id : RenderId) (request : CompileRequest)
  | extractSource (id : ExtractId) (request : CompileRequest)
  | listTemplates
  | scheduleSave (snapshot : Snapshot)
  | exportArtifact (reference : String) (title : Option String)
  /-- Write the snapshot that waits, now. -/
  | flush
  deriving Repr, DecidableEq

/-- The command that does what a session asks for. -/
def Command.ofEffect : Effect → Command
  | .fetchTemplates => .listTemplates
  | .scheduleSave revision content => .scheduleSave ⟨revision, content⟩
  | .submitRender id request => .render id request
  | .submitSourceExtract id request => .extractSource id request
  | .exportArtifact reference title => .exportArtifact reference title

/-! ## §2. Events. -/

inductive Event where
  /-- A render request was handed to the network. -/
  | renderDispatched (id : RenderId)
  | renderCompleted (id : RenderId) (result : Result CompileReply)
  | sourceExtracted (id : ExtractId) (result : Result String)
  | templatesListed (result : Result (List String))
  | documentSaved (revision : Revision)
  | documentSaveFailed (revision : Revision) (message : String)
  /-- An export ended: the path of the file, or why there is none. -/
  | artifactExported (result : Except String Files.Path)

/-- The event for what a write came to. -/
def Event.ofSave : SaveEvent → Event
  | .saved revision => .documentSaved revision
  | .saveFailed revision message => .documentSaveFailed revision message

end RenderDesk.Engine
