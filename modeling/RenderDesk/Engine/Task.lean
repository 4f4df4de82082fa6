/-
  RenderDesk.Engine.Task
  ──────────────────────
  The jobs that the engine runs beside each other: what each of them finds
  out, and the events that it emits.

  A render is dispatched first and ends later; every other job only ends.

  Main statement: `finished?_once` — a job ends with one event, of its own
  kind and number.
-/
import RenderDesk.Artifact.Export
import RenderDesk.Engine.Command

namespace RenderDesk.Engine

open RenderDesk.Files
open RenderDesk.Service
open RenderDesk.Session
open RenderDesk.Storage

/-! ## §1. Tasks. -/

/-- A job that runs. -/
inductive Task where
  /-- A render whose request has not been handed to the network yet. -/
  | rendering (id : RenderId) (request : CompileRequest)
  /-- A render whose answer is awaited. -/
  | awaiting (id : RenderId) (request : CompileRequest)
  | extracting (id : ExtractId) (request : CompileRequest)
  | listing
  | exporting (reference : String) (title : Option String)
  deriving Repr, DecidableEq

/-- The job that a command starts; saving is no job of its own. -/
def Task.ofCommand : Command → Option Task
  | .render id request => some (.rendering id request)
  | .extractSource id request => some (.extracting id request)
  | .listTemplates => some .listing
  | .exportArtifact reference title => some (.exporting reference title)
  | .scheduleSave _ | .flush => none

/-- What a job finds out. -/
inductive Finding where
  | reply (result : Result CompileReply)
  | source (result : Result String)
  | templates (result : Result (List String))
  | exported (result : Except String Path)

/-- The event of a job that ends with a finding, when they are of one kind. -/
def Task.finished? : Task → Finding → Option Event
  | .awaiting id _, .reply result => some (.renderCompleted id result)
  | .extracting id _, .source result => some (.sourceExtracted id result)
  | .listing, .templates result => some (.templatesListed result)
  | .exporting _ _, .exported result => some (.artifactExported result)
  | _, _ => none

/-! ## §2. Doing a job. -/

/-- What jobs need: the service, how long a render may take, and where
artifacts go. -/
structure Means (σ : Type) where
  service : CompileService σ
  deadline : Option Duration := none
  output : Writer

/-- Does a job to its end. -/
def Task.find (task : Task) (m : Means σ) (s : σ) (t : Tree) : Timed Finding × σ × Tree :=
  match task with
  | .rendering _ request | .awaiting _ request =>
    let (answer, s) := m.service.submitWithin m.deadline request s
    (answer.map .reply, s, t)
  | .extracting _ request =>
    let (answer, s) := m.service.extractSource request s
    (answer.map .source, s, t)
  | .listing =>
    let (answer, s) := m.service.listTemplates s
    (answer.map .templates, s, t)
  | .exporting reference title =>
    let (answer, s, t) := Artifact.exportArtifact m.service m.output reference title s t
    (answer.map fun result => .exported (result.mapError Artifact.ExportError.text), s, t)

/-! ## §3. Laws. -/

theorem finished?_once {task : Task} {finding : Finding} {event : Event}
    (h : task.finished? finding = some event) :
    (∃ id request result, task = .awaiting id request ∧ event = .renderCompleted id result)
    ∨ (∃ id request result, task = .extracting id request ∧ event = .sourceExtracted id result)
    ∨ (∃ result, task = .listing ∧ event = .templatesListed result)
    ∨ (∃ reference title result, task = .exporting reference title
        ∧ event = .artifactExported result) := by
  unfold Task.finished? at h
  split at h <;> simp_all [eq_comm]

end RenderDesk.Engine
