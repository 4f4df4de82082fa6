/-
  RenderDesk.Engine.Executor
  ──────────────────────────
  The engine carried through: each command is done to its end before the
  next one.

  A clock keeps the time that the service's answers take, so that a save
  that falls due meanwhile is written first.
-/
import RenderDesk.Engine.Task
import RenderDesk.Storage.FileStore
import RenderDesk.Storage.Guard

namespace RenderDesk.Engine

open RenderDesk.Files
open RenderDesk.Service
open RenderDesk.Storage

/-! ## §1. The world of an executor. -/

/-- Everything that changes while commands are carried out. -/
structure World (σ : Type) where
  /-- What lies beyond the service. -/
  beyond : σ
  files : Tree
  guard : Guard
  clock : Duration := .zero

/-- The means of an executor, with the store of the document. -/
structure Executor (σ : Type) extends Means σ where
  store : Store Tree

namespace World

/-- Takes in what the guard did. -/
def guarded (w : World σ) (outcome : Guard × List SaveEvent × Tree) : List Event × World σ :=
  (outcome.2.1.map Event.ofSave, { w with guard := outcome.1, files := outcome.2.2 })

/-- Lets time pass. -/
def sleep (w : World σ) (store : Store Tree) (d : Duration) : List Event × World σ :=
  let w := { w with clock := w.clock + d }
  w.guarded (w.guard.advance store w.clock w.files)

end World

/-! ## §2. Carrying commands out. -/

namespace Executor

/-- Does a job to its end; a job whose answer never comes emits nothing more. -/
def runTask (x : Executor σ) (task : Task) (w : World σ) : List Event × World σ :=
  let (answer, beyond, files) := task.find x.toMeans w.beyond w.files
  let w := { w with beyond, files }
  match answer with
  | .never => ([], w)
  | .after elapsed finding =>
    let (saves, w) := w.sleep x.store elapsed
    (saves ++ (task.finished? finding).toList, w)

/-- Carries a command through. -/
def perform (x : Executor σ) (command : Command) (w : World σ) : List Event × World σ :=
  match command with
  | .render id request =>
    let (events, w) := x.runTask (.awaiting id request) w
    (.renderDispatched id :: events, w)
  | .extractSource id request => x.runTask (.extracting id request) w
  | .listTemplates => x.runTask .listing w
  | .exportArtifact reference title => x.runTask (.exporting reference title) w
  | .scheduleSave snapshot => w.guarded (w.guard.schedule x.store w.clock snapshot w.files)
  | .flush => w.guarded (w.guard.flush x.store w.files)

end Executor

end RenderDesk.Engine
