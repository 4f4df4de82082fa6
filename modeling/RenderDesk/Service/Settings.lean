/-
  RenderDesk.Service.Settings
  ───────────────────────────
  Where the compile service is and how long the desk waits for it.
-/
import RenderDesk.Duration

namespace RenderDesk.Service

/-- What stands for the job in the path of a source. -/
def jobPlace : String := "\x7bjob_id\x7d"

structure Settings where
  baseUrl : String := "http://127.0.0.1:8000"
  renderPath : String := "/api/render"
  templatesPath : String := "/api/templates"
  /-- The path of a job's source, with `jobPlace` for the job. -/
  sourcePath : String := "/build/" ++ jobPlace ++ "/document.tex"
  connectTimeout : Duration := .ofSeconds 10
  requestTimeout : Duration := .ofSeconds 300
  /-- How long a render may take; without a deadline the desk waits for ever. -/
  renderDeadline : Option Duration := none
  /-- How long a save waits for a later edit; zero saves every edit. -/
  saveDelay : Duration := .ofMilliseconds 1000
  /-- The most bytes of an artifact. -/
  artifactLimit : Nat := 50 * 1024 * 1024
  deriving Repr, DecidableEq, Inhabited

end RenderDesk.Service
