/-
  RenderDesk.Engine.StartError
  ────────────────────────────
  Why an engine cannot be started, and the text shown for it.
-/
import RenderDesk.Files.IoError
import RenderDesk.Service.Failure

namespace RenderDesk.Engine

inductive StartError where
  /-- The system cannot run jobs beside each other. -/
  | runtime (error : Files.IoError)
  /-- The compile service cannot be used as it is set up. -/
  | service (failure : Service.Failure)
  deriving Repr, DecidableEq

def StartError.text : StartError → String
  | .runtime error => "could not start runtime: " ++ error.text
  | .service failure => "compile service unusable: " ++ failure.text

end RenderDesk.Engine
