/-
  RenderDesk.Terminal.Incoming
  ────────────────────────────
  Everything that the desk reacts to, and which of it an event of the engine
  becomes.

  Main statement: `ofEvent_none_iff` — only a failed save is kept from the
  desk.
-/
import RenderDesk.Engine.Command
import RenderDesk.Terminal.Command

namespace RenderDesk.Terminal

open RenderDesk.Engine (Event)
open RenderDesk.Service
open RenderDesk.Session (Message)

/-- What the desk reacts to. -/
inductive Incoming where
  | message (message : Message)
  /-- Something to tell the user that changes nothing. -/
  | notice (text : String)
  | command (command : Command)
  /-- Nothing more will be typed. -/
  | inputClosed

/-- What an event becomes at a reading of the clock in milliseconds. -/
def Incoming.ofEvent (now : UInt64) : Event → Option Incoming
  | .renderDispatched id => some (.message (.renderDispatched id))
  | .renderCompleted id result =>
    some (.message (.renderCompleted id (Outcome.ofResult result) now))
  | .sourceExtracted id result =>
    some (.message (.sourceExtracted id (result.mapError Failure.text)))
  | .templatesListed (.ok templates) => some (.message (.templatesLoaded templates))
  | .templatesListed (.error f) => some (.notice ("Could not load templates: " ++ f.text))
  | .documentSaved revision => some (.message (.documentSaved revision))
  | .documentSaveFailed _ _ => none
  | .artifactExported result => some (.message (.exportFinished result))

theorem ofEvent_none_iff {now : UInt64} {event : Event} :
    Incoming.ofEvent now event = none ↔ ∃ revision m, event = .documentSaveFailed revision m := by
  cases event with
  | templatesListed result => cases result <;> simp [Incoming.ofEvent]
  | _ => simp [Incoming.ofEvent]

end RenderDesk.Terminal
