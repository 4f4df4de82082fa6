/-
  RenderDesk.Settings.Preferences
  ───────────────────────────────
  What can be set for the program, with what holds when nothing is set.

  Main statement: `noDeadline_iff` — no deadline and a deadline of zero mean
  the same.
-/
import RenderDesk.Files.Path
import RenderDesk.Service.Settings
import RenderDesk.Session.State

namespace RenderDesk.Settings

/-! ## §1. Preferences. -/

/-- Where the program's own log goes. -/
inductive LogDestination where
  | file
  | terminal
  | both
  | off
  deriving Repr, DecidableEq, Inhabited

structure Preferences where
  baseUrl : String := ({} : Service.Settings).baseUrl
  preferredTemplate : String := Session.defaultTemplate
  /-- Zero saves every edit. -/
  saveDelayMs : Nat := 1000
  requestTimeoutSecs : Nat := 300
  renderDeadlineSecs : Option Nat := none
  stateDir : Files.Path := ".docrender"
  outputDir : Files.Path := "output"
  logDestination : LogDestination := .file
  deriving Repr, DecidableEq, Inhabited

/-! ## §2. The settings of the service. -/

/-- A deadline of zero seconds is none. -/
def deadlineOf (seconds : Option Nat) : Option Duration :=
  (seconds.filter (0 < ·)).map .ofSeconds

def Preferences.service (p : Preferences) : Service.Settings where
  baseUrl := p.baseUrl
  requestTimeout := .ofSeconds p.requestTimeoutSecs
  renderDeadline := deadlineOf p.renderDeadlineSecs
  saveDelay := .ofMilliseconds p.saveDelayMs

/-! ## §3. Laws. -/

theorem noDeadline_iff {seconds : Option Nat} :
    deadlineOf seconds = none ↔ seconds = none ∨ seconds = some 0 := by
  cases seconds with
  | none => simp [deadlineOf]
  | some n => cases n <;> simp [deadlineOf, Option.filter]

end RenderDesk.Settings
