/-
  RenderDesk.Program.Circuit
  ──────────────────────────
  A session and its engine by themselves, without the desk between them: the
  user wishes something, what the session asks for goes to the engine, and
  what the engine tells goes back to the session.

  The two are joined by two queues, each read in the order in which it was
  filled, and may move in any order.  A move that does not apply changes
  nothing.

  Main statements:
    * `react_eq` — a message reaches the engine by its effects only;
    * `ofEvent_isWish` — the engine wishes nothing;
    * `run_append` — a run is one part after another.
-/
import RenderDesk.Engine.Machine
import RenderDesk.Session.Update
import RenderDesk.Terminal.Incoming

namespace RenderDesk.Session

/-- Whether a message is a wish of the user; the others are answers of the
engine. -/
def Message.isWish : Message → Bool
  | .sessionStarted _ | .documentEdited _ | .templateSelected _ | .renderRequested
  | .sourceExtractRequested | .logResetRequested | .exportRequested => true
  | .documentSaved _ | .templatesLoaded _ | .renderDispatched _ | .renderCompleted _ _ _
  | .sourceExtracted _ _ | .exportFinished _ => false

end RenderDesk.Session

namespace RenderDesk.Program

open RenderDesk.Engine (Command Event)
open RenderDesk.Session
open RenderDesk.Storage
open RenderDesk.Terminal (Incoming)

/-! ## §1. The circuit. -/

structure Circuit (σ : Type) where
  session : State
  engine : Engine
  stored : σ

namespace Circuit

inductive Move where
  /-- The user wishes something. -/
  | wish (m : Message)
  /-- What waits to be saved is to be written without delay. -/
  | flush
  | engine (move : Engine.Move)
  /-- The oldest event is delivered, at a reading of the clock. -/
  | deliver (now : UInt64)
  /-- The display takes note of the changes. -/
  | look

/-! ## §2. Moves. -/

/-- The session takes in a message, and asks the engine for what it needs. -/
def react (c : Circuit σ) (m : Message) : Circuit σ :=
  let (session, effects) := update c.session m
  { c with session, engine := (effects.map Command.ofEffect).foldl Engine.send c.engine }

/-- The session takes in an event; one that is told to the user only changes
nothing here. -/
def receive (c : Circuit σ) (now : UInt64) (event : Event) : Circuit σ :=
  match Incoming.ofEvent now event with
  | some (.message m) => c.react m
  | _ => c

def step (store : Store σ) (c : Circuit σ) : Move → Circuit σ
  | .wish m => if m.isWish then c.react m else c
  | .flush => { c with engine := c.engine.send .flush }
  | .engine move =>
    let (engine, stored) := c.engine.step store c.stored move
    { c with engine, stored }
  | .deliver now =>
    match c.engine.take? with
    | some (event, engine) => receive { c with engine } now event
    | none => c
  | .look => { c with session := c.session.seen }

/-- Moves one after another. -/
def run (store : Store σ) (c : Circuit σ) (moves : List Move) : Circuit σ :=
  moves.foldl (step store) c

/-- A new session that prefers a template, with an idle engine. -/
def begin (template : String) (guard : Guard) (stored : σ) : Circuit σ where
  session := .preferring template
  engine := { guard }
  stored

/-! ## §3. Laws. -/

theorem react_eq (c : Circuit σ) (m : Message) :
    c.react m
      = { c with
          session := (update c.session m).1
          engine := { c.engine with
            queue := c.engine.queue ++ (update c.session m).2.map Command.ofEffect } } := by
  rw [← Engine.foldl_send]
  rfl

theorem ofEvent_isWish {now : UInt64} {event : Event} {m : Message}
    (h : Incoming.ofEvent now event = some (.message m)) : m.isWish = false := by
  cases event with
  | templatesListed result =>
    cases result <;> simp only [Incoming.ofEvent, Option.some.injEq, reduceCtorEq] at h
    injection h with h
    rw [← h]
    rfl
  | documentSaveFailed revision message => simp [Incoming.ofEvent] at h
  | _ =>
    simp only [Incoming.ofEvent, Option.some.injEq, Incoming.message.injEq] at h
    rw [← h]
    rfl

theorem run_append (store : Store σ) (c : Circuit σ) (moves later : List Move) :
    c.run store (moves ++ later) = (c.run store moves).run store later :=
  List.foldl_append

end Circuit

end RenderDesk.Program
