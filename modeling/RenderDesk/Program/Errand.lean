/-
  RenderDesk.Program.Errand
  ─────────────────────────
  Rendering one document, with the engine beside it: the engine moves in any
  order that its parts may take, and its events are taken in one by one.

  What the engine was asked for and what it has told is kept beside the
  state.  No move reads it.

  Main statements:
    * `run_append` — a run is one part after another;
    * `take_ended` — after the end nothing is asked for any more.
-/
import RenderDesk.Engine.Machine
import RenderDesk.Program.OneShot

namespace RenderDesk.Program

open RenderDesk.Engine (Command Event)
open RenderDesk.Session
open RenderDesk.Storage
open RenderDesk.Terminal (Incoming)

/-! ## §1. The errand. -/

structure Errand (σ : Type) where
  shot : OneShot
  engine : Engine
  stored : σ
  /-- Everything that the engine was asked for. -/
  asked : List Effect := []
  /-- The events so far, each with the reading of the clock when it came. -/
  told : List (UInt64 × Event) := []
  output : String := ""

namespace Errand

inductive Move where
  | engine (move : Engine.Move)
  /-- The oldest event is taken in, at a reading of the clock. -/
  | deliver (now : UInt64)

/-! ## §2. Moves. -/

/-- Takes in what an event has become, and asks the engine for what is needed. -/
def take (e : Errand σ) (i : Incoming) : Errand σ :=
  let (shot, r) := e.shot.take i
  { e with
    shot
    engine := (r.effects.map Command.ofEffect).foldl Engine.send e.engine
    asked := e.asked ++ r.effects
    output := e.output ++ r.output }

/-- Takes in an event. -/
def receive (e : Errand σ) (now : UInt64) (event : Event) : Errand σ :=
  let e := { e with told := e.told ++ [(now, event)] }
  match Incoming.ofEvent now event with
  | some i => e.take i
  | none => e

def step (store : Store σ) (e : Errand σ) : Move → Errand σ
  | .engine move =>
    let (engine, stored) := e.engine.step store e.stored move
    { e with engine, stored }
  | .deliver now =>
    match e.engine.take? with
    | some (event, engine) => receive { e with engine } now event
    | none => e

/-- Moves one after another. -/
def run (store : Store σ) (e : Errand σ) (moves : List Move) : Errand σ :=
  moves.foldl (step store) e

/-- The beginning, with an engine that has nothing to save. -/
def begin (preferred : String) (template : Option String) (document : String) (delay : Duration)
    (stored : σ) : Errand σ :=
  let (shot, effects) := OneShot.start preferred template document
  { shot
    engine := (effects.map Command.ofEffect).foldl Engine.send { guard := { delay } }
    stored
    asked := effects }

/-! ## §3. What was heard. -/

/-- What the session hears of an event; a list of templates is followed by the
request for the render. -/
def heardOf : UInt64 × Event → List Message
  | (now, event) =>
    match Incoming.ofEvent now event with
    | some (.message (.templatesLoaded templates)) => [.templatesLoaded templates, .renderRequested]
    | some (.message m) => [m]
    | _ => []

/-- What the session hears before any event. -/
def opening (template : Option String) (document : String) : List Message :=
  .sessionStarted document ::
    match template with
    | some name => [.templatesLoaded [name], .renderRequested]
    | none => []

/-- The messages that the session has heard so far. -/
def heard (template : Option String) (document : String) (e : Errand σ) : List Message :=
  opening template document ++ e.told.flatMap heardOf

/-! ## §4. Laws. -/

theorem take_eq (e : Errand σ) (i : Incoming) :
    e.take i = { e with
      shot := (e.shot.take i).1
      engine := { e.engine with
        queue := e.engine.queue ++ (e.shot.take i).2.effects.map Command.ofEffect }
      asked := e.asked ++ (e.shot.take i).2.effects
      output := e.output ++ (e.shot.take i).2.output } := by
  rw [← Engine.foldl_send]
  rfl

theorem begin_eq (preferred : String) (template : Option String) (document : String)
    (delay : Duration) (stored : σ) :
    begin preferred template document delay stored
      = { shot := (OneShot.start preferred template document).1
          engine := { guard := { delay }
                      queue := (OneShot.start preferred template document).2.map Command.ofEffect }
          stored
          asked := (OneShot.start preferred template document).2 } := by
  simp only [begin, Engine.foldl_send, List.nil_append]

theorem run_append (store : Store σ) (e : Errand σ) (moves later : List Move) :
    e.run store (moves ++ later) = (e.run store moves).run store later :=
  List.foldl_append

/-- **After the end** nothing is asked for or printed any more. -/
theorem take_ended {e : Errand σ} {r : Except String (String × Bool)}
    (h : e.shot.result? = some r) (i : Incoming) : e.take i = e := by
  rw [take_eq, OneShot.take_finished h]
  simp

end Errand

end RenderDesk.Program
