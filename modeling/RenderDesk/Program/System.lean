/-
  RenderDesk.Program.System
  ─────────────────────────
  The parts of an interactive session beside each other, in any order that
  they may take: typed lines are read, the engine moves, its events are
  passed on, and the desk takes in one thing after another.

  Between the parts there are queues, and each is read in the order in which
  it was filled.  A move that does not apply changes nothing.

  Main statements:
    * `step_left` — once the desk was left it stays as it is;
    * `leave_queue` — on leaving, every command is carried to the engine;
    * `leave_pending` — and no save waits any more.
-/
import RenderDesk.Engine.Machine
import RenderDesk.Terminal.Desk

namespace RenderDesk.Program

open RenderDesk.Engine (Command)
open RenderDesk.Storage
open RenderDesk.Terminal (Desk Reaction Reader Incoming)

/-! ## §1. The system. -/

/-- What a session needs: the store of its document, and a reading of the
files that are named at the desk.  The state `σ` is whatever keeps both. -/
structure Surroundings (σ : Type) where
  store : Store σ
  read : σ → Reader

structure System (σ : Type) where
  desk : Desk
  engine : Engine
  /-- Lines that have not been read, the oldest first. -/
  typed : List String := []
  /-- Whether the end of the input has been passed on. -/
  ended : Bool := false
  /-- What the desk has not taken in yet, the oldest first. -/
  arrivals : List Incoming := []
  stored : σ
  /-- Everything printed so far. -/
  output : String := ""

inductive Move where
  /-- The oldest line is read, or the end of the input is passed on. -/
  | read
  | engine (move : Engine.Move)
  /-- The oldest event is passed on, at a reading of the clock. -/
  | relay (now : UInt64)
  /-- The desk takes in what arrived first. -/
  | take

namespace System

/-! ## §2. Moves. -/

/-- Hands effects on to the engine, and prints. -/
def react (s : System σ) (answer : Desk × Reaction) : System σ :=
  { s with
    desk := answer.1
    engine := (answer.2.effects.map Command.ofEffect).foldl Engine.send s.engine
    output := s.output ++ answer.2.output }

/-- Puts something in front of the desk, behind what is there. -/
def bring (s : System σ) (i : Incoming) : System σ := { s with arrivals := s.arrivals ++ [i] }

def step (x : Surroundings σ) (s : System σ) : Move → System σ
  | .read =>
    match s.typed with
    | line :: typed => { s with typed }.bring (.command (.parse line))
    | [] => if s.ended then s else { s with ended := true }.bring .inputClosed
  | .engine move =>
    let (engine, stored) := s.engine.step x.store s.stored move
    { s with engine, stored }
  | .relay now =>
    match s.engine.take? with
    | some (event, engine) =>
      { s with engine, arrivals := s.arrivals ++ (Incoming.ofEvent now event).toList }
    | none => s
  | .take =>
    match s.arrivals with
    | i :: arrivals => { s with arrivals }.react (s.desk.take (x.read s.stored) i)
    | [] => s

/-- Moves one after another. -/
def run (x : Surroundings σ) (s : System σ) (moves : List Move) : System σ :=
  moves.foldl (step x) s

/-! ## §3. The start and the end. -/

/-- A session that begins with a text. -/
def begin (template document : String) (guard : Guard) (stored : σ) (typed : List String) :
    System σ :=
  let desk := Desk.preferring template
  { desk, engine := { guard }, stored, typed : System σ }.react
    (desk.dispatch (.sessionStarted document))

/-- What is done after the desk was left: the engine gets to every command,
and what waits to be saved is written. -/
def leave (x : Surroundings σ) (now : Duration) (s : System σ) : System σ :=
  let (engine, stored) := (s.engine.send .flush).pickUpAll x.store now s.stored
  { s with engine, stored }

/-! ## §4. Laws. -/

theorem step_left {x : Surroundings σ} {s : System σ} (h : s.desk.presence = .left) (m : Move) :
    (s.step x m).desk = s.desk := by
  cases m with
  | read =>
    simp only [step]
    split
    · rfl
    · split <;> rfl
  | engine move => rfl
  | relay now =>
    simp only [step]
    split <;> rfl
  | take =>
    simp only [step]
    split
    · simp [react, Desk.take_left h]
    · rfl

theorem run_left {x : Surroundings σ} {s : System σ} (h : s.desk.presence = .left)
    (moves : List Move) : (s.run x moves).desk = s.desk := by
  induction moves generalizing s with
  | nil => rfl
  | cons m moves ih =>
    have hs := step_left (x := x) h m
    exact (ih (s := s.step x m) (hs ▸ h)).trans hs

theorem leave_queue (x : Surroundings σ) (now : Duration) (s : System σ) :
    (s.leave x now).engine.queue = [] :=
  Engine.pickUpAll_queue _ x.store now s.stored

theorem leave_pending (x : Surroundings σ) (now : Duration) (s : System σ) :
    (s.leave x now).engine.guard.hasPending = false :=
  Engine.pickUpAll_flush s.engine x.store now s.stored

end System

end RenderDesk.Program
