/-
  RenderDesk.Program.Schedule
  ───────────────────────────
  A session carried through: whatever a thing leads to has happened before
  the next thing comes.

  It is one of the orders in which the parts of a session may move.  Jobs may
  be held back; a clock keeps the time that the others take, so that a save
  that falls due is written.

  Main statements:
    * `moved_left` — once the desk was left it stays as it is;
    * `takeAll_arrivals` — afterwards nothing lies in front of the desk.
-/
import RenderDesk.Engine.Executor
import RenderDesk.Program.System

namespace RenderDesk.Program

open RenderDesk.Engine (Executor Task)
open RenderDesk.Files
open RenderDesk.Storage
open RenderDesk.Terminal (Incoming)

/-! ## §1. A running session. -/

/-- Files are kept in one tree. -/
def surroundings (x : Executor β) : Surroundings Tree where
  store := x.store
  read t path := t.readText path

/-- A session with what lies beyond its service, and the time. -/
structure Running (β : Type) where
  system : System Tree
  beyond : β
  clock : Duration := .zero

namespace Running

/-- Moves one after another. -/
def moved (x : Executor β) (r : Running β) (moves : List Move) : Running β :=
  { r with system := r.system.run (surroundings x) moves }

/-! ## §2. Parts of the schedule. -/

/-- The desk takes in everything in front of it. -/
def takeAll (x : Executor β) (r : Running β) : Running β :=
  r.moved x (List.replicate r.system.arrivals.length .take)

/-- Every event is passed on and taken in. -/
def relayAll (x : Executor β) (now : UInt64) (r : Running β) : Running β :=
  (r.moved x (List.replicate r.system.engine.events.length (.relay now))).takeAll x

/-- The engine gets to every command. -/
def pickUpAll (x : Executor β) (r : Running β) : Running β :=
  r.moved x (List.replicate r.system.engine.queue.length (.engine (.pickUp r.clock)))

/-- Every render is handed to the network. -/
def dispatchAll (x : Executor β) (r : Running β) : Running β :=
  r.moved x ((List.range r.system.engine.tasks.length).map fun place =>
    .engine (.dispatch place))

/-- Lets time pass. -/
def elapse (x : Executor β) (r : Running β) (d : Duration) : Running β :=
  let r := { r with clock := r.clock + d }
  match r.system.engine.guard.timer with
  | some timer => if timer.due ≤ r.clock then r.moved x [.engine (.wake timer.revision)] else r
  | none => r

/-- Does those of some jobs to their end that are ready; the first of them is
at a place among the engine's jobs. -/
def finishReady (x : Executor β) (ready : Task → Bool) (place : Nat) (r : Running β) :
    List Task → Running β
  | [] => r
  | task :: rest =>
    if ready task then
      let (answer, beyond, stored) := task.find x.toMeans r.beyond r.system.stored
      let r := { r with beyond, system := { r.system with stored } }
      match answer with
      | .after elapsed finding =>
        ((r.elapse x elapsed).moved x [.engine (.finish place finding)]).finishReady x ready place
          rest
      | .never => r.finishReady x ready (place + 1) rest
    else r.finishReady x ready (place + 1) rest

/-! ## §3. The schedule. -/

/-- Everything that things in front of the desk lead to, but for the jobs that
are not ready. -/
def settle (x : Executor β) (now : UInt64) (ready : Task → Bool) (r : Running β) : Running β :=
  let r := (((r.takeAll x).pickUpAll x).dispatchAll x).relayAll x now
  (r.finishReady x ready 0 r.system.engine.tasks).relayAll x now

/-- Puts something in front of the desk. -/
def bring (r : Running β) (i : Incoming) : Running β := { r with system := r.system.bring i }

/-- A line is typed. -/
def typeLine (r : Running β) (line : String) : Running β := r.bring (.command (.parse line))

/-- Time passes; what falls due is done and shown. -/
def wait (x : Executor β) (now : UInt64) (d : Duration) (r : Running β) : Running β :=
  (r.elapse x d).relayAll x now

def isLeft (r : Running β) : Bool := r.system.desk.presence = .left

/-- What is done after the desk was left. -/
def leave (x : Executor β) (r : Running β) : Running β :=
  { r with system := r.system.leave (surroundings x) r.clock }

/-! ## §4. Laws. -/

theorem moved_left {x : Executor β} {r : Running β} (h : r.isLeft = true) (moves : List Move) :
    (r.moved x moves).system.desk = r.system.desk :=
  System.run_left (by simpa [isLeft] using h) moves

theorem step_take_arrivals {σ : Type} (x : Surroundings σ) (s : System σ) :
    (s.step x .take).arrivals = s.arrivals.tail := by
  simp only [System.step]
  split
  · next h => simp [System.react, h]
  · next h => simp [h]

theorem run_take_arrivals {σ : Type} (x : Surroundings σ) (n : Nat) (s : System σ) :
    (s.run x (List.replicate n .take)).arrivals = s.arrivals.drop n := by
  induction n generalizing s with
  | zero => rfl
  | succ n ih =>
    have hr : s.run x (List.replicate (n + 1) .take)
        = (s.step x .take).run x (List.replicate n .take) := rfl
    rw [hr, ih, step_take_arrivals, List.drop_tail]

theorem takeAll_arrivals (x : Executor β) (r : Running β) :
    (r.takeAll x).system.arrivals = [] := by
  simp [takeAll, moved, run_take_arrivals]

end Running

end RenderDesk.Program
