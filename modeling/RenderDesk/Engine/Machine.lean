/-
  RenderDesk.Engine.Machine
  ─────────────────────────
  The engine move by move, in any order that its parts may take.

  Commands wait in a queue and are picked up one by one; jobs run beside
  each other and end in any order, with any finding; the timer of the guard
  may wake at any moment, even after a later edit has replaced it; events
  wait in a queue until they are delivered.

  A move that does not apply changes nothing.

  Main statements:
    * `step_events` — moves only add events behind those that wait;
    * `pickUpAll_queue` — afterwards no command waits;
    * `pickUpAll_flush` — with a flush behind them, no save waits either;
    * `take?_event` — events leave in the order in which they came.
-/
import RenderDesk.Engine.Task
import RenderDesk.Storage.Guard

namespace RenderDesk

open RenderDesk.Session
open RenderDesk.Storage

/-! ## §1. The engine. -/

structure Engine where
  /-- Commands that have not been picked up, the oldest first. -/
  queue : List Engine.Command := []
  tasks : List Engine.Task := []
  /-- Events that have not been delivered, the oldest first. -/
  events : List Engine.Event := []
  guard : Guard

namespace Engine

inductive Move where
  /-- The oldest command is picked up, at a moment. -/
  | pickUp (now : Duration)
  /-- The render at a place among the jobs hands its request to the network. -/
  | dispatch (place : Nat)
  /-- The job at a place ends. -/
  | finish (place : Nat) (finding : Finding)
  /-- A timer that was started for a revision wakes. -/
  | wake (revision : Revision)

def emit (e : Engine) (event : Event) : Engine := { e with events := e.events ++ [event] }

/-- Takes in what the guard did. -/
def guarded (e : Engine) (outcome : Guard × List SaveEvent × σ) : Engine × σ :=
  ({ e with guard := outcome.1, events := e.events ++ outcome.2.1.map Event.ofSave },
    outcome.2.2)

/-- Adds a command behind those that wait. -/
def send (e : Engine) (command : Command) : Engine := { e with queue := e.queue ++ [command] }

/-- Starts on a command. -/
def begin (e : Engine) (store : Store σ) (now : Duration) (s : σ) : Command → Engine × σ
  | .scheduleSave snapshot => e.guarded (e.guard.schedule store now snapshot s)
  | .flush => e.guarded (e.guard.flush store s)
  | command =>
    match Task.ofCommand command with
    | some task => ({ e with tasks := e.tasks ++ [task] }, s)
    | none => (e, s)

/-- One move of the engine. -/
def step (e : Engine) (store : Store σ) (s : σ) : Move → Engine × σ
  | .pickUp now =>
    match e.queue with
    | command :: queue => { e with queue }.begin store now s command
    | [] => (e, s)
  | .dispatch place =>
    match e.tasks[place]? with
    | some (.rendering id request) =>
      ({ e with tasks := e.tasks.set place (.awaiting id request) }.emit (.renderDispatched id), s)
    | _ => (e, s)
  | .finish place finding =>
    match e.tasks[place]?.bind (·.finished? finding) with
    | some event => ({ e with tasks := e.tasks.eraseIdx place }.emit event, s)
    | none => (e, s)
  | .wake revision => e.guarded (e.guard.wake store revision s)

/-- Moves one after another. -/
def run (e : Engine) (store : Store σ) (s : σ) : List Move → Engine × σ
  | [] => (e, s)
  | m :: ms =>
    let (e, s) := e.step store s m
    e.run store s ms

/-- Picks up all commands that wait, at a moment. -/
def pickUpAll (e : Engine) (store : Store σ) (now : Duration) (s : σ) : Engine × σ :=
  e.run store s (List.replicate e.queue.length (.pickUp now))

/-- The oldest event, and the engine without it. -/
def take? (e : Engine) : Option (Event × Engine) :=
  match e.events with
  | event :: events => some (event, { e with events })
  | [] => none

/-! ## §2. Laws. -/

theorem foldl_send (commands : List Command) (e : Engine) :
    commands.foldl send e = { e with queue := e.queue ++ commands } := by
  induction commands generalizing e with
  | nil => simp
  | cons c commands ih => simp [ih, send]

theorem begin_events (e : Engine) (store : Store σ) (now : Duration) (s : σ)
    (command : Command) : e.events <+: (e.begin store now s command).1.events := by
  cases command <;> simp [begin, guarded, Task.ofCommand]

theorem step_events (e : Engine) (store : Store σ) (s : σ) (m : Move) :
    e.events <+: (e.step store s m).1.events := by
  cases m with
  | pickUp now =>
    simp only [step]
    split
    · next command queue _ => exact begin_events { e with queue } store now s command
    · exact List.prefix_rfl
  | dispatch place =>
    simp only [step]
    split <;> simp [emit]
  | finish place finding =>
    simp only [step]
    split <;> simp [emit]
  | wake revision => simp [step, guarded]

theorem begin_queue (e : Engine) (store : Store σ) (now : Duration) (s : σ)
    (command : Command) : (e.begin store now s command).1.queue = e.queue := by
  cases command <;> rfl

theorem step_pickUp_queue (e : Engine) (store : Store σ) (now : Duration) (s : σ) :
    (e.step store s (.pickUp now)).1.queue = e.queue.tail := by
  simp only [step]
  split
  · next command queue h => simp [begin_queue, h]
  · next h => simp [h]

theorem run_pickUp_queue (n : Nat) (e : Engine) (store : Store σ) (now : Duration) (s : σ) :
    (e.run store s (List.replicate n (.pickUp now))).1.queue = e.queue.drop n := by
  induction n generalizing e s with
  | zero => rfl
  | succ n ih =>
    simp only [List.replicate_succ, run, ih, step_pickUp_queue, List.drop_tail]

theorem pickUpAll_queue (e : Engine) (store : Store σ) (now : Duration) (s : σ) :
    (e.pickUpAll store now s).1.queue = [] := by
  simp [pickUpAll, run_pickUp_queue]

theorem run_append (e : Engine) (store : Store σ) (s : σ) (ms ns : List Move) :
    e.run store s (ms ++ ns) = (e.run store s ms).1.run store (e.run store s ms).2 ns := by
  induction ms generalizing e s with
  | nil => rfl
  | cons m ms ih => exact ih _ _

theorem pickUpAll_flush (e : Engine) (store : Store σ) (now : Duration) (s : σ) :
    ((e.send .flush).pickUpAll store now s).1.guard.hasPending = false := by
  simp only [pickUpAll, send, List.length_append, List.length_singleton, List.replicate_succ',
    run_append]
  generalize hr : run _ store s _ = r
  have hq : r.1.queue = [.flush] := by
    rw [← hr, run_pickUp_queue]
    simp
  simp only [run, step, hq, begin, guarded]
  exact Guard.flush_pending _ store _

theorem take?_event {e : Engine} {event : Event} {events : List Event}
    (h : e.events = event :: events) : e.take? = some (event, { e with events }) := by
  simp [take?, h]

end Engine

end RenderDesk
