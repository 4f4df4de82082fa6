/-
  RenderDesk.Proofs.Solitary
  ──────────────────────────
  An engine that has one thing to do.

  With nothing to save, an engine that was asked for a list, or for a render,
  has nothing else to do, and whichever of its parts moves, only that one job
  comes further.  So of the events of such an engine it is known which come,
  in which order, and that the last one comes once.

  Main statements:
    * `Holds.queued`, `Holds.running`, `Holds.over` — what a move can do to one
      command, one job, or none;
    * `Lists.step` — a list that was asked for stays under way until it is told;
    * `Renders.step` — and so does a render, which is told to be on its way first.
-/
import RenderDesk.Proofs.Transitions

namespace RenderDesk.Storage

/-- Where nothing waits to be saved, nothing is. -/
theorem Committer.Commits.quiet {store : Store σ} {c c' : Committer} {s s' : σ}
    {saves : List SaveEvent} (h : c.Commits store s c' saves s') (hq : c.latest = none) :
    c' = c ∧ saves = [] := by
  cases h with
  | idle => exact ⟨rfl, rfl⟩
  | superseded hlatest _ _ =>
    rw [hq] at hlatest
    cases hlatest
  | saved hlatest _ _ =>
    rw [hq] at hlatest
    cases hlatest
  | failed hlatest _ _ =>
    rw [hq] at hlatest
    cases hlatest

end RenderDesk.Storage

namespace RenderDesk.Engine

open RenderDesk.Service
open RenderDesk.Session
open RenderDesk.Storage

/-! ## §1. What an engine holds. -/

/-- All that an engine holds, with nothing to save. -/
structure Holds (e : Engine) (queue : List Command) (tasks : List Task) (events : List Event) :
    Prop where
  queue : e.queue = queue
  tasks : e.tasks = tasks
  events : e.events = events
  quiet : e.guard.committer.latest = none

section Holds

variable {store : Store σ} {e e' : Engine} {s s' : σ} {emitted events : List Event}

/-- A command waits until it is picked up. -/
theorem Holds.queued {command : Command} {task : Task} (h : e.Holds [command] [] events)
    (htask : Task.ofCommand command = some task) (hm : Moves store e s e' s' emitted) :
    e'.Holds [command] [] events ∨ e'.Holds [] [task] events := by
  cases hm with
  | idle => exact .inl h
  | started hq ht =>
    rw [h.queue] at hq
    obtain ⟨rfl, rfl⟩ := List.cons.inj hq
    rw [htask] at ht
    cases ht
    exact .inr ⟨rfl, by rw [h.tasks]; rfl, h.events, h.quiet⟩
  | dispatched ht =>
    rw [h.tasks] at ht
    cases ht
  | finished ht _ =>
    rw [h.tasks] at ht
    cases ht
  | scheduled hq _ =>
    rw [h.queue] at hq
    obtain ⟨rfl, -⟩ := List.cons.inj hq
    cases htask
  | flushed hq _ _ =>
    rw [h.queue] at hq
    obtain ⟨rfl, -⟩ := List.cons.inj hq
    cases htask
  | woken hcommits =>
    obtain ⟨hsame, rfl⟩ := hcommits.quiet h.quiet
    exact .inl ⟨h.queue, h.tasks, (List.append_nil _).trans h.events, by rw [hsame]; exact h.quiet⟩

/-- A job is dispatched if it is a render, or ends, or runs on. -/
theorem Holds.running {task : Task} (h : e.Holds [] [task] events)
    (hm : Moves store e s e' s' emitted) :
    e'.Holds [] [task] events
      ∨ (∃ id request, task = .rendering id request
          ∧ e'.Holds [] [.awaiting id request] (events ++ [.renderDispatched id]))
      ∨ ∃ finding event, task.finished? finding = some event ∧ e'.Holds [] [] (events ++ [event]) := by
  -- there is no other place than the first
  have hplace : ∀ {place : Nat} {other : Task}, e.tasks[place]? = some other →
      place = 0 ∧ other = task := by
    intro place other ht
    rw [h.tasks] at ht
    cases place with
    | zero => exact ⟨rfl, (Option.some.inj ht).symm⟩
    | succ place => cases ht
  cases hm with
  | idle => exact .inl h
  | started hq _ =>
    rw [h.queue] at hq
    cases hq
  | dispatched ht =>
    obtain ⟨rfl, rfl⟩ := hplace ht
    exact .inr (.inl ⟨_, _, rfl, h.queue, by rw [h.tasks]; rfl, by rw [h.events], h.quiet⟩)
  | finished ht hf =>
    obtain ⟨rfl, rfl⟩ := hplace ht
    exact .inr (.inr ⟨_, _, hf, h.queue, by rw [h.tasks]; rfl, by rw [h.events], h.quiet⟩)
  | scheduled hq _ =>
    rw [h.queue] at hq
    cases hq
  | flushed hq _ _ =>
    rw [h.queue] at hq
    cases hq
  | woken hcommits =>
    obtain ⟨hsame, rfl⟩ := hcommits.quiet h.quiet
    exact .inl ⟨h.queue, h.tasks, (List.append_nil _).trans h.events, by rw [hsame]; exact h.quiet⟩

/-- Without a command or a job nothing comes about. -/
theorem Holds.over (h : e.Holds [] [] events) (hm : Moves store e s e' s' emitted) :
    e'.Holds [] [] events := by
  cases hm with
  | idle => exact h
  | started hq _ =>
    rw [h.queue] at hq
    cases hq
  | dispatched ht =>
    rw [h.tasks] at ht
    cases ht
  | finished ht _ =>
    rw [h.tasks] at ht
    cases ht
  | scheduled hq _ =>
    rw [h.queue] at hq
    cases hq
  | flushed hq _ _ =>
    rw [h.queue] at hq
    cases hq
  | woken hcommits =>
    obtain ⟨hsame, rfl⟩ := hcommits.quiet h.quiet
    exact ⟨h.queue, h.tasks, (List.append_nil _).trans h.events, by rw [hsame]; exact h.quiet⟩

/-- The oldest event is taken out. -/
theorem Holds.take {queue : List Command} {tasks : List Task} {event : Event}
    (h : e.Holds queue tasks (event :: events)) :
    ∃ e', e.take? = some (event, e') ∧ e'.Holds queue tasks events :=
  ⟨_, take?_event h.events, h.queue, h.tasks, rfl, h.quiet⟩

theorem Holds.take_none {queue : List Command} {tasks : List Task} (h : e.Holds queue tasks []) :
    e.take? = none := by
  simp only [take?, h.events]

/-- What is sent is all that an idle engine has to do. -/
theorem Holds.send (h : e.Holds [] [] []) (commands : List Command) :
    ({ e with queue := e.queue ++ commands } : Engine).Holds commands [] [] :=
  ⟨by rw [h.queue]; rfl, h.tasks, h.events, h.quiet⟩

/-- An engine that has anything is not done. -/
theorem Holds.busy {queue : List Command} {tasks : List Task} (h : e.Holds queue tasks events)
    (hsome : ¬(queue = [] ∧ tasks = [] ∧ events = [])) :
    ¬(e.queue = [] ∧ e.tasks = [] ∧ e.events = []) := by
  rw [h.queue, h.tasks, h.events]
  exact hsome

end Holds

/-! ## §2. A list of templates. -/

/-- An engine that has nothing to do but a list of templates. -/
inductive Lists (e : Engine) : Prop where
  | queued : e.Holds [.listTemplates] [] [] → Lists e
  | running : e.Holds [] [.listing] [] → Lists e
  | ended {result : Result (List String)} : e.Holds [] [] [.templatesListed result] → Lists e

/-- A list that was asked for stays under way. -/
theorem Lists.step {e : Engine} (h : e.Lists) (store : Store σ) (s : σ) (m : Move) :
    (e.step store s m).1.Lists := by
  have hm := e.step_moves store s m
  cases h with
  | queued h =>
    rcases h.queued rfl hm with h | h
    · exact .queued h
    · exact .running h
  | running h =>
    rcases h.running hm with h | ⟨_, _, htask, _⟩ | ⟨finding, event, hf, h⟩
    · exact .running h
    · cases htask
    · cases finding <;> cases hf
      exact .ended h
  | ended h => exact .ended (h.over hm)

/-- There is something left to do or to tell. -/
theorem Lists.busy {e : Engine} (h : e.Lists) :
    ¬(e.queue = [] ∧ e.tasks = [] ∧ e.events = []) := by
  cases h with
  | queued h => exact h.busy (by simp)
  | running h => exact h.busy (by simp)
  | ended h => exact h.busy (by simp)

/-- What is told of it is its end. -/
theorem Lists.take {e : Engine} (h : e.Lists) :
    e.take? = none ∨ ∃ result e', e.take? = some (.templatesListed result, e') ∧ e'.Holds [] [] [] := by
  cases h with
  | queued h => exact .inl h.take_none
  | running h => exact .inl h.take_none
  | ended h =>
    obtain ⟨e', htake, hafter⟩ := h.take
    exact .inr ⟨_, e', htake, hafter⟩

/-! ## §3. A render. -/

/-- An engine that has nothing to do but a render; `told` says whether it was told
that the render is on its way. -/
inductive Renders (id : RenderId) (request : CompileRequest) (e : Engine) : Bool → Prop where
  | queued : e.Holds [.render id request] [] [] → Renders id request e false
  | running : e.Holds [] [.rendering id request] [] → Renders id request e false
  | dispatched : e.Holds [] [.awaiting id request] [.renderDispatched id] →
      Renders id request e false
  | answered {result : Result CompileReply} :
      e.Holds [] [] [.renderDispatched id, .renderCompleted id result] → Renders id request e false
  | awaiting : e.Holds [] [.awaiting id request] [] → Renders id request e true
  | ended {result : Result CompileReply} : e.Holds [] [] [.renderCompleted id result] →
      Renders id request e true

section Renders

variable {e : Engine} {id : RenderId} {request : CompileRequest} {told : Bool}

/-- A render that was asked for stays under way. -/
theorem Renders.step (h : e.Renders id request told) (store : Store σ) (s : σ) (m : Move) :
    (e.step store s m).1.Renders id request told := by
  have hm := e.step_moves store s m
  -- which findings a job can end with is settled by the kind of the job
  cases h with
  | queued h =>
    rcases h.queued rfl hm with h | h
    · exact .queued h
    · exact .running h
  | running h =>
    rcases h.running hm with h | ⟨_, _, htask, h⟩ | ⟨finding, event, hf, h⟩
    · exact .running h
    · cases htask
      exact .dispatched h
    · cases finding <;> cases hf
  | dispatched h =>
    rcases h.running hm with h | ⟨_, _, htask, _⟩ | ⟨finding, event, hf, h⟩
    · exact .dispatched h
    · cases htask
    · cases finding <;> cases hf
      exact .answered h
  | answered h => exact .answered (h.over hm)
  | awaiting h =>
    rcases h.running hm with h | ⟨_, _, htask, _⟩ | ⟨finding, event, hf, h⟩
    · exact .awaiting h
    · cases htask
    · cases finding <;> cases hf
      exact .ended h
  | ended h => exact .ended (h.over hm)

/-- There is something left to do or to tell. -/
theorem Renders.busy (h : e.Renders id request told) :
    ¬(e.queue = [] ∧ e.tasks = [] ∧ e.events = []) := by
  cases h with
  | queued h => exact h.busy (by simp)
  | running h => exact h.busy (by simp)
  | dispatched h => exact h.busy (by simp)
  | answered h => exact h.busy (by simp)
  | awaiting h => exact h.busy (by simp)
  | ended h => exact h.busy (by simp)

/-- What is told of it first is that it is on its way. -/
theorem Renders.take_dispatched (h : e.Renders id request false) :
    e.take? = none
      ∨ ∃ e', e.take? = some (.renderDispatched id, e') ∧ e'.Renders id request true := by
  cases h with
  | queued h => exact .inl h.take_none
  | running h => exact .inl h.take_none
  | dispatched h =>
    obtain ⟨e', htake, hafter⟩ := h.take
    exact .inr ⟨e', htake, .awaiting hafter⟩
  | answered h =>
    obtain ⟨e', htake, hafter⟩ := h.take
    exact .inr ⟨e', htake, .ended hafter⟩

/-- What is told next is its end. -/
theorem Renders.take_completed (h : e.Renders id request true) :
    e.take? = none
      ∨ ∃ result e', e.take? = some (.renderCompleted id result, e') ∧ e'.Holds [] [] [] := by
  cases h with
  | awaiting h => exact .inl h.take_none
  | ended h =>
    obtain ⟨e', htake, hafter⟩ := h.take
    exact .inr ⟨_, e', htake, hafter⟩

end Renders

end RenderDesk.Engine
