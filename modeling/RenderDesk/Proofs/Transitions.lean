/-
  RenderDesk.Proofs.Transitions
  ─────────────────────────────
  Everything that one commit, and one move of the engine, can do.

  The functions branch on queues, jobs and timers; the relations here list
  the outcomes instead, one constructor for each, with all that is known in
  it.  Whatever holds of every move is then proved by cases on a relation,
  and no proof opens the functions again.

  Main statements:
    * `commit_commits` — a commit does one of four things;
    * `step_moves` — a move of the engine does one of seven;
    * `step_events_eq` — a move emits the events that it is said to emit.
-/
import RenderDesk.Engine.Machine

namespace RenderDesk.Storage

/-! ## §1. One commit. -/

/-- What a commit can come to: the committer, the events and the store after
it. -/
inductive Committer.Commits (store : Store σ) (c : Committer) (s : σ) :
    Committer → List SaveEvent → σ → Prop where
  /-- Nothing waits, or not what is expected. -/
  | idle : Commits store c s c [] s
  /-- What waits is not later than what was written before. -/
  | superseded {snapshot : Snapshot} {last : Session.Revision} :
      c.latest = some snapshot → c.committed = some last → snapshot.revision ≤ last →
      Commits store c s { c with latest := none } [] s
  | saved {snapshot : Snapshot} {s' : σ} :
      c.latest = some snapshot → (∀ last, c.committed = some last → last < snapshot.revision) →
      store.put documentKey snapshot.content s = (.ok (), s') →
      Commits store c s { latest := none, committed := some snapshot.revision }
        [.saved snapshot.revision] s'
  | failed {snapshot : Snapshot} {e : StorageError} {s' : σ} :
      c.latest = some snapshot → (∀ last, c.committed = some last → last < snapshot.revision) →
      store.put documentKey snapshot.content s = (.error e, s') →
      Commits store c s { c with latest := none } [.saveFailed snapshot.revision e.text] s'

theorem expected?_latest {c : Committer} {expected : Option Session.Revision} {snapshot : Snapshot}
    (h : c.expected? expected = some snapshot) : c.latest = some snapshot := by
  unfold Committer.expected? at h
  split at h
  · next held revision hl =>
    split at h
    · rw [hl, h]
    · exact absurd h (by simp)
  · exact h
  · exact absurd h (by simp)

theorem not_superseded {c : Committer} {revision : Session.Revision}
    (h : ¬c.superseded revision = true) : ∀ last, c.committed = some last → last < revision := by
  intro last hl
  simpa [Committer.superseded, hl, UInt64.not_le] using h

theorem superseded_of_lt {c : Committer} {revision : Session.Revision}
    (h : ∀ last, c.committed = some last → last < revision) : c.superseded revision = false := by
  unfold Committer.superseded
  cases hl : c.committed with
  | none => rfl
  | some last => simpa using h last hl

theorem commit_commits (c : Committer) (store : Store σ) (expected : Option Session.Revision)
    (s : σ) :
    c.Commits store s (c.commit store expected s).1 (c.commit store expected s).2.1
      (c.commit store expected s).2.2 := by
  unfold Committer.commit
  cases he : c.expected? expected with
  | none => exact .idle
  | some snapshot =>
    have hlatest := expected?_latest he
    by_cases hs : c.superseded snapshot.revision = true
    · simp only [hs, if_true]
      cases hc : c.committed with
      | none => simp [Committer.superseded, hc] at hs
      | some last =>
        have hle : snapshot.revision ≤ last := by simpa [Committer.superseded, hc] using hs
        exact hc ▸ .superseded hlatest hc hle
    · have hlater := not_superseded hs
      simp only [hs, write]
      rcases hput : store.put documentKey snapshot.content s with ⟨_ | _, s'⟩
      · exact .failed hlatest hlater hput
      · exact .saved hlatest hlater hput

/-! ## §2. What the guard does. -/

theorem flush_commits (g : Guard) (store : Store σ) (s : σ) :
    g.committer.Commits store s (g.flush store s).1.committer (g.flush store s).2.1
      (g.flush store s).2.2 :=
  commit_commits g.committer store none s

theorem wake_commits (g : Guard) (store : Store σ) (revision : Session.Revision) (s : σ) :
    g.committer.Commits store s (g.wake store revision s).1.committer
      (g.wake store revision s).2.1 (g.wake store revision s).2.2 :=
  commit_commits g.committer store (some revision) s

/-- A snapshot that is scheduled takes the slot first; what happens then is up
to a commit, if anything does. -/
theorem schedule_commits (g : Guard) (store : Store σ) (now : Duration) (snapshot : Snapshot)
    (s : σ) :
    (g.committer.replace snapshot).Commits store s (g.schedule store now snapshot s).1.committer
      (g.schedule store now snapshot s).2.1 (g.schedule store now snapshot s).2.2 := by
  unfold Guard.schedule
  by_cases hd : g.delay = .zero
  · simp only [hd, if_true]
    exact commit_commits (g.committer.replace snapshot) store (some snapshot.revision) s
  · simp only [hd, if_false]
    exact .idle

end RenderDesk.Storage

namespace RenderDesk.Engine

open RenderDesk.Storage

/-! ## §3. One move of the engine. -/

/-- What a move of the engine can come to: the engine and the store after it,
and the events that it emits. -/
inductive Moves (store : Store σ) (e : Engine) (s : σ) : Engine → σ → List Event → Prop where
  | idle : Moves store e s e s []
  | started {command : Command} {queue : List Command} {task : Task} :
      e.queue = command :: queue → Task.ofCommand command = some task →
      Moves store e s { e with queue, tasks := e.tasks ++ [task] } s []
  | dispatched {place : Nat} {id : Session.RenderId} {request : Service.CompileRequest} :
      e.tasks[place]? = some (.rendering id request) →
      Moves store e s
        { e with
          tasks := e.tasks.set place (.awaiting id request)
          events := e.events ++ [.renderDispatched id] } s [.renderDispatched id]
  | finished {place : Nat} {task : Task} {finding : Finding} {event : Event} :
      e.tasks[place]? = some task → task.finished? finding = some event →
      Moves store e s
        { e with tasks := e.tasks.eraseIdx place, events := e.events ++ [event] } s [event]
  | scheduled {snapshot : Snapshot} {queue : List Command} {guard : Guard}
      {saves : List SaveEvent} {s' : σ} :
      e.queue = .scheduleSave snapshot :: queue →
      (e.guard.committer.replace snapshot).Commits store s guard.committer saves s' →
      Moves store e s
        { e with queue, guard, events := e.events ++ saves.map Event.ofSave } s'
        (saves.map Event.ofSave)
  | flushed {queue : List Command} {guard : Guard} {saves : List SaveEvent} {s' : σ} :
      e.queue = .flush :: queue →
      e.guard.committer.Commits store s guard.committer saves s' → guard.hasPending = false →
      Moves store e s
        { e with queue, guard, events := e.events ++ saves.map Event.ofSave } s'
        (saves.map Event.ofSave)
  | woken {guard : Guard} {saves : List SaveEvent} {s' : σ} :
      e.guard.committer.Commits store s guard.committer saves s' →
      Moves store e s { e with guard, events := e.events ++ saves.map Event.ofSave } s'
        (saves.map Event.ofSave)

/-- The events that a move emits. -/
def emitted (e : Engine) (store : Store σ) (s : σ) (m : Move) : List Event :=
  (e.step store s m).1.events.drop e.events.length

theorem step_events_eq (e : Engine) (store : Store σ) (s : σ) (m : Move) :
    (e.step store s m).1.events = e.events ++ e.emitted store s m := by
  obtain ⟨new, hnew⟩ := step_events e store s m
  rw [emitted, ← hnew, List.drop_left]

theorem begin_moves (e : Engine) (store : Store σ) (now : Duration) (s : σ) {command : Command}
    {queue : List Command} (hq : e.queue = command :: queue) :
    ∃ events, Moves store e s (({ e with queue } : Engine).begin store now s command).1
      (({ e with queue } : Engine).begin store now s command).2 events := by
  cases command with
  | scheduleSave snapshot =>
    exact ⟨_, .scheduled hq (schedule_commits e.guard store now snapshot s)⟩
  -- a flush leaves nothing in the slot, however its write ends
  | flush =>
    exact ⟨_, .flushed hq (flush_commits e.guard store s) (Guard.flush_pending e.guard store s)⟩
  | render id request => exact ⟨_, .started hq rfl⟩
  | extractSource id request => exact ⟨_, .started hq rfl⟩
  | listTemplates => exact ⟨_, .started hq rfl⟩
  | exportArtifact reference title => exact ⟨_, .started hq rfl⟩

theorem Moves.events_eq {store : Store σ} {e e' : Engine} {s s' : σ} {events : List Event}
    (h : Moves store e s e' s' events) : e'.events = e.events ++ events := by
  cases h <;> simp

theorem step_moves (e : Engine) (store : Store σ) (s : σ) (m : Move) :
    Moves store e s (e.step store s m).1 (e.step store s m).2 (e.emitted store s m) := by
  have hstep : ∃ events, Moves store e s (e.step store s m).1 (e.step store s m).2 events := by
    cases m with
    | pickUp now =>
      cases hq : e.queue with
      | nil =>
        simp only [step, hq]
        exact ⟨_, .idle⟩
      | cons command queue =>
        simp only [step, hq]
        exact begin_moves e store now s hq
    | dispatch place =>
      simp only [step]
      split
      · next id request ht => exact ⟨_, .dispatched ht⟩
      · exact ⟨_, .idle⟩
    | finish place finding =>
      simp only [step]
      split
      · next event hf =>
        obtain ⟨task, ht, hev⟩ := Option.bind_eq_some_iff.1 hf
        exact ⟨_, .finished ht hev⟩
      · exact ⟨_, .idle⟩
    | wake revision => exact ⟨_, .woken (wake_commits e.guard store revision s)⟩
  -- the events of the relation are those behind the old ones
  obtain ⟨events, h⟩ := hstep
  have he : e.emitted store s m = events := by
    have heq := h.events_eq
    rw [step_events_eq] at heq
    exact List.append_cancel_left heq
  rw [he]
  exact h

end RenderDesk.Engine
