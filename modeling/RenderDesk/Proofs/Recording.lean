/-
  RenderDesk.Proofs.Recording
  ───────────────────────────
  A store that records its puts, and what they were puts of.

  Beside a store a record is kept of every put that succeeds.  No move reads
  it, so a run with the record is the run without it.  What has been put is
  then known: every text in the record was the document at some moment, and
  a save is reported exactly for the revision of that moment.

  Main statements:
    * `run_recording` — recording changes nothing of a run;
    * `step_puts` — what one move puts, and what it reports;
    * `run_puts` — the record and the reports are of the same snapshots, each
      of which was the document once.
-/
import Mathlib.Data.List.Induction
import RenderDesk.Program.Circuit
import RenderDesk.Proofs.Saving
import RenderDesk.Storage.Shelf

namespace RenderDesk.Storage

/-! ## §1. A store that records. -/

/-- What was put, key and text, the oldest first. -/
abbrev Record := List (String × String)

/-- The store that also records every put that succeeds. -/
def Store.recording (store : Store σ) : Store (σ × Record) where
  get key s := store.get key s.1
  put key value s :=
    match store.put key value s.1 with
    | (.ok (), stored) => (.ok (), (stored, s.2 ++ [(key, value)]))
    | (.error e, stored) => (.error e, (stored, s.2))

/-- The last put of a record was this text of the document. -/
def Record.endsWith (text : String) (s : σ × Record) : Prop :=
  s.2.getLast? = some (documentKey, text)

theorem recording_ok {store : Store σ} {key value : String} {s s' : σ × Record}
    (h : store.recording.put key value s = (.ok (), s')) : s'.2 = s.2 ++ [(key, value)] := by
  unfold Store.recording at h
  simp only at h
  split at h
  · injection h with _ h
    rw [← h]
  · injection h with h _
    cases h

theorem recording_error {store : Store σ} {key value : String} {e : StorageError}
    {s s' : σ × Record} (h : store.recording.put key value s = (.error e, s')) : s'.2 = s.2 := by
  unfold Store.recording at h
  simp only at h
  split at h
  · injection h with h _
    cases h
  · injection h with _ h
    rw [← h]

theorem recording_endsWith {store : Store σ} {text : String} {s s' : σ × Record}
    (h : store.recording.put documentKey text s = (.ok (), s')) : Record.endsWith text s' := by
  rw [Record.endsWith, recording_ok h]
  exact List.getLast?_concat

/-- The same outcome, without the record. -/
def unrecorded (outcome : α × β × σ × Record) : α × β × σ :=
  (outcome.1, outcome.2.1, outcome.2.2.1)

theorem commit_recording (c : Committer) (store : Store σ) (expected : Option Session.Revision)
    (s : σ × Record) :
    unrecorded (c.commit store.recording expected s) = c.commit store expected s.1 := by
  unfold Committer.commit
  cases c.expected? expected with
  | none => rfl
  | some snapshot =>
    by_cases hs : c.superseded snapshot.revision = true
    · simp only [hs, if_true]
      rfl
    · simp only [hs, write, Store.recording]
      rcases store.put documentKey snapshot.content s.1 with ⟨_ | _, stored⟩ <;> rfl

theorem guard_commit_recording (g : Guard) (store : Store σ) (expected : Option Session.Revision)
    (s : σ × Record) :
    unrecorded (g.commit store.recording expected s) = g.commit store expected s.1 := by
  unfold Guard.commit
  rw [← commit_recording]
  rfl

theorem schedule_recording (g : Guard) (store : Store σ) (now : Duration) (snapshot : Snapshot)
    (s : σ × Record) :
    unrecorded (g.schedule store.recording now snapshot s) = g.schedule store now snapshot s.1 := by
  unfold Guard.schedule
  by_cases hd : g.delay = .zero
  · simp only [hd, if_true]
    exact guard_commit_recording _ store _ s
  · simp only [hd, if_false]
    rfl

end RenderDesk.Storage

namespace RenderDesk.Engine

open RenderDesk.Storage

/-- The same outcome of a move, without the record. -/
def unrecorded (outcome : Engine × σ × Record) : Engine × σ := (outcome.1, outcome.2.1)

theorem guarded_recording (e : Engine) (outcome : Guard × List SaveEvent × σ × Record) :
    unrecorded (e.guarded outcome) = e.guarded (Storage.unrecorded outcome) := rfl

theorem begin_recording (e : Engine) (store : Store σ) (now : Duration) (s : σ × Record)
    (command : Command) :
    unrecorded (e.begin store.recording now s command) = e.begin store now s.1 command := by
  cases command with
  | scheduleSave snapshot =>
    show unrecorded (e.guarded _) = e.guarded _
    rw [guarded_recording, schedule_recording]
  | flush =>
    show unrecorded (e.guarded _) = e.guarded _
    rw [guarded_recording]
    exact congrArg e.guarded (guard_commit_recording _ store none s)
  | _ => rfl

theorem step_recording (e : Engine) (store : Store σ) (s : σ × Record) (m : Move) :
    unrecorded (e.step store.recording s m) = e.step store s.1 m := by
  cases m with
  | pickUp now =>
    simp only [step]
    split
    · exact begin_recording _ store now s _
    · rfl
  | dispatch place =>
    simp only [step]
    split <;> rfl
  | finish place finding =>
    simp only [step]
    split <;> rfl
  | wake revision =>
    show unrecorded (e.guarded _) = e.guarded _
    rw [guarded_recording]
    exact congrArg e.guarded (guard_commit_recording _ store _ s)

end RenderDesk.Engine

namespace RenderDesk.Program

open RenderDesk.Engine (Event onTheWay saves snapshots Saving)
open RenderDesk.Session
open RenderDesk.Storage
open RenderDesk.Terminal (Incoming)

namespace Circuit

/-- The same circuit, without the record. -/
def unrecorded (c : Circuit (σ × Record)) : Circuit σ := { c with stored := c.stored.1 }

theorem receive_unrecorded (c : Circuit (σ × Record)) (now : UInt64) (event : Event) :
    (c.receive now event).unrecorded = c.unrecorded.receive now event := by
  unfold receive
  split <;> rfl

theorem step_unrecorded (store : Store σ) (c : Circuit (σ × Record)) (m : Move) :
    (c.step store.recording m).unrecorded = c.unrecorded.step store m := by
  cases m with
  | wish m =>
    simp only [step]
    split <;> rfl
  | flush => rfl
  | engine move =>
    have h := Engine.step_recording c.engine store c.stored move
    show _ = { c.unrecorded with
      engine := (c.engine.step store c.stored.1 move).1
      stored := (c.engine.step store c.stored.1 move).2 }
    rw [← h]
    rfl
  | deliver now =>
    simp only [step]
    have hengine : c.unrecorded.engine = c.engine := rfl
    rw [hengine]
    cases c.engine.take? with
    | none => rfl
    | some taken => exact receive_unrecorded { c with engine := taken.2 } now taken.1
  | look => rfl

/-- **Recording changes nothing of a run.** -/
theorem run_recording (store : Store σ) (c : Circuit (σ × Record)) (moves : List Move) :
    (c.run store.recording moves).unrecorded = c.unrecorded.run store moves := by
  induction moves generalizing c with
  | nil => rfl
  | cons m moves ih =>
    show ((c.step store.recording m).run store.recording moves).unrecorded = _
    rw [ih, step_unrecorded]
    rfl

end Circuit

end RenderDesk.Program

/-! ## §2. What is put. -/

namespace RenderDesk.Storage

/-- What has been put from one state of a recording store to another, and what
was told of it: the record has the texts, and the reports have the revisions. -/
structure Puts (s s' : σ × Record) (told : List SaveEvent) (puts : List Snapshot) : Prop where
  record : s'.2 = s.2 ++ puts.map fun p => (documentKey, p.content)
  reported : told.filterMap SaveEvent.saved? = puts.map Snapshot.revision

section Puts

variable {s s' s'' : σ × Record} {told later : List SaveEvent} {one more : List Snapshot}

theorem Puts.nothing (h : s'.2 = s.2) (htold : told.filterMap SaveEvent.saved? = []) :
    Puts s s' told [] :=
  ⟨h.trans (List.append_nil _).symm, htold⟩

theorem Puts.append (h : Puts s s' told one) (hmore : Puts s' s'' later more) :
    Puts s s'' (told ++ later) (one ++ more) where
  record := by rw [hmore.record, h.record, List.map_append, List.append_assoc]
  reported := by rw [List.filterMap_append, List.map_append, h.reported, hmore.reported]

/-- A commit puts what is in the slot, or nothing, and leaves no other snapshot
there. -/
theorem Committer.Commits.puts {store : Store σ} {c c' : Committer}
    (h : c.Commits store.recording s c' told s') :
    ∃ puts, Puts s s' told puts ∧ (∀ p ∈ puts, c.latest = some p)
      ∧ ∀ p, c'.latest = some p → c.latest = some p := by
  cases h with
  | idle => exact ⟨[], .nothing rfl rfl, nofun, fun _ hp => hp⟩
  | superseded _ _ _ => exact ⟨[], .nothing rfl rfl, nofun, nofun⟩
  | @saved snapshot _ hlatest _ hput =>
    refine ⟨[snapshot], ⟨recording_ok hput, rfl⟩, fun p hp => ?_, nofun⟩
    rw [List.mem_singleton.1 hp]
    exact hlatest
  | failed _ _ hput => exact ⟨[], .nothing (recording_error hput) rfl, nofun, nofun⟩

end Puts

end RenderDesk.Storage

namespace RenderDesk.Engine

open RenderDesk.Storage

/-- The snapshots on their way to the store. -/
def way (e : Engine) : List Snapshot := onTheWay e.guard.committer (snapshots e.queue)

section Moves

variable {store : Store σ} {e e' : Engine} {s s' : σ × Record} {events : List Event}

theorem mem_onTheWay {c : Committer} {waiting : List Snapshot} {p : Snapshot} :
    p ∈ onTheWay c waiting ↔ c.latest = some p ∨ p ∈ waiting := by
  simp [onTheWay]

/-- What waits behind a command waits. -/
theorem mem_snapshots_cons {command : Command} {queue : List Command} {p : Snapshot}
    (h : p ∈ snapshots queue) : p ∈ snapshots (command :: queue) :=
  ((List.sublist_cons_self command queue).filterMap Command.snapshot?).subset h

/-- A move puts what was on its way, and puts nothing new on the way. -/
theorem Moves.puts (h : Moves store.recording e s e' s' events) :
    ∃ puts, Puts s s' (saves events) puts ∧ (∀ p ∈ puts, p ∈ e.way) ∧ ∀ p ∈ e'.way, p ∈ e.way := by
  cases h with
  | idle => exact ⟨[], .nothing rfl rfl, nofun, fun _ hp => hp⟩
  | started hq _ =>
    -- the command goes to the jobs, and what waits behind it still waits
    refine ⟨[], .nothing rfl rfl, nofun, fun p hp => ?_⟩
    rw [way, hq, mem_onTheWay]
    exact (mem_onTheWay.1 hp).imp id mem_snapshots_cons
  | dispatched _ => exact ⟨[], .nothing rfl rfl, nofun, fun _ hp => hp⟩
  | @finished _ task finding event _ hf =>
    -- a job that ends reports no write
    have hsave : event.save? = none := finished?_save hf
    refine ⟨[], .nothing rfl ?_, nofun, fun _ hp => hp⟩
    simp [saves, hsave]
  | @scheduled snapshot queue guard saves _ hq hc =>
    rw [saves_ofSave]
    -- the slot holds the snapshot of the command, which was in the queue until now
    obtain ⟨puts, hputs, hslot, hleft⟩ := hc.puts
    have hsnapshot : snapshot ∈ e.way := by
      rw [way, hq, mem_onTheWay]
      exact .inr List.mem_cons_self
    refine ⟨puts, hputs, fun p hp => ?_, fun p hp => ?_⟩
    · rw [← Option.some.inj (hslot p hp)]
      exact hsnapshot
    · rcases mem_onTheWay.1 hp with hlatest | hp
      · rw [← Option.some.inj (hleft p hlatest)]
        exact hsnapshot
      · rw [way, hq, mem_onTheWay]
        exact .inr (mem_snapshots_cons hp)
  | @flushed queue guard saves _ hq hc _ =>
    rw [saves_ofSave]
    obtain ⟨puts, hputs, hslot, hleft⟩ := hc.puts
    refine ⟨puts, hputs, fun p hp => mem_onTheWay.2 (.inl (hslot p hp)), fun p hp => ?_⟩
    rw [way, hq, mem_onTheWay]
    exact (mem_onTheWay.1 hp).imp (hleft p) mem_snapshots_cons
  | woken hc =>
    rw [saves_ofSave]
    obtain ⟨puts, hputs, hslot, hleft⟩ := hc.puts
    refine ⟨puts, hputs, fun p hp => mem_onTheWay.2 (.inl (hslot p hp)), fun p hp => ?_⟩
    exact mem_onTheWay.2 ((mem_onTheWay.1 hp).imp (hleft p) id)

end Moves

end RenderDesk.Engine

namespace RenderDesk.Program

open RenderDesk.Engine (Event saves snapshots)
open RenderDesk.Session
open RenderDesk.Storage
open RenderDesk.Terminal (Incoming)

namespace Circuit

/-- What the writes of a move come to. -/
def written (store : Store σ) (c : Circuit σ) : Move → List SaveEvent
  | .engine move => c.engine.written store c.stored move
  | _ => []

/-- What all writes of a run come to, in their order. -/
def writes (store : Store σ) (c : Circuit σ) : List Move → List SaveEvent
  | [] => []
  | m :: moves => c.written store m ++ (c.step store m).writes store moves

theorem writes_snoc (store : Store σ) (c : Circuit σ) (moves : List Move) (m : Move) :
    c.writes store (moves ++ [m])
      = c.writes store moves ++ (c.run store moves).written store m := by
  induction moves generalizing c with
  | nil => exact List.append_nil _
  | cons first moves ih =>
    show _ ++ (c.step store first).writes store (moves ++ [m]) = _
    rw [ih, ← List.append_assoc]
    rfl

/-- The document as a snapshot. -/
def current (c : Circuit σ) : Snapshot := ⟨c.session.document.revision, c.session.document.text⟩

/-- A message puts no snapshot on the way but that of the document as it is then. -/
theorem react_way {c : Circuit σ} {m : Message} {p : Snapshot} (h : p ∈ (c.react m).engine.way) :
    p ∈ c.engine.way ∨ p = (c.react m).current := by
  have hdocument : (update c.session m).1.document = c.session.document.after m :=
    update_document c.session m
  rw [react_eq] at h ⊢
  simp only [Engine.way, Engine.snapshots_append, Engine.update_snapshots,
    Engine.onTheWay_append] at h
  rcases List.mem_append.1 h with h | h
  · exact .inl h
  · -- of all messages only an edit sends a snapshot
    cases m with
    | documentEdited text =>
      right
      rw [List.mem_singleton.1 h]
      simp only [current, hdocument]
      rfl
    | _ => cases h

/-- **One move** puts what was on its way, and puts nothing on the way but the
document as it is then. -/
theorem step_puts (store : Store σ) (c : Circuit (σ × Record)) (m : Move) :
    ∃ puts, Puts c.stored (c.step store.recording m).stored (c.written store.recording m) puts
      ∧ (∀ p ∈ puts, p ∈ c.engine.way)
      ∧ ∀ p ∈ (c.step store.recording m).engine.way,
          p ∈ c.engine.way ∨ p = (c.step store.recording m).current := by
  cases m with
  | wish m =>
    simp only [step]
    split
    · exact ⟨[], .nothing rfl rfl, nofun, fun _ => react_way⟩
    · exact ⟨[], .nothing rfl rfl, nofun, fun _ => .inl⟩
  | flush =>
    refine ⟨[], .nothing rfl rfl, nofun, fun p hp => .inl ?_⟩
    simpa only [step, Engine.way, Engine.send, Engine.snapshots_flush] using hp
  | engine move =>
    obtain ⟨puts, hputs, hsource, hway⟩ := (Engine.step_moves c.engine _ c.stored move).puts
    exact ⟨puts, hputs, hsource, fun p hp => .inl (hway p hp)⟩
  | deliver now =>
    refine ⟨[], .nothing ?_ rfl, nofun, ?_⟩
    · simp only [step]
      cases c.engine.take? with
      | none => rfl
      | some taken =>
        simp only [receive]
        split <;> rfl
    · simp only [step]
      cases hevents : c.engine.events with
      | nil =>
        simp only [Engine.take?, hevents]
        exact fun _ => .inl
      | cons event events =>
        simp only [Engine.take?_event hevents, receive]
        split
        · exact fun _ => react_way
        · exact fun _ => .inl
  | look => exact ⟨[], .nothing rfl rfl, nofun, fun _ => .inl⟩

/-- **Every put is of the document as it once was**, and the saves that are
reported are those of the puts, one for one and in their order. -/
theorem run_puts (store : Store σ) {start : Circuit (σ × Record)} (hstart : start.engine.way = [])
    (moves : List Move) :
    ∃ puts, Puts start.stored (start.run store.recording moves).stored
        (start.writes store.recording moves) puts
      ∧ ∀ p ∈ puts ++ (start.run store.recording moves).engine.way, ∃ before,
          before <+: moves ∧ (start.run store.recording before).current = p := by
  -- from the end, so that what was on its way before is known already
  induction moves using List.reverseRecOn with
  | nil =>
    refine ⟨[], .nothing rfl rfl, fun p hp => ?_⟩
    have hway : p ∈ start.engine.way := hp
    rw [hstart] at hway
    cases hway
  | append_singleton moves m ih =>
    obtain ⟨puts, hputs, hknown⟩ := ih
    obtain ⟨more, hmore, hsource, hway⟩ := step_puts store (start.run store.recording moves) m
    have hstep : start.run store.recording (moves ++ [m])
        = (start.run store.recording moves).step store.recording m := run_append _ _ _ _
    have hbefore : ∀ p ∈ puts ++ (start.run store.recording moves).engine.way, ∃ before,
        before <+: moves ++ [m] ∧ (start.run store.recording before).current = p := by
      intro p hp
      obtain ⟨before, hfront, hcurrent⟩ := hknown p hp
      exact ⟨before, hfront.trans (List.prefix_append _ _), hcurrent⟩
    rw [writes_snoc, hstep]
    refine ⟨puts ++ more, hputs.append hmore, fun p hp => ?_⟩
    rcases List.mem_append.1 hp with hp | hp
    · rcases List.mem_append.1 hp with hp | hp
      · exact hbefore p (List.mem_append_left _ hp)
      · exact hbefore p (List.mem_append_right _ (hsource p hp))
    · rcases hway p hp with hp | rfl
      · exact hbefore p (List.mem_append_right _ hp)
      · exact ⟨moves ++ [m], List.prefix_rfl, by rw [hstep]⟩

end Circuit

end RenderDesk.Program
