/-
  RenderDesk.Proofs.Saving
  ────────────────────────
  How the edits of a document reach its store.

  Every edit sends one snapshot after the engine.  On its way it waits in the
  queue of commands and then in the slot of the committer, until a write is
  tried or a later snapshot takes its place.  `Saving` ties the document to
  the snapshots on their way, to the last revision that was written, to the
  store and to everything that the writes have come to.

  Main statements:
    * `Saving.update` — a message keeps it, with the snapshot that it sends;
    * `Saving.moves` — a move of the engine keeps it, whatever the store
      answers;
    * `Saving.stored_of_settled` — when nothing is on its way and no write has
      failed, the store holds the latest text.
-/
import Mathlib.Algebra.Group.Nat.Defs
import RenderDesk.Proofs.Transitions
import RenderDesk.Session.Update

/-! ## §1. What a message does to the document. -/

namespace RenderDesk.Session

open RenderDesk.Service

/-- A document after a message. -/
def Document.after (d : Document) : Message → Document
  | .sessionStarted text => { text, revision := 0, saved := true }
  | .documentEdited text => { text, revision := d.revision + 1, saved := false }
  | .documentSaved revision => { d with saved := d.saved || revision = d.revision }
  | _ => d

theorem noteSaved_document (s : State) (revision : Revision) :
    (s.noteSaved revision).document = s.document.after (.documentSaved revision) := by
  unfold State.noteSaved Document.after
  by_cases hr : revision = s.document.revision
  · cases hs : s.document.saved with
    | false => simp [hr, State.touched]
    | true =>
      -- a mark that is there already is left as it is
      have hsame : s.document = { s.document with saved := true } := by rw [← hs]
      simp only [hr, Bool.true_or, Bool.true_eq_false, and_false, if_false]
      exact hsame
  · simp [hr]

theorem update_document (s : State) (m : Message) :
    (update s m).1.document = s.document.after m := by
  cases m with
  | documentSaved revision => exact noteSaved_document s revision
  | renderCompleted id outcome now =>
    simp only [update]
    split
    · exact applyOutcome_document s outcome now
    · rfl
  | _ =>
    simp only [update, State.requestRender, State.requestExtract, State.requestExport,
      State.select, State.markCompiling, State.noteExtract, State.clearLog, State.noteExport]
    repeat' split
    all_goals rfl

end RenderDesk.Session

namespace RenderDesk.Engine

open RenderDesk.Session
open RenderDesk.Storage

/-! ## §2. Snapshots among commands, writes among events. -/

/-- The snapshot that a command brings. -/
def Command.snapshot? : Command → Option Snapshot
  | .scheduleSave snapshot => some snapshot
  | _ => none

/-- The snapshots that commands bring, in their order. -/
def snapshots (commands : List Command) : List Snapshot := commands.filterMap Command.snapshot?

/-- What an event says that a write came to. -/
def Event.save? : Event → Option SaveEvent
  | .documentSaved revision => some (.saved revision)
  | .documentSaveFailed revision message => some (.saveFailed revision message)
  | _ => none

/-- What events say that writes came to, in their order. -/
def saves (events : List Event) : List SaveEvent := events.filterMap Event.save?

@[simp] theorem snapshots_append (commands others : List Command) :
    snapshots (commands ++ others) = snapshots commands ++ snapshots others :=
  List.filterMap_append

/-- A flush brings no snapshot. -/
theorem snapshots_flush (commands : List Command) :
    snapshots (commands ++ [.flush]) = snapshots commands := by
  rw [snapshots_append]
  exact List.append_nil _

@[simp] theorem saves_append (events others : List Event) :
    saves (events ++ others) = saves events ++ saves others :=
  List.filterMap_append

@[simp] theorem saves_ofSave (writes : List SaveEvent) :
    saves (writes.map Event.ofSave) = writes := by
  induction writes with
  | nil => rfl
  | cons w writes ih =>
    unfold saves at ih ⊢
    cases w <;> simp [Event.ofSave, Event.save?, ih]

/-- A job that ends reports no write. -/
theorem finished?_save {task : Task} {finding : Finding} {event : Event}
    (h : task.finished? finding = some event) : event.save? = none := by
  rcases finished?_once h with ⟨_, _, _, _, rfl⟩ | ⟨_, _, _, _, rfl⟩ | ⟨_, _, rfl⟩
    | ⟨_, _, _, _, rfl⟩ <;> rfl

/-- What the writes of a move come to. -/
def written (e : Engine) (store : Store σ) (s : σ) (m : Move) : List SaveEvent :=
  saves (e.emitted store s m)

/-- Only an edit sends a snapshot. -/
theorem update_snapshots (s : State) (m : Message) :
    snapshots ((update s m).2.map Command.ofEffect)
      = match m with
        | .documentEdited text => [⟨s.document.revision + 1, text⟩]
        | _ => [] := by
  cases m with
  | renderCompleted id outcome now =>
    simp only [update]
    split <;> rfl
  | _ =>
    simp only [update, State.requestRender, State.requestExtract, State.requestExport]
    repeat' split
    all_goals rfl

/-! ## §3. The invariant. -/

/-- The snapshots on their way, the oldest first: the one in the slot, and
those that wait. -/
def onTheWay (c : Committer) (waiting : List Snapshot) : List Snapshot :=
  c.latest.toList ++ waiting

/-- A document, given by its text and its revision, and what becomes of its
snapshots.  `holds` says that a store holds a text; `first` is the store as it
was at the start, and `told` is what all writes have come to. -/
structure Saving (holds : String → σ → Prop) (first : σ) (text : String) (revision : Revision)
    (c : Committer) (waiting : List Snapshot) (s : σ) (told : List SaveEvent) : Prop where
  ascending : (onTheWay c waiting).Pairwise fun p q => p.revision < q.revision
  bounds : ∀ p ∈ onTheWay c waiting, 0 < p.revision ∧ p.revision ≤ revision
  current : ∀ p ∈ onTheWay c waiting, p.revision = revision → p.content = text
  /-- The latest revision is on its way, or its write has been tried. -/
  reached : 0 < revision → (∃ p ∈ onTheWay c waiting, p.revision = revision)
    ∨ .saved revision ∈ told ∨ ∃ message, .saveFailed revision message ∈ told
  committed : ∀ last, c.committed = some last →
    last ≤ revision ∧ .saved last ∈ told ∧ ∀ p ∈ onTheWay c waiting, last < p.revision
  holding : c.committed = some revision → holds text s
  heard : ∀ r, .saved r ∈ told → 0 < r ∧ ∃ last, c.committed = some last ∧ r ≤ last
  /-- Before the first edit nothing is written. -/
  untouched : revision = 0 → s = first

variable {holds : String → σ → Prop} {first : σ} {text : String} {revision : Revision}
  {c c' : Committer} {waiting : List Snapshot} {s s' : σ} {told : List SaveEvent}

theorem Saving.start (holds : String → σ → Prop) (first : σ) (text : String) :
    Saving holds first text 0 {} [] first [] where
  ascending := .nil
  bounds := by simp [onTheWay]
  current := by simp [onTheWay]
  reached := by
    intro h
    exact absurd h (by decide)
  committed := by simp
  holding := by simp
  heard := by simp
  untouched := fun _ => rfl

/-- Counting up does not wrap around below the largest number. -/
theorem toNat_succ {r : Revision} (h : r.toNat + 1 < 2 ^ 64) : (r + 1).toNat = r.toNat + 1 := by
  rw [UInt64.toNat_add]
  show (r.toNat + 1) % 2 ^ 64 = _
  omega

theorem lt_succ {r : Revision} (h : r.toNat + 1 < 2 ^ 64) : r < r + 1 := by
  rw [UInt64.lt_iff_toNat_lt, toNat_succ h]
  omega

/-! ## §4. Edits. -/

theorem onTheWay_append (c : Committer) (waiting later : List Snapshot) :
    onTheWay c (waiting ++ later) = onTheWay c waiting ++ later :=
  (List.append_assoc _ _ _).symm

theorem Saving.edit (h : Saving holds first text revision c waiting s told)
    (hr : revision.toNat + 1 < 2 ^ 64) (new : String) :
    Saving holds first new (revision + 1) c (waiting ++ [⟨revision + 1, new⟩]) s told := by
  have hlt : revision < revision + 1 := lt_succ hr
  have hle : revision ≤ revision + 1 := UInt64.le_of_lt hlt
  have hpos : (0 : Revision) < revision + 1 := by
    rw [UInt64.lt_iff_toNat_lt, toNat_succ hr]
    exact Nat.succ_pos _
  have hold : ∀ p ∈ onTheWay c waiting, p.revision < revision + 1 := by
    intro p hp
    exact UInt64.lt_of_le_of_lt (h.bounds p hp).2 hlt
  refine ⟨?_, ?_, ?_, ?_, ?_, ?_, ?_, ?_⟩
  · -- ascending: the new snapshot is behind all others
    rw [onTheWay_append, List.pairwise_append]
    refine ⟨h.ascending, List.pairwise_singleton _ _, ?_⟩
    intro p hp q hq
    rw [List.mem_singleton.1 hq]
    exact hold p hp
  · -- bounds: the new snapshot has the new revision, all others an older one
    intro p hp
    rw [onTheWay_append, List.mem_append, List.mem_singleton] at hp
    rcases hp with hp | rfl
    · exact ⟨(h.bounds p hp).1, UInt64.le_trans (h.bounds p hp).2 hle⟩
    · exact ⟨hpos, UInt64.le_refl _⟩
  · -- current: so it alone has to be the new text
    intro p hp hpr
    rw [onTheWay_append, List.mem_append, List.mem_singleton] at hp
    rcases hp with hp | rfl
    · exact absurd hpr (UInt64.ne_of_lt (hold p hp))
    · rfl
  · -- reached: it is on its way
    intro _
    refine Or.inl ⟨⟨revision + 1, new⟩, ?_, rfl⟩
    rw [onTheWay_append]
    exact List.mem_append_right _ (List.mem_singleton.2 rfl)
  · intro last hl
    obtain ⟨hlast, htold, hbefore⟩ := h.committed last hl
    refine ⟨UInt64.le_trans hlast hle, htold, ?_⟩
    intro p hp
    rw [onTheWay_append, List.mem_append, List.mem_singleton] at hp
    rcases hp with hp | rfl
    · exact hbefore p hp
    · exact UInt64.lt_of_le_of_lt hlast hlt
  · -- the new revision has not been written yet
    intro hl
    have hle' := (h.committed _ hl).1
    exact absurd (UInt64.lt_of_lt_of_le hlt hle') (UInt64.lt_irrefl _)
  · exact h.heard
  · intro h0
    rw [h0] at hpos
    exact absurd hpos (UInt64.lt_irrefl _)

/-- A message keeps the invariant, together with what it sends; only a new
start breaks it off. -/
theorem Saving.update {st : State}
    (h : Saving holds first st.document.text st.document.revision c waiting s told)
    {m : Message} (hm : ∀ document, m ≠ .sessionStarted document)
    (hr : ∀ text, m = .documentEdited text → st.document.revision.toNat + 1 < 2 ^ 64) :
    Saving holds first (Session.update st m).1.document.text
      (Session.update st m).1.document.revision c
      (waiting ++ snapshots ((Session.update st m).2.map Command.ofEffect)) s told := by
  rw [update_document, update_snapshots]
  cases m with
  | sessionStarted document => exact absurd rfl (hm document)
  | documentEdited text => exact h.edit (hr text rfl) text
  | _ => simpa [Document.after] using h

/-! ## §5. Commits. -/

/-- A snapshot that enters the slot takes the place of an older one. -/
theorem Saving.replace {p : Snapshot}
    (h : Saving holds first text revision c (p :: waiting) s told) :
    Saving holds first text revision (c.replace p) waiting s told := by
  have hsub : (onTheWay (c.replace p) waiting).Sublist (onTheWay c (p :: waiting)) :=
    List.sublist_append_right _ _
  have hmem : ∀ q ∈ onTheWay (c.replace p) waiting, q ∈ onTheWay c (p :: waiting) :=
    fun q hq => hsub.subset hq
  refine ⟨h.ascending.sublist hsub, fun q hq => h.bounds q (hmem q hq),
    fun q hq => h.current q (hmem q hq), ?_, ?_, h.holding, h.heard, h.untouched⟩
  · -- the snapshot that is dropped is older than `p`, so it is not the latest
    intro hr
    rcases h.reached hr with ⟨q, hq, hqr⟩ | htold
    · refine Or.inl ⟨q, ?_, hqr⟩
      rcases List.mem_append.1 hq with hslot | hq
      · have hlt : q.revision < p.revision :=
          (List.pairwise_append.1 h.ascending).2.2 q hslot p List.mem_cons_self
        have hle := (h.bounds p (List.mem_append_right _ List.mem_cons_self)).2
        rw [← hqr] at hle
        exact absurd (UInt64.lt_of_lt_of_le hlt hle) (UInt64.lt_irrefl _)
      · exact hq
    · exact Or.inr htold
  · intro last hl
    obtain ⟨hle, htold, hbefore⟩ := h.committed last hl
    exact ⟨hle, htold, fun q hq => hbefore q (hmem q hq)⟩

/-- What is known when the snapshot in the slot is tried, however it ends:
only the fields that speak of what was written are left to show. -/
theorem Saving.tried {p : Snapshot} {write : SaveEvent} {written : Option Revision}
    (h : Saving holds first text revision c waiting s told) (hl : c.latest = some p)
    (hw : write = .saved p.revision ∨ ∃ message, write = .saveFailed p.revision message)
    (hcommitted : ∀ last, written = some last →
      last ≤ revision ∧ .saved last ∈ told ++ [write] ∧ ∀ q ∈ waiting, last < q.revision)
    (hholding : written = some revision → holds text s')
    (hheard : ∀ r, .saved r ∈ told ++ [write] → 0 < r ∧ ∃ last, written = some last ∧ r ≤ last) :
    Saving holds first text revision { latest := none, committed := written } waiting s'
      (told ++ [write]) := by
  have hway : onTheWay c waiting = p :: waiting := by simp [onTheWay, hl]
  have hasc := h.ascending
  have hb := h.bounds
  have hcur := h.current
  have hreach := h.reached
  rw [hway] at hasc hb hcur hreach
  refine ⟨(List.pairwise_cons.1 hasc).2, fun q hq => hb q (List.mem_cons_of_mem _ hq),
    fun q hq => hcur q (List.mem_cons_of_mem _ hq), ?_, hcommitted, hholding, hheard, ?_⟩
  · intro hr
    rcases hreach hr with ⟨q, hq, hqr⟩ | htold | ⟨message, htold⟩
    · rcases List.mem_cons.1 hq with rfl | hq
      · -- it was the latest one, and now it has been tried
        rw [← hqr]
        rcases hw with rfl | ⟨message, rfl⟩
        · exact Or.inr (Or.inl (by simp))
        · exact Or.inr (Or.inr ⟨message, by simp⟩)
      · exact Or.inl ⟨q, hq, hqr⟩
    · exact Or.inr (Or.inl (List.mem_append_left _ htold))
    · exact Or.inr (Or.inr ⟨message, List.mem_append_left _ htold⟩)
  · -- a snapshot was on its way, so there was an edit
    intro h0
    obtain ⟨hpos, hle⟩ := hb p List.mem_cons_self
    rw [h0] at hle
    exact absurd (UInt64.lt_of_lt_of_le hpos hle) (UInt64.lt_irrefl _)

theorem Saving.commits {store : Store σ} {writes : List SaveEvent}
    (hput : ∀ v s s', store.put documentKey v s = (.ok (), s') → holds v s')
    (h : Saving holds first text revision c waiting s told)
    (hc : c.Commits store s c' writes s') :
    Saving holds first text revision c' waiting s' (told ++ writes) := by
  -- the snapshot in the slot, and what is known of it
  have hslot : ∀ p, c.latest = some p → p ∈ onTheWay c waiting ∧
      (∀ q ∈ waiting, p.revision < q.revision) ∧ ∀ q ∈ waiting, q ∈ onTheWay c waiting := by
    intro p hl
    have hway : onTheWay c waiting = p :: waiting := by simp [onTheWay, hl]
    have hasc := h.ascending
    rw [hway] at hasc ⊢
    exact ⟨List.mem_cons_self, (List.pairwise_cons.1 hasc).1,
      fun q hq => List.mem_cons_of_mem _ hq⟩
  cases hc with
  | idle => simpa using h
  | superseded hl hlast hle =>
    rename_i p last
    -- nothing on its way is as old as what was written
    have hlt := (h.committed last hlast).2.2 p (hslot p hl).1
    exact absurd (UInt64.lt_of_lt_of_le hlt hle) (UInt64.lt_irrefl _)
  | saved hl hlater hok =>
    rename_i p
    obtain ⟨hp, hafter, _⟩ := hslot p hl
    obtain ⟨hpos, hle⟩ := h.bounds p hp
    refine h.tried hl (Or.inl rfl) ?_ ?_ ?_
    · intro last hlast
      rw [← Option.some.inj hlast]
      exact ⟨hle, by simp, hafter⟩
    · intro hlast
      rw [← h.current p hp (Option.some.inj hlast)]
      exact hput _ _ _ hok
    · -- what was written before is older than what is written now
      intro r hr
      rcases List.mem_append.1 hr with hr | hr
      · obtain ⟨hr0, last, hlast, hrl⟩ := h.heard r hr
        have hlt := UInt64.lt_of_le_of_lt hrl (hlater last hlast)
        exact ⟨hr0, p.revision, rfl, UInt64.le_of_lt hlt⟩
      · obtain rfl : r = p.revision := by simpa using hr
        exact ⟨hpos, _, rfl, UInt64.le_refl _⟩
  | failed hl hlater herror =>
    rename_i p e
    obtain ⟨hp, _, hmem⟩ := hslot p hl
    refine h.tried hl (Or.inr ⟨e.text, rfl⟩) ?_ ?_ ?_
    · intro last hlast
      obtain ⟨hle, htold, hbefore⟩ := h.committed last hlast
      exact ⟨hle, List.mem_append_left _ htold, fun q hq => hbefore q (hmem q hq)⟩
    · -- what failed is later than what was written, so the latest was not
      intro hlast
      have hlt := UInt64.lt_of_lt_of_le (hlater _ hlast) (h.bounds p hp).2
      exact absurd hlt (UInt64.lt_irrefl _)
    · intro r hr
      exact h.heard r (by simpa using hr)

/-! ## §6. Moves of the engine. -/

theorem Saving.moves {store : Store σ} {e e' : Engine} {events : List Event}
    (hput : ∀ v s s', store.put documentKey v s = (.ok (), s') → holds v s')
    (h : Saving holds first text revision e.guard.committer (snapshots e.queue) s told)
    (hm : Moves store e s e' s' events) :
    Saving holds first text revision e'.guard.committer (snapshots e'.queue) s'
      (told ++ saves events) := by
  cases hm with
  | idle => simpa [saves] using h
  | started hq htask =>
    rename_i command queue task
    -- a command that starts a job brings no snapshot
    have hsnap : snapshots e.queue = snapshots queue := by
      rw [hq]
      cases command <;> first | rfl | simp [Task.ofCommand] at htask
    rw [hsnap] at h
    simpa [saves] using h
  | dispatched ht =>
    rw [show saves [.renderDispatched _] = [] from rfl, List.append_nil]
    exact h
  | finished ht hf =>
    rename_i place task finding event
    simpa [saves, finished?_save hf] using h
  | scheduled hq hc =>
    rename_i snapshot queue guard writes
    rw [hq] at h
    rw [saves_ofSave]
    -- the snapshot leaves the queue for the slot, and may be written at once
    exact (Saving.replace h).commits hput hc
  | flushed hq hc hpending =>
    rename_i queue guard writes
    rw [hq] at h
    rw [saves_ofSave]
    exact Saving.commits hput h hc
  | woken hc =>
    rw [saves_ofSave]
    exact h.commits hput hc

/-! ## §7. When everything has settled. -/

/-- Nothing is on its way when neither queue nor slot has anything. -/
theorem onTheWay_nil {g : Guard} (hw : waiting = []) (hp : g.hasPending = false) :
    onTheWay g.committer waiting = [] := by
  have hslot : g.committer.latest = none := by
    simpa [Guard.hasPending, Committer.hasPending] using hp
  rw [onTheWay, hslot, hw]
  rfl

/-- When nothing is on its way, the write of the latest revision has been
tried, unless there was no edit. -/
theorem Saving.tried_of_settled (h : Saving holds first text revision c waiting s told)
    (hs : onTheWay c waiting = []) : revision = 0 ∨ .saved revision ∈ told
      ∨ ∃ message, .saveFailed revision message ∈ told := by
  by_cases h0 : revision = 0
  · exact Or.inl h0
  · rcases h.reached (UInt64.pos_iff_ne_zero.2 h0) with ⟨p, hp, _⟩ | htold
    · rw [hs] at hp
      exact absurd hp List.not_mem_nil
    · exact Or.inr htold

/-- The latest revision is written when a write of it has succeeded. -/
theorem Saving.committed_of_saved (h : Saving holds first text revision c waiting s told)
    (hsaved : .saved revision ∈ told) : c.committed = some revision := by
  obtain ⟨_, last, hlast, hle⟩ := h.heard revision hsaved
  have heq : last = revision := UInt64.le_antisymm (h.committed last hlast).1 hle
  rw [hlast, heq]

theorem Saving.stored_of_settled (h : Saving holds first text revision c waiting s told)
    (hs : onTheWay c waiting = []) (hr : revision ≠ 0)
    (hfail : ∀ r message, .saveFailed r message ∉ told) : holds text s := by
  rcases h.tried_of_settled hs with h0 | hsaved | ⟨message, hfailed⟩
  · exact absurd h0 hr
  · exact h.holding (h.committed_of_saved hsaved)
  · exact absurd hfailed (hfail revision message)

end RenderDesk.Engine
