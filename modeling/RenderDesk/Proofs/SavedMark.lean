/-
  RenderDesk.Proofs.SavedMark
  ───────────────────────────
  What the mark on a saved document is worth.

  The mark is set by the report of a write, which may be late: edits may have
  come in between, other writes may have failed, and timers wake when they
  like.  Only the report of the latest revision counts, and a revision that
  was written is never written over by an older one, so a document that is
  marked as saved is the one that was written last.

  Main statements:
    * `step_marked` — what ties the mark to the writes is kept by every move;
    * `saved_is_stored` — the mark is right, and it is there in the end when
      the latest write has succeeded.
-/
import RenderDesk.Proofs.Recording
import RenderDesk.Session.View

namespace RenderDesk.Program

open RenderDesk.Engine (Event onTheWay saves snapshots Saving)
open RenderDesk.Session
open RenderDesk.Storage
open RenderDesk.Terminal (Incoming)

/-! ## §1. Edits of a run. -/

/-- Whether a move edits the document. -/
def Circuit.Move.isEdit : Circuit.Move → Bool
  | .wish (.documentEdited _) => true
  | _ => false

/-- How many of the moves are edits. -/
def edits (moves : List Circuit.Move) : Nat := moves.countP Circuit.Move.isEdit

/-- No text is on its way to the store, and no report of one on its way back. -/
structure Circuit.Calm (c : Circuit σ) : Prop where
  unscheduled : snapshots c.engine.queue = []
  settled : c.engine.guard.hasPending = false
  reported : saves c.engine.events = []

/-! ## §2. The invariant. -/

/-- What ties the mark of a document to the writes; `told` is what they have
come to, and `n` counts the edits. -/
structure Marked (holds : String → σ → Prop) (first : σ) (c : Circuit σ) (told : List SaveEvent)
    (n : Nat) : Prop where
  saving : Saving holds first c.session.document.text c.session.document.revision
    c.engine.guard.committer (snapshots c.engine.queue) c.stored told
  counted : c.session.document.revision.toNat = n
  fresh : c.session.document.revision = 0 → c.session.document.saved = true
  marked : c.session.document.saved = true → c.session.document.revision = 0
    ∨ .saved c.session.document.revision ∈ told
  /-- A write of the latest revision is known, or its report is on its way. -/
  noted : .saved c.session.document.revision ∈ told → c.session.document.saved = true
    ∨ .saved c.session.document.revision ∈ saves c.engine.events
  heard : ∀ r, .saved r ∈ saves c.engine.events → .saved r ∈ told

variable {holds : String → σ → Prop} {first : σ} {c : Circuit σ} {told : List SaveEvent} {n : Nat}

/-- A message that is neither a start, nor an edit, nor a report leaves the
document and its saving alone. -/
theorem Marked.other {m : Message} (h : Marked holds first c told n)
    (hd : c.session.document.after m = c.session.document)
    (hm : ∀ text, m ≠ .documentEdited text) : Marked holds first (c.react m) told n := by
  have hdoc : (update c.session m).1.document = c.session.document := by
    rw [update_document, hd]
  have hsnap : snapshots (c.engine.queue ++ (update c.session m).2.map Engine.Command.ofEffect)
      = snapshots c.engine.queue := by
    rw [Engine.snapshots_append, Engine.update_snapshots]
    cases m with
    | documentEdited text => exact absurd rfl (hm text)
    | _ => exact List.append_nil _
  rw [Circuit.react_eq]
  refine ⟨?_, ?_, ?_, ?_, ?_, h.heard⟩
  · rw [hdoc]
    show Saving holds first _ _ _ (snapshots (c.engine.queue ++ _)) c.stored told
    rw [hsnap]
    exact h.saving
  · rw [hdoc]
    exact h.counted
  · rw [hdoc]
    exact h.fresh
  · rw [hdoc]
    exact h.marked
  · rw [hdoc]
    exact h.noted

/-! ## §3. Every move keeps it. -/

theorem Marked.edit (h : Marked holds first c told n) (hn : n + 1 < 2 ^ 64) (text : String) :
    Marked holds first (c.react (.documentEdited text)) told (n + 1) := by
  have hr : c.session.document.revision.toNat + 1 < 2 ^ 64 := by
    rw [h.counted]
    exact hn
  have hlater := Engine.lt_succ hr
  -- the new revision is neither the first nor one that was written
  have hnew : c.session.document.revision + 1 ≠ 0 := by
    intro h0
    rw [h0] at hlater
    exact absurd hlater (UInt64.not_lt.2 (UInt64.zero_le))
  have hunwritten : .saved (c.session.document.revision + 1) ∉ told := by
    intro htold
    obtain ⟨_, last, hlast, hle⟩ := h.saving.heard _ htold
    have hback := UInt64.le_trans hle (h.saving.committed last hlast).1
    exact absurd (UInt64.lt_of_lt_of_le hlater hback) (UInt64.lt_irrefl _)
  rw [Circuit.react_eq]
  refine ⟨?_, ?_, ?_, ?_, ?_, h.heard⟩
  · show Saving holds first text (c.session.document.revision + 1) _
      (snapshots (c.engine.queue ++ _)) c.stored told
    rw [Engine.snapshots_append]
    exact h.saving.edit hr text
  · show (c.session.document.revision + 1).toNat = n + 1
    rw [Engine.toNat_succ hr, h.counted]
  · intro h0
    exact absurd h0 hnew
  · intro hs
    cases hs
  · intro htold
    exact absurd htold hunwritten

theorem saved_mem_cons {event : Event} {events : List Event} {r : Revision} :
    .saved r ∈ saves (event :: events) ↔ event = .documentSaved r ∨ .saved r ∈ saves events := by
  cases event with
  | documentSaved revision =>
    show _ ∈ _ :: saves events ↔ _
    simp [eq_comm]
  | documentSaveFailed revision message =>
    show _ ∈ _ :: saves events ↔ _
    simp
  | _ =>
    show _ ∈ saves events ↔ _
    simp

/-- A report that is delivered sets the mark only if it is about the latest
revision, which then was written. -/
theorem Marked.report (h : Marked holds first c told n) {r : Revision} {events : List Event}
    (he : c.engine.events = .documentSaved r :: events) :
    Marked holds first
      (({ c with engine := { c.engine with events } } : Circuit σ).react (.documentSaved r))
      told n := by
  have hheard : ∀ x, .saved x ∈ saves events → .saved x ∈ told := by
    intro x hx
    refine h.heard x ?_
    rw [he]
    exact saved_mem_cons.2 (Or.inr hx)
  have hsaved : .saved r ∈ told := by
    refine h.heard r ?_
    rw [he]
    exact saved_mem_cons.2 (Or.inl rfl)
  have hdoc : (update c.session (.documentSaved r)).1.document
      = { c.session.document with
          saved := c.session.document.saved || r = c.session.document.revision } := by
    rw [update_document]
    rfl
  have hsnap : snapshots (c.engine.queue ++ []) = snapshots c.engine.queue := by
    rw [List.append_nil]
  rw [Circuit.react_eq]
  refine ⟨?_, ?_, ?_, ?_, ?_, ?_⟩
  · rw [hdoc]
    show Saving holds first _ _ _ (snapshots (c.engine.queue ++ [])) c.stored told
    rw [hsnap]
    exact h.saving
  · rw [hdoc]
    exact h.counted
  · -- a mark is never taken away by a report
    intro h0
    rw [hdoc] at h0 ⊢
    show (c.session.document.saved || _) = true
    rw [h.fresh h0, Bool.true_or]
  · intro hs
    rw [hdoc] at hs ⊢
    rcases Bool.or_eq_true_iff.1 hs with hs | hr
    · exact h.marked hs
    · rw [decide_eq_true_iff] at hr
      exact Or.inr (hr ▸ hsaved)
  · -- the report of the latest revision is this one, or it is still to come
    intro htold
    rw [hdoc] at htold ⊢
    show (c.session.document.saved || _) = true ∨ _ ∈ saves events
    rcases h.noted htold with hs | hin
    · exact Or.inl (by rw [hs, Bool.true_or])
    · rw [he, saved_mem_cons] at hin
      rcases hin with hr | hin
      · injection hr with hr
        exact Or.inl (by simp [hr])
      · exact Or.inr hin
  · exact hheard

/-- An event that reports no write can be taken away. -/
theorem Marked.drop (h : Marked holds first c told n) {event : Event} {events : List Event}
    (he : c.engine.events = event :: events) (hr : ∀ r, event ≠ .documentSaved r) :
    Marked holds first { c with engine := { c.engine with events } } told n := by
  have hsame : ∀ r, .saved r ∈ saves c.engine.events ↔ .saved r ∈ saves events := by
    intro r
    rw [he, saved_mem_cons]
    simp [hr r]
  refine ⟨h.saving, h.counted, h.fresh, h.marked, ?_, ?_⟩
  · intro htold
    rw [← hsame]
    exact h.noted htold
  · intro r hr
    exact h.heard r ((hsame r).2 hr)

theorem Marked.engine {store : Store σ} (h : Marked holds first c told n)
    (hput : ∀ v s s', store.put documentKey v s = (.ok (), s') → holds v s') (m : Engine.Move) :
    Marked holds first (c.step store (.engine m)) (told ++ c.engine.written store c.stored m)
      n := by
  have hm := Engine.step_moves c.engine store c.stored m
  have hevents : saves (c.engine.step store c.stored m).1.events
      = saves c.engine.events ++ c.engine.written store c.stored m := by
    rw [Engine.step_events_eq, Engine.saves_append]
    rfl
  refine ⟨h.saving.moves hput hm, h.counted, h.fresh, ?_, ?_, ?_⟩
  · intro hs
    rcases h.marked hs with h0 | htold
    · exact Or.inl h0
    · exact Or.inr (List.mem_append_left _ htold)
  · -- what is written now is reported behind everything else
    intro htold
    show _ ∨ _ ∈ saves (c.engine.step store c.stored m).1.events
    rw [hevents]
    rcases List.mem_append.1 htold with htold | hnow
    · rcases h.noted htold with hs | he
      · exact Or.inl hs
      · exact Or.inr (List.mem_append_left _ he)
    · exact Or.inr (List.mem_append_right _ hnow)
  · intro r hr
    change _ ∈ saves (c.engine.step store c.stored m).1.events at hr
    rw [hevents] at hr
    rcases List.mem_append.1 hr with he | hnow
    · exact List.mem_append_left _ (h.heard r he)
    · exact List.mem_append_right _ hnow

theorem ofEvent_documentSaved {now : UInt64} {event : Event} {r : Revision}
    (h : Incoming.ofEvent now event = some (.message (.documentSaved r))) :
    event = .documentSaved r := by
  cases event with
  | templatesListed result => cases result <;> simp [Incoming.ofEvent] at h
  | documentSaved revision =>
    simp only [Incoming.ofEvent, Option.some.injEq, Incoming.message.injEq,
      Message.documentSaved.injEq] at h
    rw [h]
  | _ => simp [Incoming.ofEvent] at h

theorem Marked.deliver (h : Marked holds first c told n) {event : Event} {events : List Event}
    (he : c.engine.events = event :: events) (now : UInt64) :
    Marked holds first
      (({ c with engine := { c.engine with events } } : Circuit σ).receive now event) told n := by
  by_cases hsaved : ∃ r, event = .documentSaved r
  · obtain ⟨r, rfl⟩ := hsaved
    exact h.report he
  · have hdrop := h.drop he (fun r hr => hsaved ⟨r, hr⟩)
    unfold Circuit.receive
    split
    · next m hm =>
      -- an answer that is no report leaves the document as it is
      have hwish := Circuit.ofEvent_isWish hm
      refine hdrop.other ?_ ?_
      · cases m with
        | documentSaved r => exact absurd ⟨r, ofEvent_documentSaved hm⟩ hsaved
        | sessionStarted text => cases hwish
        | documentEdited text => cases hwish
        | _ => rfl
      · intro text ht
        rw [ht] at hwish
        cases hwish
    · exact hdrop

theorem step_marked {store : Store σ} (h : Marked holds first c told n)
    (hput : ∀ v s s', store.put documentKey v s = (.ok (), s') → holds v s')
    {m : Circuit.Move} (hstart : ∀ text, m ≠ .wish (.sessionStarted text))
    (hn : n + (if m.isEdit then 1 else 0) < 2 ^ 64) :
    Marked holds first (c.step store m) (told ++ c.written store m)
      (n + if m.isEdit then 1 else 0) := by
  cases m with
  | wish m =>
    show Marked holds first (c.step store (.wish m)) (told ++ []) _
    rw [List.append_nil]
    by_cases hw : m.isWish = true
    · simp only [Circuit.step, hw, if_true]
      cases m with
      | documentEdited text => exact h.edit hn text
      | sessionStarted text => exact absurd rfl (hstart text)
      | documentSaved r => cases hw
      | _ => exact h.other rfl (by simp)
    · simp only [Circuit.step, hw]
      -- what is no wish is not sent, and is not counted either
      have hedit : Circuit.Move.isEdit (.wish m) = false := by
        cases m <;> first | rfl | exact absurd rfl hw
      rw [hedit]
      exact h
  | flush =>
    show Marked holds first (c.step store .flush) (told ++ []) n
    rw [List.append_nil]
    refine ⟨?_, h.counted, h.fresh, h.marked, h.noted, h.heard⟩
    show Saving holds first _ _ _ (snapshots (c.engine.queue ++ [.flush])) c.stored told
    rw [Engine.snapshots_flush]
    exact h.saving
  | engine move => exact h.engine hput move
  | deliver now =>
    show Marked holds first (c.step store (.deliver now)) (told ++ []) n
    rw [List.append_nil]
    simp only [Circuit.step]
    cases he : c.engine.events with
    | nil =>
      simp only [Engine.take?, he]
      exact h
    | cons event events =>
      simp only [Engine.take?, he]
      exact h.deliver he now
  | look =>
    show Marked holds first (c.step store .look) (told ++ []) n
    rw [List.append_nil]
    exact ⟨h.saving, h.counted, h.fresh, h.marked, h.noted, h.heard⟩

theorem run_marked {store : Store σ} (h : Marked holds first c told n)
    (hput : ∀ v s s', store.put documentKey v s = (.ok (), s') → holds v s')
    {moves : List Circuit.Move} (hstart : ∀ text, .wish (.sessionStarted text) ∉ moves)
    (hn : n + edits moves < 2 ^ 64) :
    Marked holds first (c.run store moves) (told ++ c.writes store moves) (n + edits moves) := by
  induction moves generalizing c told n with
  | nil =>
    show Marked holds first c (told ++ []) n
    rw [List.append_nil]
    exact h
  | cons m moves ih =>
    rw [edits, List.countP_cons, ← edits] at hn ⊢
    have hm : ∀ text, m ≠ .wish (.sessionStarted text) := by
      intro text heq
      exact hstart text (heq ▸ List.mem_cons_self)
    have hrest : ∀ text, .wish (.sessionStarted text) ∉ moves :=
      fun text hmem => hstart text (List.mem_cons_of_mem _ hmem)
    have hstep := step_marked h hput hm (by omega)
    have hrun := ih hstep hrest (by omega)
    rw [show n + (edits moves + if m.isEdit then 1 else 0)
      = n + (if m.isEdit then 1 else 0) + edits moves by omega]
    rw [List.append_assoc] at hrun
    exact hrun

/-! ## §4. What the mark says. -/

theorem start_marked (template document : String) (delay : Duration) (stored : σ) :
    Marked holds stored
      ((Circuit.begin template { delay } stored).react (.sessionStarted document)) [] 0 where
  saving := Saving.start holds stored document
  counted := rfl
  fresh := fun _ => rfl
  marked := fun _ => Or.inl rfl
  noted := by simp
  heard := by simp [Circuit.react_eq, Circuit.begin, saves]

/-- A marked document is the one that was written last. -/
theorem Marked.holds_text (h : Marked holds first c told n)
    (hs : c.session.document.saved = true) :
    n = 0 ∨ holds c.session.document.text c.stored := by
  rcases h.marked hs with h0 | htold
  · refine Or.inl ?_
    rw [← h.counted, h0]
    rfl
  · exact Or.inr (h.saving.holding (h.saving.committed_of_saved htold))

/-- When nothing is on its way, the mark is there exactly if it should be. -/
theorem Marked.saved_iff (h : Marked holds first c told n) (hc : c.Calm) :
    c.session.document.saved = true ↔ n = 0 ∨ .saved c.session.document.revision ∈ told := by
  have hzero : n = 0 ↔ c.session.document.revision = 0 := by
    rw [← h.counted, ← UInt64.toNat_inj]
    rfl
  rw [hzero]
  constructor
  · exact h.marked
  · rintro (h0 | htold)
    · exact h.fresh h0
    · rcases h.noted htold with hs | hevent
      · exact hs
      · -- a report that is on its way contradicts the calm
        rw [hc.reported] at hevent
        exact absurd hevent List.not_mem_nil

/-- When nothing is on its way, a write of the latest revision was tried. -/
theorem Marked.tried (h : Marked holds first c told n) (hc : c.Calm) :
    n = 0 ∨ .saved c.session.document.revision ∈ told
      ∨ ∃ message, .saveFailed c.session.document.revision message ∈ told := by
  have hway : onTheWay c.engine.guard.committer (snapshots c.engine.queue) = [] :=
    Engine.onTheWay_nil hc.unscheduled hc.settled
  rcases h.saving.tried_of_settled hway with h0 | htold
  · refine Or.inl ?_
    rw [← h.counted, h0]
    rfl
  · exact Or.inr htold

/-- **A document that is marked as saved was written last, as it is**, unless
it was never edited.  When nothing is on its way any more, the latest revision
was tried, and the mark is there exactly if that write has succeeded.  The
saves that are reported are the puts that have succeeded, one for one: each is
of a text that the document had, under its revision.
Revisions are numbers of 64 bits, so the edits are bounded. -/
theorem saved_is_stored (store : Store σ) (template document : String) (delay : Duration)
    (stored : σ) (moves : List Circuit.Move)
    (hstart : ∀ text, .wish (.sessionStarted text) ∉ moves) (hedits : edits moves < 2 ^ 64) :
    let start := (Circuit.begin template { delay } (stored, [])).react (.sessionStarted document)
    let c := start.run store.recording moves
    let writes := start.writes store.recording moves
    c.unrecorded = start.unrecorded.run store moves
      ∧ (c.session.view.saved = true →
        edits moves = 0 ∨ c.stored.2.getLast? = some (documentKey, c.session.document.text))
      ∧ (c.Calm → (c.session.view.saved = true ↔
          edits moves = 0 ∨ .saved c.session.document.revision ∈ writes))
      ∧ (c.Calm → edits moves = 0 ∨ .saved c.session.document.revision ∈ writes
          ∨ ∃ message, .saveFailed c.session.document.revision message ∈ writes)
      ∧ ∃ puts : List Snapshot,
          c.stored.2 = puts.map (fun p => (documentKey, p.content))
            ∧ writes.filterMap SaveEvent.saved? = puts.map Snapshot.revision
            ∧ ∀ p ∈ puts, ∃ before, before <+: moves
              ∧ (start.run store.recording before).session.document.revision = p.revision
              ∧ (start.run store.recording before).session.document.text = p.content := by
  intro start c writes
  have hbegin : Marked Record.endsWith (stored, []) start [] 0 :=
    start_marked template document delay (stored, [])
  have hput : ∀ v s s', store.recording.put documentKey v s = (.ok (), s') →
      Record.endsWith v s' := fun v s s' => recording_endsWith
  have hrun := run_marked hbegin hput hstart (by omega)
  rw [Nat.zero_add, List.nil_append] at hrun
  have hidle : start.engine.way = [] := rfl
  obtain ⟨puts, hputs, hknown⟩ := Circuit.run_puts store hidle moves
  refine ⟨Circuit.run_recording store start moves, hrun.holds_text, hrun.saved_iff, hrun.tried, puts,
    hputs.record, hputs.reported, fun p hp => ?_⟩
  obtain ⟨before, hfront, rfl⟩ := hknown p (List.mem_append_left _ hp)
  exact ⟨before, hfront, rfl, rfl⟩

/-- An edit that is written and reported is marked. -/
theorem edit_is_stored :
    let moves : List Circuit.Move := [.wish (.documentEdited "b"), .engine (.pickUp .zero),
      .engine (.pickUp .zero), .deliver 0]
    let start := (Circuit.begin "t" { delay := .zero } ([], [])).react (.sessionStarted "a")
    let c := start.run memoryStore.recording moves
    c.session.view.saved = true ∧ c.session.document.text = "b" ∧ c.Calm
      ∧ c.stored.2.getLast? = some (documentKey, "b")
      ∧ .saved 1 ∈ start.writes memoryStore.recording moves := by
  intro moves start c
  obtain ⟨_, hstored, hmark, _⟩ := saved_is_stored memoryStore "t" "a" .zero [] moves (by simp [moves])
    (by decide)
  have hsaved : c.session.view.saved = true := by decide
  have hcalm : c.Calm := ⟨by decide, by decide, by decide⟩
  have hedited : edits moves ≠ 0 := by decide
  refine ⟨hsaved, by decide, hcalm, ?_, ?_⟩
  · exact (hstored hsaved).resolve_left hedited
  · exact ((hmark hcalm).1 hsaved).resolve_left hedited

end RenderDesk.Program
