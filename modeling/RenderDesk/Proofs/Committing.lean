/-
  RenderDesk.Proofs.Committing
  ────────────────────────────
  A committer whose two operations are called in any order.

  Timers that were given up may wake late, flushes may come at any time and
  revisions may repeat or go down.  Whatever the order, a snapshot is put only
  while it is the most recent one, at most once, and never after a later
  revision was put.

  Main statements:
    * `commit_steps` — a commit puts the most recent snapshot or nothing;
    * `after_sound` — what holds after every call;
    * `calls_safe` — what all calls together have done.
-/
import Mathlib.Data.List.Induction
import Mathlib.Tactic.ByContra
import RenderDesk.Proofs.Transitions
import RenderDesk.Storage.Shelf

namespace RenderDesk.Storage

open RenderDesk.Session (Revision)

/-! ## §1. Calls. -/

/-- A call of a committer. -/
inductive Call where
  | replace (snapshot : Snapshot)
  | commit (expected : Option Revision)
  deriving Repr, DecidableEq

/-- A call that neither brings a snapshot nor takes this one, should it wait. -/
def Call.Passes (p : Snapshot) : Call → Prop
  | .replace _ => False
  | .commit expected => ∃ r, expected = some r ∧ p.revision ≠ r

/-- A put, and the snapshots that had come when it was made. -/
structure Attempt where
  before : List Snapshot
  put : Put
  deriving Repr, DecidableEq

namespace Attempt

/-- The most recent snapshot at a put. -/
def latest (a : Attempt) : Option Snapshot := a.before.getLast?

/-- The event that tells what has become of the most recent snapshot. -/
def event? (a : Attempt) : Option SaveEvent :=
  a.latest.map fun p => .of p.revision a.put.failure

/-- The revision of the most recent snapshot, if the put has succeeded. -/
def saved? (a : Attempt) : Option Revision :=
  if a.put.failure = none then a.latest.map Snapshot.revision else none

theorem saved?_event (a : Attempt) : a.event?.bind SaveEvent.saved? = a.saved? := by
  unfold event? saved?
  cases a.latest with
  | none => simp
  | some p => exact SaveEvent.saved?_of p.revision a.put.failure

end Attempt

/-- A committer on a shelf, and what has been seen of it. -/
structure Work where
  committer : Committer := {}
  shelf : Shelf := {}
  replaced : List Snapshot := []
  attempts : List Attempt := []
  events : List SaveEvent := []
  deriving Repr, DecidableEq

namespace Work

/-- A call, seen from outside: the puts of a commit are those that the shelf
has more than before. -/
def step (fails : Nat → Option StorageError) (w : Work) : Call → Work
  | .replace p =>
    { w with committer := w.committer.replace p, replaced := w.replaced ++ [p] }
  | .commit expected =>
    let (committer, events, shelf) := w.committer.commit (Shelf.store fails) expected w.shelf
    { w with
      committer, shelf
      attempts := w.attempts
        ++ (shelf.puts.drop w.shelf.puts.length).map fun put => ⟨w.replaced, put⟩
      events := w.events ++ events }

def after (fails : Nat → Option StorageError) (calls : List Call) : Work :=
  calls.foldl (step fails) {}

/-- The revisions of the puts that have succeeded. -/
def saved (w : Work) : List Revision := w.attempts.filterMap Attempt.saved?

/-! ## §2. One commit. -/

variable {fails : Nat → Option StorageError} {w w' : Work} {expected : Option Revision}

/-- The attempt to put a snapshot. -/
def attempt (fails : Nat → Option StorageError) (w : Work) (p : Snapshot) : Attempt where
  before := w.replaced
  put := ⟨documentKey, p.content, fails w.shelf.puts.length⟩

/-- After a snapshot was put: the committer remembers its revision if the put
has succeeded. -/
def putting (fails : Nat → Option StorageError) (w : Work) (p : Snapshot) : Work where
  committer :=
    { latest := none
      committed :=
        if (w.attempt fails p).put.failure = none then some p.revision
        else w.committer.committed }
  shelf := w.shelf.asked fails documentKey p.content
  replaced := w.replaced
  attempts := w.attempts ++ [w.attempt fails p]
  events := w.events ++ [.of p.revision (w.attempt fails p).put.failure]

/-- What a commit can come to. -/
inductive Steps (fails : Nat → Option StorageError) (expected : Option Revision) (w : Work) :
    Work → Prop where
  /-- There is no put; the slot may have been emptied. -/
  | kept {committer : Committer} :
      committer.committed = w.committer.committed →
      (∀ p, committer.latest = some p → w.committer.latest = some p) →
      Steps fails expected w { w with committer }
  | put {p : Snapshot} :
      w.committer.latest = some p → (∀ r, expected = some r → p.revision = r) →
      (∀ last, w.committer.committed = some last → last < p.revision) →
      Steps fails expected w (w.putting fails p)

theorem step_commit {committer : Committer} {events : List SaveEvent} {shelf : Shelf}
    (h : w.committer.commit (Shelf.store fails) expected w.shelf = (committer, events, shelf)) :
    w.step fails (.commit expected)
      = { committer, shelf
          replaced := w.replaced
          attempts := w.attempts
            ++ (shelf.puts.drop w.shelf.puts.length).map fun put => ⟨w.replaced, put⟩
          events := w.events ++ events } := by
  simp only [step, h]

/-- A commit without a put changes the committer at most. -/
theorem step_unput {committer : Committer}
    (h : w.committer.commit (Shelf.store fails) expected w.shelf = (committer, [], w.shelf)) :
    w.step fails (.commit expected) = { w with committer } := by
  rw [step_commit h]
  simp

/-- A commit that expects another revision leaves everything as it is. -/
theorem step_unexpected {p : Snapshot} {r : Revision} (hlatest : w.committer.latest = some p)
    (hne : p.revision ≠ r) : w.step fails (.commit (some r)) = w := by
  have hother : ∀ q, w.committer.latest = some q → q.revision ≠ r := by
    intro q hq
    rw [hlatest] at hq
    cases hq
    exact hne
  exact step_unput (Committer.commit_unexpected (Shelf.store fails) w.shelf hother)

/-- A commit that finds a snapshot that comes too late drops it. -/
theorem step_superseded {p : Snapshot} (hfound : w.committer.expected? expected = some p)
    (hold : w.committer.superseded p.revision = true) :
    w.step fails (.commit expected)
      = { w with committer := { w.committer with latest := none } } := by
  have hcommit : w.committer.commit (Shelf.store fails) expected w.shelf
      = ({ w.committer with latest := none }, [], w.shelf) := by
    simp only [Committer.commit, hfound, hold, if_true]
  exact step_unput hcommit

/-- A commit that finds a snapshot later than what it has written puts it. -/
theorem step_put {p : Snapshot} (hfound : w.committer.expected? expected = some p)
    (hnew : w.committer.superseded p.revision = false) :
    w.step fails (.commit expected) = w.putting fails p := by
  have hcommit : w.committer.commit (Shelf.store fails) expected w.shelf
      = ((w.putting fails p).committer, [.of p.revision (fails w.shelf.puts.length)],
        w.shelf.asked fails documentKey p.content) := by
    rw [commit_write hfound hnew, write_shelf, SaveEvent.saved?_of, putting, attempt]
    cases fails w.shelf.puts.length <;> rfl
  rw [step_commit hcommit]
  simp [Shelf.asked, putting, attempt]

/-- **A commit puts what is in the slot, if that is what is expected, or nothing.** -/
theorem commit_steps (fails : Nat → Option StorageError) (w : Work) (expected : Option Revision) :
    Steps fails expected w (w.step fails (.commit expected)) := by
  cases hfound : w.committer.expected? expected with
  | none =>
    have hcommit : w.committer.commit (Shelf.store fails) expected w.shelf
        = (w.committer, [], w.shelf) := by
      simp only [Committer.commit, hfound]
    rw [step_unput hcommit]
    exact .kept rfl fun _ h => h
  | some p =>
    have hlatest := expected?_latest hfound
    cases hsuperseded : w.committer.superseded p.revision with
    | true =>
      rw [step_superseded hfound hsuperseded]
      exact .kept rfl (by rintro _ ⟨⟩)
    | false =>
      have hrevision : ∀ r, expected = some r → p.revision = r := by
        rintro r rfl
        by_contra hne
        simp [Committer.expected?, hlatest, hne] at hfound
      rw [step_put hfound hsuperseded]
      exact .put hlatest hrevision (not_superseded (by simp [hsuperseded]))

/-- What is in the slot is found by a commit that expects its revision, or any. -/
theorem expected?_slot {p : Snapshot} (hlatest : w.committer.latest = some p)
    (hrevision : ∀ r, expected = some r → p.revision = r) :
    w.committer.expected? expected = some p := by
  cases expected with
  | none => simp [Committer.expected?, hlatest]
  | some r => simp [Committer.expected?, hlatest, hrevision r rfl]

/-- Whether or not it is put, it is in the slot no more. -/
theorem step_emptied {p : Snapshot} (hlatest : w.committer.latest = some p)
    (hrevision : ∀ r, expected = some r → p.revision = r) :
    (w.step fails (.commit expected)).committer.latest = none := by
  have hfound := expected?_slot hlatest hrevision
  cases hsuperseded : w.committer.superseded p.revision with
  | true => rw [step_superseded hfound hsuperseded]
  | false =>
    rw [step_put hfound hsuperseded]
    rfl

/-- Calls that pass a snapshot by leave everything as it is. -/
theorem foldl_passed {p : Snapshot} (hlatest : w.committer.latest = some p) {later : List Call}
    (hlater : ∀ call ∈ later, call.Passes p) : later.foldl (step fails) w = w := by
  induction later with
  | nil => rfl
  | cons call later ih =>
    have hstep : w.step fails call = w := by
      have hcall := hlater call List.mem_cons_self
      cases call with
      | replace _ => cases hcall
      | commit expected =>
        obtain ⟨r, rfl, hne⟩ := hcall
        exact step_unexpected hlatest hne
    rw [List.foldl_cons, hstep]
    exact ih fun call hmem => hlater call (List.mem_cons_of_mem _ hmem)

/-! ## §3. All calls. -/

/-- What holds after every call. -/
structure Sound (w : Work) : Prop where
  /-- What is in the slot is the most recent snapshot, and was not put. -/
  slot : ∀ p, w.committer.latest = some p → w.replaced.getLast? = some p
    ∧ ∀ a ∈ w.attempts, a.before.length < w.replaced.length
  before : ∀ a ∈ w.attempts, a.before <+: w.replaced
  /-- Between any two puts a snapshot has come. -/
  once : (w.attempts.map (·.before.length)).Pairwise (· < ·)
  latest : ∀ a ∈ w.attempts,
    a.put.key = documentKey ∧ a.latest.map Snapshot.content = some a.put.text
  /-- There is one event for each put, of the revision of the most recent
  snapshot. -/
  told : w.events.map some = w.attempts.map Attempt.event?
  /-- The attempts are all puts that there were. -/
  puts : w.attempts.map (·.put) = w.shelf.puts
  increasing : w.saved.Pairwise (· < ·)
  committed : w.committer.committed = w.saved.getLast?

theorem putting_saved (fails : Nat → Option StorageError) {p : Snapshot}
    (hp : w.replaced.getLast? = some p) :
    (w.putting fails p).saved
      = w.saved ++ if (w.attempt fails p).put.failure = none then [p.revision] else [] := by
  have hlatest : (w.attempt fails p).latest = some p := hp
  show (w.attempts ++ [w.attempt fails p]).filterMap Attempt.saved? = _
  rw [List.filterMap_append]
  refine congrArg (w.saved ++ ·) ?_
  cases hfailure : (w.attempt fails p).put.failure <;> simp [Attempt.saved?, hlatest, hfailure]

/-- What is later than the last revision that was put is later than all. -/
theorem Sound.below (h : w.Sound) {revision : Revision} :
    (∀ last, w.committer.committed = some last → last < revision)
      ↔ ∀ r ∈ w.saved, r < revision := by
  rw [h.committed]
  constructor
  · intro hlater r hr
    have hincreasing := h.increasing
    obtain ⟨front, last, hsaved⟩ :=
      (List.eq_nil_or_concat w.saved).resolve_left (List.ne_nil_of_mem hr)
    rw [List.concat_eq_append] at hsaved
    rw [hsaved] at hr hlater hincreasing
    have hlast := hlater last List.getLast?_concat
    rcases List.mem_append.1 hr with hr | hr
    · have hlt := (List.pairwise_append.1 hincreasing).2.2 r hr last List.mem_cons_self
      exact UInt64.lt_trans hlt hlast
    · exact List.mem_singleton.1 hr ▸ hlast
  · intro hbelow last hlast
    exact hbelow last (List.mem_of_getLast? hlast)

theorem Sound.new : Sound {} where
  slot := by rintro _ ⟨⟩
  before := by rintro _ ⟨⟩
  once := .nil
  latest := by rintro _ ⟨⟩
  told := rfl
  puts := rfl
  increasing := .nil
  committed := rfl

theorem Sound.replace (h : w.Sound) (p : Snapshot) : (w.step fails (.replace p)).Sound where
  slot := by
    intro q hq
    refine ⟨?_, fun a ha => ?_⟩
    · show (w.replaced ++ [p]).getLast? = some q
      rw [List.getLast?_concat]
      exact hq
    · show a.before.length < (w.replaced ++ [p]).length
      rw [List.length_append]
      exact Nat.lt_succ_of_le (h.before a ha).length_le
  before := fun a ha => (h.before a ha).trans (List.prefix_append _ _)
  once := h.once
  latest := h.latest
  told := h.told
  puts := h.puts
  increasing := h.increasing
  committed := h.committed

theorem Sound.commit (h : w.Sound) (hw : Steps fails expected w w') : w'.Sound := by
  cases hw with
  | kept hcommitted hlatest =>
    exact
      { h with
        slot := fun p hp => h.slot p (hlatest p hp)
        committed := hcommitted.trans h.committed }
  | @put p hlatest hrevision hlater =>
    obtain ⟨hrecent, hnew⟩ := h.slot p hlatest
    have hsaved := putting_saved fails hrecent
    exact
      { slot := by rintro _ ⟨⟩
        before := by
          intro a ha
          rcases List.mem_append.1 ha with ha | ha
          · exact h.before a ha
          · obtain rfl := List.mem_singleton.1 ha
            exact List.prefix_rfl
        once := by
          show (List.map _ (w.attempts ++ [w.attempt fails p])).Pairwise _
          rw [List.map_append, List.pairwise_append]
          refine ⟨h.once, List.pairwise_singleton _ _, ?_⟩
          simpa [attempt] using hnew
        latest := by
          intro a ha
          rcases List.mem_append.1 ha with ha | ha
          · exact h.latest a ha
          · rw [List.mem_singleton.1 ha]
            exact ⟨rfl, by simp [attempt, Attempt.latest, hrecent]⟩
        told := by
          simp [putting, attempt, h.told, Attempt.event?, Attempt.latest, hrecent]
        puts := by
          simp [putting, attempt, h.puts, Shelf.asked]
        increasing := by
          rw [hsaved]
          split
          · rw [List.pairwise_append]
            exact ⟨h.increasing, List.pairwise_singleton _ _, by simpa using h.below.1 hlater⟩
          · rw [List.append_nil]
            exact h.increasing
        committed := by
          rw [hsaved]
          show (if _ then _ else _) = _
          split
          · rw [List.getLast?_concat]
          · rw [List.append_nil]
            exact h.committed }

theorem after_sound (fails : Nat → Option StorageError) (calls : List Call) :
    (after fails calls).Sound := by
  induction calls using List.reverseRecOn with
  | nil => exact .new
  | append_singleton calls call ih =>
    have hstep : after fails (calls ++ [call]) = (after fails calls).step fails call := by
      simp [after]
    rw [hstep]
    cases call with
    | replace p => exact ih.replace p
    | commit expected => exact ih.commit (commit_steps fails _ expected)

/-- What is known of a committer after some calls, beside what holds after each
of them. -/
structure Safe (fails : Nat → Option StorageError) (w : Work) : Prop extends w.Sound where
  /-- A snapshot that comes is in the slot, -/
  arrived : ∀ p, (w.step fails (.replace p)).committer.latest = some p
  /-- stays there until another one comes or a commit takes it, -/
  held : ∀ (p : Snapshot) (later : List Call), w.committer.latest = some p →
    (∀ call ∈ later, call.Passes p) →
    (later.foldl (step fails) w).committer.latest = some p
  /-- and is taken by a commit that expects its revision, or any. -/
  emptied : ∀ expected p, w.committer.latest = some p →
    (∀ r, expected = some r → p.revision = r) →
    (w.step fails (.commit expected)).committer.latest = none
  /-- A commit that expects a revision puts a snapshot of that revision, if it
  puts any. -/
  expected : ∀ r, (w.step fails (.commit (some r))).attempts = w.attempts
    ∨ ∃ p put, w.replaced.getLast? = some p ∧ p.revision = r
      ∧ (w.step fails (.commit (some r))).attempts = w.attempts ++ [⟨w.replaced, put⟩]
  /-- A commit that expects another revision leaves a snapshot in the slot. -/
  left : ∀ r p, w.committer.latest = some p → p.revision ≠ r →
    w.step fails (.commit (some r)) = w
  /-- Any other commit puts what is in the slot, unless that revision or a later
  one was put before. -/
  taken : ∀ expected p, w.committer.latest = some p →
    (∀ r, expected = some r → p.revision = r) → (∀ r ∈ w.saved, r < p.revision) →
    w.step fails (.commit expected) = w.putting fails p
  listed : w.events.filterMap SaveEvent.saved? = w.saved

/-- **A committer is safe under any order of calls**, whichever of the puts fail. -/
theorem calls_safe (fails : Nat → Option StorageError) (calls : List Call) :
    Safe fails (after fails calls) := by
  have h := after_sound fails calls
  exact
    { h with
      expected := by
        intro r
        have hsteps := commit_steps fails (after fails calls) (some r)
        generalize (after fails calls).step fails (.commit (some r)) = w' at hsteps ⊢
        cases hsteps with
        | kept => exact .inl rfl
        | @put p hlatest hrevision =>
          exact .inr ⟨p, _, (h.slot p hlatest).1, hrevision r rfl, rfl⟩
      arrived := fun _ => rfl
      held := by
        intro p later hlatest hlater
        rw [foldl_passed hlatest hlater]
        exact hlatest
      emptied := fun _ _ => step_emptied
      left := fun _ _ => step_unexpected
      taken := by
        intro expected p hlatest hrevision hbelow
        exact step_put (expected?_slot hlatest hrevision) (superseded_of_lt (h.below.2 hbelow))
      listed := by
        calc (after fails calls).events.filterMap SaveEvent.saved?
          _ = ((after fails calls).events.map some).filterMap (·.bind SaveEvent.saved?) := by
            rw [List.filterMap_map]
            rfl
          _ = ((after fails calls).attempts.map Attempt.event?).filterMap
                (·.bind SaveEvent.saved?) := by
            rw [h.told]
          _ = (after fails calls).saved := by
            rw [List.filterMap_map]
            exact congrArg (List.filterMap · _) (funext Attempt.saved?_event) }

end Work

end RenderDesk.Storage
