/-
  RenderDesk.Storage.Guard
  ────────────────────────
  Debounced saving: of a burst of edits only the last one is written.

  Every scheduled snapshot replaces the one before and starts the timer
  anew; when the timer is due, the snapshot is written.  Without a delay it
  is written at once.  A flush writes it now.

  Main statements:
    * `flush_pending` — after a flush nothing waits;
    * `advance_early` — before the timer is due nothing is written.
-/
import RenderDesk.Duration
import RenderDesk.Storage.Committer

namespace RenderDesk.Storage

open RenderDesk.Session (Revision)

/-! ## §1. Guards. -/

/-- A moment at which a revision is to be written. -/
structure Timer where
  due : Duration
  revision : Revision
  deriving Repr, DecidableEq

structure Guard where
  /-- How long an edit waits for a later one. -/
  delay : Duration
  committer : Committer := {}
  timer : Option Timer := none
  deriving Repr, DecidableEq

namespace Guard

def hasPending (g : Guard) : Bool := g.committer.hasPending

/-- Lets the committer write, whatever the timer says. -/
def commit (g : Guard) (store : Store σ) (expected : Option Revision) (s : σ) :
    Guard × List SaveEvent × σ :=
  let (committer, events, s) := g.committer.commit store expected s
  ({ g with committer }, events, s)

/-- Takes in a new snapshot, at a moment. -/
def schedule (g : Guard) (store : Store σ) (now : Duration) (snapshot : Snapshot) (s : σ) :
    Guard × List SaveEvent × σ :=
  let g := { g with committer := g.committer.replace snapshot, timer := none }
  if g.delay = .zero then g.commit store (some snapshot.revision) s
  else ({ g with timer := some ⟨now + g.delay, snapshot.revision⟩ }, [], s)

/-- Writes what waits, now. -/
def flush (g : Guard) (store : Store σ) (s : σ) : Guard × List SaveEvent × σ :=
  { g with timer := none }.commit store none s

/-- The timer that was started for a revision wakes, be it this guard's or one
that a later edit has replaced. -/
def wake (g : Guard) (store : Store σ) (revision : Revision) (s : σ) :
    Guard × List SaveEvent × σ :=
  { g with timer := g.timer.filter (·.revision ≠ revision) }.commit store (some revision) s

/-- Lets time pass up to a moment. -/
def advance (g : Guard) (store : Store σ) (now : Duration) (s : σ) :
    Guard × List SaveEvent × σ :=
  match g.timer with
  | some timer =>
    if timer.due ≤ now then g.wake store timer.revision s else (g, [], s)
  | none => (g, [], s)

/-! ## §2. Laws. -/

theorem flush_pending (g : Guard) (store : Store σ) (s : σ) :
    (g.flush store s).1.hasPending = false := by
  have he : g.committer.expected? none = g.committer.latest := by
    unfold Committer.expected?
    cases g.committer.latest <;> rfl
  simp only [flush, commit, hasPending, Committer.hasPending, Committer.commit, he]
  cases hl : g.committer.latest with
  | none => simp [hl]
  | some snapshot =>
    simp only
    split
    · rfl
    · split <;> rfl

theorem advance_early {g : Guard} {timer : Timer} {now : Duration} (ht : g.timer = some timer)
    (h : ¬timer.due ≤ now) (store : Store σ) (s : σ) : g.advance store now s = (g, [], s) := by
  simp [advance, ht, h]

end Guard

end RenderDesk.Storage
