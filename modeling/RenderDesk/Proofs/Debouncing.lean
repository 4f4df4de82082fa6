/-
  RenderDesk.Proofs.Debouncing
  ────────────────────────────
  Which snapshots of a document a guard writes, and when.

  The guard keeps a slot, a timer and the last revision that it has written.
  What comes of it can be told without them: a snapshot is written if no later
  one comes before its delay is over, or if a flush comes first.  A script of
  edits, sleeps and flushes is cut into episodes, one for each snapshot with
  what happens until the next one, and every episode is judged by itself.

  Time passes by the nanosecond, and the timer is looked at each time.

  Main statements:
    * `sleep_early`, `sleep_due` — a sleep wakes the timer at its moment, or
      leaves it alone;
    * `run_follows` — a guard does to any store what writing the snapshots of
      the due episodes, one after another, does to it;
    * `debounced` — which puts that are, whichever of them fail.
-/
import Mathlib.Data.List.Induction
import Mathlib.Data.List.Nodup
import RenderDesk.Proofs.Transitions
import RenderDesk.Storage.Shelf

namespace RenderDesk

namespace Storage

open RenderDesk.Session (Revision)

/-! ## §1. A guard on watch. -/

/-- What is done to a guard, one thing after another. -/
inductive Step where
  | schedule (snapshot : Snapshot)
  | sleep (span : Duration)
  | flush
  deriving Repr, DecidableEq

/-- A guard at a moment, with its store and the events so far, each with the
moment at which it came. -/
structure Watch (σ : Type) where
  guard : Guard
  clock : Duration := .zero
  stored : σ
  log : List (Duration × SaveEvent) := []

namespace Watch

variable {σ : Type}

/-- Takes in what the guard has done at this moment. -/
def take (w : Watch σ) (outcome : Guard × List SaveEvent × σ) : Watch σ :=
  { w with
    guard := outcome.1
    stored := outcome.2.2
    log := w.log ++ outcome.2.1.map fun event => (w.clock, event) }

/-- A nanosecond passes, and the timer wakes if it is due. -/
def tick (store : Store σ) (w : Watch σ) : Watch σ :=
  ({ w with clock := w.clock + ⟨1⟩ } : Watch σ).take
    (w.guard.advance store (w.clock + ⟨1⟩) w.stored)

/-- Some nanoseconds pass. -/
def sleep (store : Store σ) : Nat → Watch σ → Watch σ
  | 0, w => w
  | n + 1, w => (w.tick store).sleep store n

def step (store : Store σ) (w : Watch σ) : Step → Watch σ
  | .schedule p => w.take (w.guard.schedule store w.clock p w.stored)
  | .sleep span => w.sleep store span.nanoseconds
  | .flush => w.take (w.guard.flush store w.stored)

def run (store : Store σ) (w : Watch σ) (script : List Step) : Watch σ :=
  script.foldl (step store) w

end Watch

/-! ## §2. Episodes. -/

def Step.snapshot? : Step → Option Snapshot
  | .schedule p => some p
  | .sleep _ | .flush => none

/-- The time that passes over steps. -/
def slept : List Step → Duration
  | [] => .zero
  | .sleep span :: steps => span + slept steps
  | .schedule _ :: steps | .flush :: steps => slept steps

/-- The steps before the next snapshot. -/
def gapOf (steps : List Step) : List Step := steps.takeWhile (·.snapshot?.isNone)

/-- A snapshot, the moment at which it comes, and what happens until the next
one. -/
structure Episode where
  start : Duration
  snapshot : Snapshot
  gap : List Step
  deriving Repr, DecidableEq

/-- The episodes of a script that begins at a moment. -/
def episodes (now : Duration) : List Step → List Episode
  | [] => []
  | .schedule p :: steps => ⟨now, p, gapOf steps⟩ :: episodes now steps
  | .sleep span :: steps => episodes (now + span) steps
  | .flush :: steps => episodes now steps

namespace Episode

/-- The snapshot is to be written: there is no delay, or the delay is over
before the next snapshot, or a flush comes before it. -/
def IsDue (delay : Duration) (e : Episode) : Prop :=
  delay = .zero ∨ delay ≤ slept e.gap ∨ .flush ∈ e.gap

instance (delay : Duration) (e : Episode) : Decidable (e.IsDue delay) :=
  inferInstanceAs (Decidable (_ ∨ _ ∨ _))

/-- When it is written: when the delay is over, or at a flush before that. -/
def moment (delay : Duration) (e : Episode) : Duration :=
  let before := slept (e.gap.takeWhile (· ≠ .flush))
  if .flush ∈ e.gap ∧ ¬delay ≤ before then e.start + before else e.start + delay

end Episode

/-- The episodes of a script whose snapshots are to be written. -/
def dueEpisodes (delay : Duration) (script : List Step) : List Episode :=
  (episodes .zero script).filter (·.IsDue delay)

/-- The writes that episodes lead to, each with its moment. -/
def attempts (delay : Duration) (es : List Episode) : List (Duration × Snapshot) :=
  (es.filter (·.IsDue delay)).map fun e => (e.moment delay, e.snapshot)

/-- The last episode leads to no write. -/
def Unwritten (delay : Duration) (es : List Episode) : Prop :=
  ∃ e, es.getLast? = some e ∧ ¬e.IsDue delay

theorem slept_append (steps more : List Step) :
    slept (steps ++ more) = slept steps + slept more := by
  induction steps with
  | nil => exact (Duration.zero_add _).symm
  | cons step steps ih =>
    cases step with
    | sleep span =>
      show span + slept (steps ++ more) = span + slept steps + slept more
      rw [ih, Duration.add_assoc]
    | _ => exact ih

theorem slept_concat (steps : List Step) (span : Duration) :
    slept (steps ++ [.sleep span]) = slept steps + span := by
  rw [slept_append]
  show slept steps + (span + .zero) = _
  rw [Duration.add_zero]

theorem attempts_due {delay : Duration} {e : Episode} (h : e.IsDue delay) (es : List Episode) :
    attempts delay (e :: es) = [(e.moment delay, e.snapshot)] ++ attempts delay es := by
  simp [attempts, h]

theorem attempts_undue {delay : Duration} {e : Episode} (h : ¬e.IsDue delay)
    (es : List Episode) : attempts delay (e :: es) = attempts delay es := by
  simp [attempts, h]

theorem unwritten_due {delay : Duration} {e : Episode} (h : e.IsDue delay) (es : List Episode) :
    Unwritten delay (e :: es) ↔ Unwritten delay es := by
  unfold Unwritten
  cases es with
  | nil => simp [h]
  | cons next es => rw [List.getLast?_cons_cons]

theorem unwritten_next (delay : Duration) (e next : Episode) (es : List Episode) :
    Unwritten delay (e :: next :: es) ↔ Unwritten delay (next :: es) := by
  unfold Unwritten
  rw [List.getLast?_cons_cons]

/-! ## §3. Writes one after another. -/

/-- Writes snapshots at their moments: the events, and the store after them. -/
def writeAll {σ : Type} (store : Store σ) :
    List (Duration × Snapshot) → σ → List (Duration × SaveEvent) × σ
  | [], s => ([], s)
  | (now, p) :: rest, s =>
    let (event, s) := write store p s
    let (events, s) := writeAll store rest s
    ((now, event) :: events, s)

theorem writeAll_append {σ : Type} (store : Store σ) (l l' : List (Duration × Snapshot)) (s : σ) :
    writeAll store (l ++ l') s
      = ((writeAll store l s).1 ++ (writeAll store l' (writeAll store l s).2).1,
          (writeAll store l' (writeAll store l s).2).2) := by
  induction l generalizing s with
  | nil => rfl
  | cons a l ih =>
    obtain ⟨now, p⟩ := a
    simp only [List.cons_append, writeAll, ih]

namespace Watch

variable {σ : Type} {store : Store σ} {w w' w'' : Watch σ}

/-- Between two states of a watch some snapshots were written, and nothing else
was done to the store. -/
structure Wrote (store : Store σ) (l : List (Duration × Snapshot)) (w w' : Watch σ) : Prop where
  delay : w'.guard.delay = w.guard.delay
  log : w'.log = w.log ++ (writeAll store l w.stored).1
  stored : w'.stored = (writeAll store l w.stored).2

theorem Wrote.nothing (hdelay : w'.guard.delay = w.guard.delay) (hlog : w'.log = w.log)
    (hstored : w'.stored = w.stored) : Wrote store [] w w' where
  delay := hdelay
  log := hlog.trans (List.append_nil _).symm
  stored := hstored

theorem Wrote.trans {l l' : List (Duration × Snapshot)} (h : Wrote store l w w')
    (h' : Wrote store l' w' w'') : Wrote store (l ++ l') w w'' where
  delay := h'.delay.trans h.delay
  log := by rw [h'.log, h.log, h.stored, writeAll_append, List.append_assoc]
  stored := by rw [h'.stored, h.stored, writeAll_append]

/-! ## §4. Slot and timer. -/

/-- Nothing waits. -/
structure Rests (w : Watch σ) : Prop where
  latest : w.guard.committer.latest = none
  timer : w.guard.timer = none

/-- The snapshot of an episode waits for its delay; the gap is what has happened
so far. -/
structure Awaits (w : Watch σ) (e : Episode) : Prop where
  latest : w.guard.committer.latest = some e.snapshot
  timer : w.guard.timer = some ⟨e.start + w.guard.delay, e.snapshot.revision⟩
  clock : w.clock = e.start + slept e.gap
  early : ¬w.guard.delay ≤ slept e.gap
  unflushed : .flush ∉ e.gap

/-- All revisions in a list are later than what was written. -/
def Behind (w : Watch σ) (revisions : List Revision) : Prop :=
  ∀ last, w.guard.committer.committed = some last → ∀ r ∈ revisions, last < r

theorem Awaits.undue {e : Episode} (h : w.Awaits e) : ¬e.IsDue w.guard.delay := by
  rintro (hzero | hover | hflush)
  · have hearly := h.early
    rw [hzero] at hearly
    exact hearly (Nat.zero_le _)
  · exact h.early hover
  · exact h.unflushed hflush

/-- A snapshot is written now. -/
structure Writes (store : Store σ) (p : Snapshot) (w w' : Watch σ) : Prop where
  rests : w'.Rests
  wrote : Wrote store [(w.clock, p)] w w'
  clock : w'.clock = w.clock
  committed : ∀ last, w'.guard.committer.committed = some last →
    w.guard.committer.committed = some last ∨ last = p.revision

/-- What is behind all that comes is so after the first of it is written. -/
theorem Writes.behind {p : Snapshot} {revisions : List Revision} (h : Writes store p w w')
    (hb : w.Behind (p.revision :: revisions)) (hasc : (p.revision :: revisions).Pairwise (· < ·)) :
    w'.Behind revisions := by
  intro last hlast r hr
  rcases h.committed last hlast with hold | rfl
  · exact hb last hold r (List.mem_cons_of_mem _ hr)
  · exact (List.pairwise_cons.1 hasc).1 r hr

/-- A commit that finds the expected snapshot, later than what was written,
writes it. -/
theorem take_commit {g : Guard} {p : Snapshot} {expected : Option Revision}
    (hlatest : g.committer.latest = some p) (htimer : g.timer = none)
    (hdelay : g.delay = w.guard.delay)
    (hcommitted : g.committer.committed = w.guard.committer.committed)
    (hlater : ∀ last, w.guard.committer.committed = some last → last < p.revision)
    (hexpected : expected = none ∨ expected = some p.revision) :
    Writes store p w (w.take (g.commit store expected w.stored)) := by
  have hfound : g.committer.expected? expected = some p := by
    rcases hexpected with rfl | rfl <;> simp [Committer.expected?, hlatest]
  have hnew : g.committer.superseded p.revision = false :=
    superseded_of_lt (by rw [hcommitted]; exact hlater)
  unfold Guard.commit
  rw [commit_write hfound hnew]
  refine ⟨⟨rfl, htimer⟩, ⟨hdelay, rfl, rfl⟩, rfl, ?_⟩
  intro last hlast
  rcases Option.or_eq_some_iff.1 hlast with hsaved | ⟨-, hold⟩
  · exact .inr (saved?_write hsaved)
  · exact .inl (hcommitted ▸ hold)

/-! ## §5. Steps. -/

theorem take_nothing (w : Watch σ) : w.take (w.guard, [], w.stored) = w := by
  simp [take]

/-- Before the timer is due a nanosecond only passes. -/
theorem tick_early (h : ∀ timer, w.guard.timer = some timer → ¬timer.due ≤ w.clock + ⟨1⟩) :
    w.tick store = { w with clock := w.clock + ⟨1⟩ } := by
  have hidle : w.guard.advance store (w.clock + ⟨1⟩) w.stored = (w.guard, [], w.stored) := by
    cases ht : w.guard.timer with
    | none => simp [Guard.advance, ht]
    | some timer => exact Guard.advance_early ht (h timer ht) store w.stored
  unfold tick
  rw [hidle]
  exact take_nothing { w with clock := w.clock + ⟨1⟩ }

/-- **Before the timer is due nothing happens in a sleep.** -/
theorem sleep_early (n : Nat)
    (h : ∀ timer, w.guard.timer = some timer → ¬timer.due ≤ w.clock + ⟨n⟩) :
    w.sleep store n = { w with clock := w.clock + ⟨n⟩ } := by
  induction n generalizing w with
  | zero =>
    show w = { w with clock := w.clock + .zero }
    rw [Duration.add_zero]
  | succ n ih =>
    have hsum : w.clock + ⟨1⟩ + ⟨n⟩ = w.clock + ⟨n + 1⟩ := by
      rw [Duration.add_assoc]
      exact congrArg (w.clock + ·) (Duration.eq_of_nanoseconds (Nat.add_comm 1 n))
    have htick : w.tick store = { w with clock := w.clock + ⟨1⟩ } := by
      apply tick_early
      intro timer ht hdue
      refine h timer ht (Nat.le_trans hdue ?_)
      rw [← hsum]
      exact Nat.le_add_right _ _
    show (w.tick store).sleep store n = _
    rw [htick, ih, hsum]
    intro timer ht
    rw [hsum]
    exact h timer ht

theorem sleep_add (m n : Nat) (w : Watch σ) :
    w.sleep store (m + n) = (w.sleep store m).sleep store n := by
  induction m generalizing w with
  | zero => rw [Nat.zero_add]; rfl
  | succ m ih =>
    rw [Nat.succ_add]
    exact ih (w.tick store)

/-- A snapshot that comes without delay is written at once. -/
theorem schedule_undelayed (store : Store σ) {p : Snapshot} (hdelay : w.guard.delay = .zero)
    (hlater : ∀ last, w.guard.committer.committed = some last → last < p.revision) :
    Writes store p w (w.step store (.schedule p)) := by
  have hstep : w.step store (.schedule p)
      = w.take ({ w.guard with committer := w.guard.committer.replace p, timer := none }.commit
          store (some p.revision) w.stored) := by
    simp [step, Guard.schedule, hdelay]
  rw [hstep]
  exact take_commit rfl rfl rfl rfl hlater (.inr rfl)

/-- A snapshot that comes with delay waits, whatever waited before. -/
theorem schedule_delayed (store : Store σ) (p : Snapshot) (hdelay : w.guard.delay ≠ .zero) :
    (w.step store (.schedule p)).Awaits ⟨w.clock, p, []⟩
      ∧ Wrote store [] w (w.step store (.schedule p))
      ∧ (w.step store (.schedule p)).guard.committer.committed = w.guard.committer.committed
      ∧ (w.step store (.schedule p)).clock = w.clock := by
  have hstep : w.step store (.schedule p)
      = { w with
          guard := { w.guard with
            committer := w.guard.committer.replace p
            timer := some ⟨w.clock + w.guard.delay, p.revision⟩ } } := by
    simp [step, Guard.schedule, hdelay, take]
  rw [hstep]
  refine ⟨⟨rfl, rfl, (Duration.add_zero _).symm, ?_, List.not_mem_nil⟩, .nothing rfl rfl rfl, rfl,
    rfl⟩
  intro hnone
  exact hdelay (Duration.eq_of_nanoseconds (Nat.le_zero.1 hnone))

theorem Rests.sleep (h : w.Rests) (span : Duration) :
    w.step store (.sleep span) = { w with clock := w.clock + span } := by
  apply sleep_early
  intro timer ht
  rw [h.timer] at ht
  cases ht

theorem Rests.flush (h : w.Rests) : w.step store .flush = w := by
  have hnone : w.guard.flush store w.stored = (w.guard, [], w.stored) := by
    have htimer : { w.guard with timer := none } = w.guard := by rw [← h.timer]
    simp [Guard.flush, Guard.commit, Committer.commit, Committer.expected?, h.latest, htimer]
  show w.take _ = w
  rw [hnone, take_nothing]

/-- In a sleep that ends before the delay does, a snapshot goes on waiting. -/
theorem Awaits.sleep_early {e : Episode} (h : w.Awaits e) (store : Store σ) {span : Duration}
    (hspan : ¬w.guard.delay ≤ slept e.gap + span) :
    w.step store (.sleep span) = { w with clock := w.clock + span }
      ∧ (w.step store (.sleep span)).Awaits { e with gap := e.gap ++ [.sleep span] } := by
  have hsleep : w.step store (.sleep span) = { w with clock := w.clock + span } := by
    apply Watch.sleep_early
    intro timer ht hdue
    rw [h.timer] at ht
    injection ht with ht
    rw [← ht, h.clock, Duration.le_iff] at hdue
    apply hspan
    simp only [Duration.nanoseconds_add] at hdue
    simp only [Duration.le_iff, Duration.nanoseconds_add]
    omega
  refine ⟨hsleep, ?_⟩
  rw [hsleep]
  refine ⟨h.latest, h.timer, ?_, ?_, ?_⟩
  · show w.clock + span = e.start + slept (e.gap ++ [.sleep span])
    rw [slept_concat, h.clock, Duration.add_assoc]
  · show ¬w.guard.delay ≤ slept (e.gap ++ [.sleep span])
    rw [slept_concat]
    exact hspan
  · intro hmem
    rcases List.mem_append.1 hmem with hmem | hmem
    · exact h.unflushed hmem
    · cases List.mem_singleton.1 hmem

/-- **In a sleep that reaches the end of the delay a snapshot is written at that
moment**, and the rest of the sleep passes. -/
theorem Awaits.sleep_due {e : Episode} (h : w.Awaits e) (store : Store σ) {span : Duration}
    (hspan : w.guard.delay ≤ slept e.gap + span)
    (hlater : ∀ last, w.guard.committer.committed = some last → last < e.snapshot.revision) :
    ∃ w', Writes store e.snapshot { w with clock := e.start + w.guard.delay } w'
      ∧ w.step store (.sleep span) = { w' with clock := w.clock + span } := by
  have hclock := congrArg Duration.nanoseconds h.clock
  have hearly := h.early
  simp only [Duration.le_iff, Duration.nanoseconds_add] at hspan hearly hclock
  -- the nanoseconds before the last one of the delay, and those after it
  obtain ⟨before, hbefore⟩ : ∃ n,
      w.clock.nanoseconds + (n + 1) = (e.start + w.guard.delay).nanoseconds :=
    ⟨(e.start + w.guard.delay).nanoseconds - w.clock.nanoseconds - 1, by
      simp only [Duration.nanoseconds_add]
      omega⟩
  obtain ⟨rest, hrest⟩ : ∃ n, span.nanoseconds = before + (1 + n) :=
    ⟨span.nanoseconds - before - 1, by
      simp only [Duration.nanoseconds_add] at hbefore
      omega⟩
  have hdue : w.clock + ⟨before⟩ + ⟨1⟩ = e.start + w.guard.delay := by
    apply Duration.eq_of_nanoseconds
    simp only [Duration.nanoseconds_add] at hbefore ⊢
    omega
  have hasleep : w.sleep store before = { w with clock := w.clock + ⟨before⟩ } := by
    apply Watch.sleep_early
    intro timer ht hle
    rw [h.timer] at ht
    injection ht with ht
    rw [← ht, Duration.le_iff] at hle
    simp only [Duration.nanoseconds_add] at hle hbefore
    omega
  have hwake : w.guard.advance store (e.start + w.guard.delay) w.stored
      = { w.guard with timer := none }.commit store (some e.snapshot.revision) w.stored := by
    simp only [Guard.advance, h.timer, Duration.le_iff, Nat.le_refl, if_true, Guard.wake]
    simp [Option.filter]
  refine ⟨_, take_commit (g := { w.guard with timer := none }) h.latest rfl rfl rfl hlater
    (.inr rfl), ?_⟩
  show w.sleep store span.nanoseconds = _
  have hwoken : (w.sleep store before).sleep store 1
      = { w with clock := e.start + w.guard.delay }.take
          ({ w.guard with timer := none }.commit store (some e.snapshot.revision) w.stored) := by
    rw [hasleep]
    show ({ w with clock := w.clock + ⟨before⟩ } : Watch σ).tick store = _
    unfold tick
    simp only [hdue, hwake]
  rw [hrest, sleep_add, sleep_add, hwoken, Watch.sleep_early]
  · have hsum : e.start + w.guard.delay + ⟨rest⟩ = w.clock + span := by
      apply Duration.eq_of_nanoseconds
      simp only [Duration.nanoseconds_add] at hbefore ⊢
      omega
    show _ = _
    simp only [take, hsum]
  · intro timer ht
    cases ht

/-- A flush writes the snapshot that waits. -/
theorem Awaits.flush {e : Episode} (h : w.Awaits e) (store : Store σ)
    (hlater : ∀ last, w.guard.committer.committed = some last → last < e.snapshot.revision) :
    Writes store e.snapshot w (w.step store .flush) :=
  take_commit (g := { w.guard with timer := none }) h.latest rfl rfl rfl hlater (.inl rfl)

/-! ## §6. Scripts. -/

/-- What waits, if anything does. -/
def Holds (w : Watch σ) : Option Episode → Prop
  | none => w.Rests
  | some e => w.Awaits e

/-- A watch has followed some episodes: their writes are done, and a snapshot
waits exactly if the last of them leads to none. -/
structure Follows (store : Store σ) (es : List Episode) (w w' : Watch σ) : Prop where
  wrote : Wrote store (attempts w.guard.delay es) w w'
  pending : w'.guard.hasPending = true ↔ Unwritten w.guard.delay es

theorem Follows.quiet {es : List Episode} (w' : Watch σ) (h : Wrote store [] w w')
    (h' : Follows store es w' w'') : Follows store es w w'' where
  wrote := by
    rw [← h.delay]
    exact h.trans h'.wrote
  pending := by
    rw [← h.delay]
    exact h'.pending

theorem Follows.due {e : Episode} (es : List Episode) (w' : Watch σ) (he : e.IsDue w.guard.delay)
    (h : Wrote store [(e.moment w.guard.delay, e.snapshot)] w w')
    (h' : Follows store es w' w'') : Follows store (e :: es) w w'' where
  wrote := by
    rw [attempts_due he, ← h.delay]
    exact (h.delay ▸ h).trans h'.wrote
  pending := by
    rw [unwritten_due he, ← h.delay]
    exact h'.pending

/-- The write of an episode is dropped when the next one begins. -/
theorem Follows.undue {e next : Episode} {es : List Episode} (he : ¬e.IsDue w.guard.delay)
    (h : Follows store (next :: es) w w') : Follows store (e :: next :: es) w w' where
  wrote := by
    rw [attempts_undue he]
    exact h.wrote
  pending := by
    rw [unwritten_next]
    exact h.pending

end Watch

/-- The episodes from a moment on: that of the snapshot that waits, and those of
the steps to come. -/
def ahead (now : Duration) (waiting : Option Episode) (steps : List Step) : List Episode :=
  (waiting.map fun e => { e with gap := e.gap ++ gapOf steps }).toList ++ episodes now steps

/-- The revisions of the snapshot that waits and of those to come. -/
def upcoming (waiting : Option Episode) (steps : List Step) : List Revision :=
  (waiting.map (·.snapshot.revision)).toList ++ (steps.filterMap Step.snapshot?).map (·.revision)

namespace Episode

variable (delay : Duration) {e : Episode} (front rest : List Step)

/-- When the delay is over before any flush, the snapshot is written then. -/
theorem moment_over (hgap : e.gap = front ++ rest) (hfront : .flush ∉ front)
    (hover : delay ≤ slept front) : e.IsDue delay ∧ e.moment delay = e.start + delay := by
  have hlater : ∀ steps, delay ≤ slept (front ++ steps) := by
    intro steps
    rw [slept_append]
    exact Nat.le_trans hover (Nat.le_add_right _ _)
  have hbefore : e.gap.takeWhile (· ≠ .flush) = front ++ rest.takeWhile (· ≠ .flush) := by
    rw [hgap]
    refine List.takeWhile_append_of_pos ?_
    intro step hstep
    rw [decide_eq_true_eq]
    rintro rfl
    exact hfront hstep
  refine ⟨.inr (.inl ?_), ?_⟩
  · rw [hgap]
    exact hlater rest
  · refine if_neg ?_
    rintro ⟨_, hnot⟩
    rw [hbefore] at hnot
    exact hnot (hlater _)

/-- When a flush comes before the delay is over, the snapshot is written at the
flush. -/
theorem moment_flush (hgap : e.gap = front ++ .flush :: rest) (hfront : .flush ∉ front)
    (hearly : ¬delay ≤ slept front) :
    e.IsDue delay ∧ e.moment delay = e.start + slept front := by
  have hmem : .flush ∈ e.gap := by
    rw [hgap]
    simp
  have hbefore : e.gap.takeWhile (· ≠ .flush) = front := by
    rw [hgap, List.takeWhile_append_of_pos, List.takeWhile_cons_of_neg, List.append_nil]
    · simp
    · intro step hstep
      rw [decide_eq_true_eq]
      rintro rfl
      exact hfront hstep
  refine ⟨.inr (.inr hmem), ?_⟩
  unfold moment
  rw [hbefore]
  exact if_pos ⟨hmem, hearly⟩

end Episode

namespace Watch

variable {σ : Type} {store : Store σ} {w : Watch σ}

/-- From whatever waits on, a guard does in some steps what its episodes say. -/
def Followed (store : Store σ) (steps : List Step) : Prop :=
  ∀ (w : Watch σ) (waiting : Option Episode), w.Holds waiting →
    w.Behind (upcoming waiting steps) → (upcoming waiting steps).Pairwise (· < ·) →
    Follows store (ahead w.clock waiting steps) w (w.run store steps)

/-- At the end what waits is left. -/
theorem followed_nil (store : Store σ) : Followed store [] := by
  intro w waiting hw _ _
  cases waiting with
  | none =>
    refine ⟨.nothing rfl rfl rfl, ?_⟩
    show w.guard.committer.latest.isSome = true ↔ Unwritten w.guard.delay []
    rw [Rests.latest hw]
    simp [Unwritten]
  | some e =>
    have hsame : ahead w.clock (some e) [] = [e] := by simp [ahead, gapOf, episodes]
    have hundue := Awaits.undue hw
    rw [hsame]
    refine ⟨?_, ?_⟩
    · rw [attempts_undue hundue]
      exact .nothing rfl rfl rfl
    · show w.guard.committer.latest.isSome = true ↔ Unwritten w.guard.delay [e]
      rw [Awaits.latest hw]
      simpa [Unwritten] using hundue

section Onward

variable {steps : List Step} (h : Followed store steps)

include h

/-- A snapshot begins an episode, whatever waits: it takes the slot. -/
theorem Followed.begin (p : Snapshot) (hbehind : w.Behind (upcoming none (.schedule p :: steps)))
    (hasc : (upcoming none (.schedule p :: steps)).Pairwise (· < ·)) :
    Follows store (episodes w.clock (.schedule p :: steps)) w
      (w.run store (.schedule p :: steps)) := by
  show Follows store (⟨w.clock, p, gapOf steps⟩ :: episodes w.clock steps) w
    ((w.step store (.schedule p)).run store steps)
  by_cases hdelay : w.guard.delay = .zero
  · -- it is written at once
    have hwritten := schedule_undelayed store hdelay
      fun last hlast => hbehind last hlast p.revision List.mem_cons_self
    obtain ⟨hdue, hmoment⟩ := Episode.moment_over w.guard.delay [] (gapOf steps)
      (e := ⟨w.clock, p, gapOf steps⟩) rfl List.not_mem_nil
      (by rw [hdelay]; exact Nat.le_refl 0)
    rw [hdelay, Duration.add_zero] at hmoment
    refine .due _ (w.step store (.schedule p)) hdue ?_ ?_
    · rw [hdelay, hmoment]
      exact hwritten.wrote
    · rw [← hwritten.clock]
      exact h _ none hwritten.rests (hwritten.behind hbehind hasc) (List.pairwise_cons.1 hasc).2
  · -- it waits, with nothing in its gap
    obtain ⟨hawaits, hwrote, hcommitted, hclock⟩ := schedule_delayed store p hdelay
    refine .quiet _ hwrote ?_
    rw [← hclock] at hawaits ⊢
    refine h _ (some ⟨_, p, []⟩) hawaits ?_ hasc
    intro last hlast
    rw [hcommitted] at hlast
    exact hbehind last hlast

theorem Followed.schedule (p : Snapshot) : Followed store (.schedule p :: steps) := by
  intro w waiting hw hbehind hasc
  cases waiting with
  | none => exact h.begin p hbehind hasc
  | some e =>
    -- the snapshot that waits is given up for the new one
    have hclosed : ahead w.clock (some e) (.schedule p :: steps)
        = e :: episodes w.clock (.schedule p :: steps) := by
      simp [ahead, gapOf, Step.snapshot?]
    rw [hclosed]
    refine .undue (Awaits.undue hw) (h.begin p ?_ (List.pairwise_cons.1 hasc).2)
    exact fun last hlast r hr => hbehind last hlast r (List.mem_cons_of_mem _ hr)

theorem Followed.sleep (span : Duration) : Followed store (.sleep span :: steps) := by
  intro w waiting hw hbehind hasc
  show Follows store _ w ((w.step store (.sleep span)).run store steps)
  cases waiting with
  | none =>
    have hrests : w.Rests := hw
    rw [hrests.sleep]
    exact .quiet { w with clock := w.clock + span } (.nothing rfl rfl rfl)
      (h { w with clock := w.clock + span } none ⟨hrests.latest, hrests.timer⟩ hbehind hasc)
  | some e =>
    have hawaits : w.Awaits e := hw
    have hgap : gapOf (.sleep span :: steps) = .sleep span :: gapOf steps := by
      simp [gapOf, Step.snapshot?]
    by_cases hspan : w.guard.delay ≤ slept e.gap + span
    · obtain ⟨w', hwritten, hstep⟩ := hawaits.sleep_due store hspan
        fun last hlast => hbehind last hlast _ List.mem_cons_self
      obtain ⟨hdue, hmoment⟩ := Episode.moment_over w.guard.delay
        (e.gap ++ [.sleep span]) (gapOf steps)
        (e := { e with gap := e.gap ++ gapOf (.sleep span :: steps) }) (by simp [hgap])
        (by simpa using hawaits.unflushed) (by rw [slept_concat]; exact hspan)
      rw [hstep]
      refine .due (episodes (w.clock + span) steps) { w' with clock := w.clock + span } hdue ?_
        (h { w' with clock := w.clock + span } none ⟨hwritten.rests.latest, hwritten.rests.timer⟩
          (hwritten.behind hbehind hasc) (List.pairwise_cons.1 hasc).2)
      rw [hmoment]
      exact ⟨hwritten.wrote.delay, hwritten.wrote.log, hwritten.wrote.stored⟩
    · obtain ⟨hstep, hstill⟩ := hawaits.sleep_early store hspan
      have hsame : ahead w.clock (some e) (.sleep span :: steps)
          = ahead (w.clock + span) (some { e with gap := e.gap ++ [.sleep span] }) steps := by
        simp [ahead, hgap, episodes]
      rw [hstep] at hstill ⊢
      rw [hsame]
      exact .quiet { w with clock := w.clock + span } (.nothing rfl rfl rfl)
        (h { w with clock := w.clock + span } (some { e with gap := e.gap ++ [.sleep span] })
          hstill hbehind hasc)

theorem Followed.flush : Followed store (.flush :: steps) := by
  intro w waiting hw hbehind hasc
  show Follows store _ w ((w.step store .flush).run store steps)
  cases waiting with
  | none =>
    rw [Rests.flush hw]
    exact h w none hw hbehind hasc
  | some e =>
    have hawaits : w.Awaits e := hw
    have hwritten := hawaits.flush store
      fun last hlast => hbehind last hlast _ List.mem_cons_self
    obtain ⟨hdue, hmoment⟩ := Episode.moment_flush w.guard.delay e.gap (gapOf steps)
      (e := { e with gap := e.gap ++ gapOf (.flush :: steps) }) (by simp [gapOf, Step.snapshot?])
      hawaits.unflushed hawaits.early
    refine .due (episodes w.clock steps) (w.step store .flush) hdue ?_ ?_
    · rw [hmoment]
      show Wrote store [(e.start + slept e.gap, e.snapshot)] w _
      rw [← hawaits.clock]
      exact hwritten.wrote
    · rw [← hwritten.clock]
      exact h _ none hwritten.rests (hwritten.behind hbehind hasc) (List.pairwise_cons.1 hasc).2

end Onward

/-- **A guard does what its episodes say**, from whatever waits on. -/
theorem run_follows (store : Store σ) (steps : List Step) : Followed store steps := by
  induction steps with
  | nil => exact followed_nil store
  | cons step steps ih =>
    cases step with
    | schedule p => exact ih.schedule p
    | sleep span => exact ih.sleep span
    | flush => exact ih.flush

end Watch

/-! ## §7. A store whose puts fail in any pattern. -/

theorem episodes_snapshots (now : Duration) (steps : List Step) :
    (episodes now steps).map (·.snapshot) = steps.filterMap Step.snapshot? := by
  induction steps generalizing now with
  | nil => rfl
  | cons step steps ih =>
    cases step with
    | schedule p => exact congrArg (p :: ·) (ih now)
    | sleep span => exact ih (now + span)
    | flush => exact ih now

/-- Where no two revisions are the same, the last snapshot waits exactly if its
revision is not among those of the writes. -/
theorem unwritten_iff (delay : Duration) {es : List Episode}
    (h : (es.map (·.snapshot.revision)).Nodup) :
    Unwritten delay es ↔ ∃ p, (es.map (·.snapshot)).getLast? = some p
      ∧ p.revision ∉ (es.filter (·.IsDue delay)).map (·.snapshot.revision) := by
  simp only [Unwritten, List.getLast?_map, Option.map_eq_some_iff, exists_exists_and_eq_and]
  refine exists_congr fun e => and_congr_right fun hlast => not_congr ⟨fun hdue => ?_, fun hmem => ?_⟩
  · exact List.mem_map_of_mem (List.mem_filter.2 ⟨List.mem_of_getLast? hlast, by simpa using hdue⟩)
  · obtain ⟨e', he', hrevision⟩ := List.mem_map.1 hmem
    obtain ⟨hmem', hdue'⟩ := List.mem_filter.1 he'
    rw [← List.inj_on_of_nodup_map h hmem' (List.mem_of_getLast? hlast) hrevision]
    simpa using hdue'

/-- Each write to a shelf is one put, and is told of once. -/
theorem writeAll_shelf (fails : Nat → Option StorageError) (first : List (String × String))
    (l : List (Duration × Snapshot)) :
    (writeAll (Shelf.store fails) l { texts := first }).1
        = l.mapIdx (fun i a => (a.1, .of a.2.revision (fails i)))
      ∧ (writeAll (Shelf.store fails) l { texts := first }).2.puts
        = l.mapIdx (fun i a => ⟨documentKey, a.2.content, fails i⟩)
      ∧ (writeAll (Shelf.store fails) l { texts := first }).2.Lasting first := by
  induction l using List.reverseRecOn with
  | nil => exact ⟨rfl, rfl, fun _ => rfl⟩
  | append_singleton l a ih =>
    obtain ⟨hlog, hputs, hlasting⟩ := ih
    have hcount : (writeAll (Shelf.store fails) l { texts := first }).2.puts.length = l.length := by
      rw [hputs, List.length_mapIdx]
    simp only [writeAll_append, writeAll, write_shelf, hcount, List.mapIdx_concat]
    refine ⟨?_, ?_, hlasting.asked fails _ _⟩
    · rw [hlog]
    · show _ ++ [_] = _
      rw [hcount, hputs]

def Watch.new (delay : Duration) (first : List (String × String)) : Watch Shelf where
  guard := { delay }
  stored := { texts := first }

/-- A guard that was new, in front of a shelf, after a script. -/
def watched (delay : Duration) (fails : Nat → Option StorageError) (first : List (String × String))
    (script : List Step) : Watch Shelf :=
  (Watch.new delay first).run (Shelf.store fails) script

/-- What a guard has done after a script. -/
structure Debounced (delay : Duration) (fails : Nat → Option StorageError)
    (first : List (String × String)) (script : List Step) : Prop where
  /-- The puts are those of the due snapshots, in order and each once. -/
  puts : (watched delay fails first script).stored.puts
    = (dueEpisodes delay script).mapIdx fun i e => ⟨documentKey, e.snapshot.content, fails i⟩
  /-- Each put is told of once, at its moment. -/
  told : (watched delay fails first script).log
    = (dueEpisodes delay script).mapIdx fun i e =>
        (e.moment delay, .of e.snapshot.revision (fails i))
  stored : (Shelf.store fails).get documentKey (watched delay fails first script).stored
    = .ok ((lastText documentKey (watched delay fails first script).stored.puts).or
        (first.lookup documentKey))
  /-- The last snapshot waits exactly if there was no put of it. -/
  pending : (watched delay fails first script).guard.hasPending = true ↔
    ∃ p, (script.filterMap Step.snapshot?).getLast? = some p
      ∧ p.revision ∉ (watched delay fails first script).log.map (·.2.revision)
  flushed : (watched delay fails first (script ++ [.flush])).guard.hasPending = false

/-- **Debounced saving.**  A guard puts the snapshots for which there is no
delay, or whose delay is over before the next snapshot, or before which a flush
comes; it puts them in order and each once, whichever of the puts fail. -/
theorem debounced (delay : Duration) (fails : Nat → Option StorageError)
    (first : List (String × String)) (script : List Step)
    (hasc : ((script.filterMap Step.snapshot?).map (·.revision)).Pairwise (· < ·)) :
    Debounced delay fails first script := by
  have hfollows : Watch.Follows (Shelf.store fails) (episodes .zero script) (Watch.new delay first)
      (watched delay fails first script) :=
    Watch.run_follows _ script (Watch.new delay first) none ⟨rfl, rfl⟩
      (fun _ hlast => nomatch hlast) hasc
  obtain ⟨hlog, hputs, hlasting⟩ := writeAll_shelf fails first (attempts delay (episodes .zero script))
  have hattempts : attempts delay (episodes .zero script)
      = (dueEpisodes delay script).map fun e => (e.moment delay, e.snapshot) := rfl
  have htold : (watched delay fails first script).log
      = (dueEpisodes delay script).mapIdx fun i e =>
          (e.moment delay, .of e.snapshot.revision (fails i)) := by
    rw [hfollows.wrote.log]
    show [] ++ (writeAll _ (attempts delay _) ({ texts := first } : Shelf)).1 = _
    rw [List.nil_append, hlog, hattempts]
    exact List.ext_getElem (by simp) fun i _ _ => by simp
  refine ⟨?_, htold, ?_, ?_, ?_⟩
  · rw [hfollows.wrote.stored]
    show (writeAll _ (attempts delay _) ({ texts := first } : Shelf)).2.puts = _
    rw [hputs, hattempts]
    exact List.ext_getElem (by simp) fun i _ _ => by simp
  · rw [hfollows.wrote.stored]
    exact congrArg Except.ok (hlasting documentKey)
  · have hrevisions : (watched delay fails first script).log.map (·.2.revision)
        = (dueEpisodes delay script).map (·.snapshot.revision) := by
      rw [htold]
      exact List.ext_getElem (by simp) fun i _ _ => by simp
    have hnodup : ((episodes .zero script).map (·.snapshot.revision)).Nodup := by
      have hsame : (episodes .zero script).map (·.snapshot.revision)
          = (script.filterMap Step.snapshot?).map (·.revision) := by
        rw [← episodes_snapshots .zero, List.map_map]
        rfl
      rw [hsame]
      exact hasc.imp UInt64.ne_of_lt
    rw [hrevisions, hfollows.pending, ← episodes_snapshots .zero]
    exact unwritten_iff delay hnodup
  · unfold watched Watch.run
    rw [List.foldl_append]
    exact Guard.flush_pending _ _ _

/-- Of a burst the last snapshot is put, and that put fails; a flush comes
before the delay of the next one is over; the last one waits. -/
theorem debounced_burst :
    let script : List Step :=
      [.schedule ⟨1, "a"⟩, .sleep ⟨199⟩, .schedule ⟨2, "ab"⟩, .sleep ⟨200⟩,
        .schedule ⟨3, "abc"⟩, .sleep ⟨50⟩, .flush, .schedule ⟨4, "abcd"⟩, .sleep ⟨150⟩]
    let fails : Nat → Option StorageError := fun n => if n = 0 then some (.io .notFound) else none
    ((script.filterMap Step.snapshot?).map (·.revision)).Pairwise (· < ·)
      ∧ (dueEpisodes ⟨200⟩ script).map (fun e => (e.moment ⟨200⟩, e.snapshot))
        = [(⟨399⟩, ⟨2, "ab"⟩), (⟨449⟩, ⟨3, "abc"⟩)]
      ∧ Debounced ⟨200⟩ fails [] script := by
  intro script fails
  have hasc : ((script.filterMap Step.snapshot?).map (·.revision)).Pairwise (· < ·) := by decide
  exact ⟨hasc, by decide, debounced ⟨200⟩ fails [] script hasc⟩

end Storage

end RenderDesk
