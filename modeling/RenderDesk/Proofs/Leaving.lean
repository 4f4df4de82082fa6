/-
  RenderDesk.Proofs.Leaving
  ─────────────────────────
  No edit is lost when the desk is left.

  When the desk was left it sends nothing any more but a flush, behind
  everything that was sent before.  So once the flush is through, no snapshot
  is on its way, and the store holds the text.

  Main statements:
    * `Moves.draining` — the flush stays behind all other commands;
    * `left_is_stored` — after the flush the next session finds the text;
    * `leave_keeps` — and the program that leaves gets its flush through.
-/
import RenderDesk.Proofs.Keeping
import RenderDesk.Proofs.StoredText

namespace RenderDesk.Engine

open RenderDesk.Storage

/-! ## §1. The engine behind a flush. -/

/-- A flush is behind all other commands, or it is through and nothing waits. -/
def Draining (e : Engine) : Prop :=
  (∃ queue, e.queue = queue ++ [.flush]) ∨ (e.queue = [] ∧ e.guard.hasPending = false)

/-- Without a snapshot in the slot a commit does nothing. -/
theorem commits_nothing {store : Store σ} {c c' : Committer} {s s' : σ} {saves : List SaveEvent}
    (h : c.Commits store s c' saves s') (hc : c.latest = none) : c' = c := by
  cases h with
  | idle => rfl
  | superseded hl _ _ | saved hl _ _ | failed hl _ _ =>
    rw [hc] at hl
    cases hl

/-- The command that comes next is the flush itself, or the flush is still to
come. -/
theorem Draining.next {e : Engine} (h : e.Draining) {command : Command} {queue : List Command}
    (hq : e.queue = command :: queue) :
    (∃ rest, queue = rest ++ [.flush]) ∨ (command = .flush ∧ queue = []) := by
  rcases h with ⟨before, hb⟩ | ⟨hempty, _⟩
  · rw [hq] at hb
    cases before with
    | nil =>
      injection hb with hc hrest
      exact Or.inr ⟨hc, hrest⟩
    | cons first rest =>
      injection hb with _ hrest
      exact Or.inl ⟨rest, hrest⟩
  · rw [hq] at hempty
    cases hempty

theorem Moves.draining {store : Store σ} {e e' : Engine} {s s' : σ} {events : List Event}
    (hm : Moves store e s e' s' events) (h : e.Draining) : e'.Draining := by
  cases hm with
  | idle => exact h
  | started hq htask =>
    rcases h.next hq with hrest | ⟨rfl, _⟩
    · exact Or.inl hrest
    · cases htask
  | dispatched _ => exact h
  | finished _ _ => exact h
  | scheduled hq _ =>
    rcases h.next hq with hrest | ⟨hflush, _⟩
    · exact Or.inl hrest
    · cases hflush
  | flushed hq _ hpending =>
    rcases h.next hq with hrest | ⟨_, hempty⟩
    · exact Or.inl hrest
    · exact Or.inr ⟨hempty, hpending⟩
  | woken hc =>
    rcases h with hrest | ⟨hempty, hpending⟩
    · exact Or.inl hrest
    · have hlatest : e.guard.committer.latest = none := by
        simpa [Guard.hasPending, Committer.hasPending] using hpending
      -- a timer that wakes behind the flush finds nothing to write
      refine Or.inr ⟨hempty, ?_⟩
      show Committer.hasPending _ = false
      rw [commits_nothing hc hlatest]
      exact hpending

end RenderDesk.Engine

namespace RenderDesk.Program

open RenderDesk.Engine (Saving snapshots)
open RenderDesk.Session
open RenderDesk.Storage
open RenderDesk.Terminal

/-! ## §2. The system behind a flush. -/

/-- A flush is sent behind everything that was sent before. -/
def System.flushing (s : System σ) : System σ := { s with engine := s.engine.send .flush }

theorem run_engine (x : Surroundings σ) (s : System σ) (moves : List Engine.Move) :
    s.run x (moves.map .engine) = { s with
      engine := (s.engine.run x.store s.stored moves).1
      stored := (s.engine.run x.store s.stored moves).2 } := by
  induction moves generalizing s with
  | nil => rfl
  | cons m moves ih => exact ih (s.step x (.engine m))

/-- The moves of a program that leaves: the engine gets to every command, the
flush among them. -/
def System.leaving (now : Duration) (s : System σ) : List Move :=
  (List.replicate s.flushing.engine.queue.length (.pickUp now)).map .engine

/-- Leaving is one way in which the flush gets through. -/
theorem leave_eq_run (x : Surroundings σ) (now : Duration) (s : System σ) :
    s.leave x now = s.flushing.run x (s.leaving now) := by
  rw [System.leaving, run_engine]
  rfl

/-- A desk that was left sends nothing, so the flush stays the last command. -/
theorem step_draining {x : Surroundings σ} {s : System σ} (hp : s.desk.presence = .left)
    (h : s.engine.Draining) (m : Move) : (s.step x m).engine.Draining := by
  cases m with
  | engine move => exact (Engine.step_moves s.engine x.store s.stored move).draining h
  | read =>
    simp only [System.step]
    split
    · exact h
    · split <;> exact h
  | relay now =>
    simp only [System.step]
    cases he : s.engine.events <;> (simp only [Engine.take?, he]; exact h)
  | take =>
    simp only [System.step]
    split
    · rw [Desk.take_left hp]
      exact h
    · exact h

theorem run_draining {x : Surroundings σ} {s : System σ} (hp : s.desk.presence = .left)
    (h : s.engine.Draining) (moves : List Move) : (s.run x moves).engine.Draining := by
  induction moves generalizing s with
  | nil => exact h
  | cons m moves ih =>
    have hdesk := System.step_left (x := x) hp m
    exact ih (hdesk ▸ hp) (step_draining hp h m)

/-! ## §3. Leaving. -/

/-- A run up to the end of a session: the desk is left, the flush that follows
gets through, the store takes every write, and the files that commands name
stay as they are. -/
structure Departs (x : Surroundings σ) (files : Reader) (commands : List Command) (s : System σ)
    (moves later : List Move) : Prop where
  left : (s.run x moves).desk.presence = .left
  flushed : ((s.run x moves).flushing.run x later).engine.queue = []
  stored : ∀ r message,
    .saveFailed r message ∉ s.writes x moves ++ (s.run x moves).flushing.writes x later
  steady : Steady x files commands s moves

/-- A flush brings no text, so it changes nothing of what is kept. -/
theorem Kept.flushing {holds : String → σ → Prop} {first : σ} {files : Reader} {document : String}
    {s : System σ} {done : List Incoming} {told : List SaveEvent}
    (h : Kept holds first files document s done told) :
    Kept holds first files document s.flushing done told := by
  refine ⟨?_, h.text, h.counted, h.answers⟩
  show Saving holds first _ _ _ (snapshots (s.engine.queue ++ [.flush])) s.stored told
  rw [Engine.snapshots_flush]
  exact h.saving

section Departures

variable {x : Surroundings σ} {files : Reader} {template document : String} {delay : Duration}
  {stored : σ} {typed : List String} {moves later : List Move}

/-- At the end the text is kept, the commands have been attended to, the desk is
as it was left, and no save waits. -/
theorem Departs.kept
    (hstore : ∀ text s s', x.store.put documentKey text s = (.ok (), s') →
      x.store.get documentKey s' = .ok (some text))
    (hedits : (typed.map Command.parse).countP (Command.edits files) < 2 ^ 64)
    (hrun : Departs x files (typed.map Command.parse)
      (System.begin template document { delay } stored typed) moves later) :
    let start := System.begin template document { delay } stored typed
    let final := (start.run x moves).flushing.run x later
    Kept (fun text s => x.store.get documentKey s = .ok (some text)) stored files document final
        (start.taken x moves) (start.writes x moves ++ (start.run x moves).flushing.writes x later)
      ∧ Attended (typed.map Command.parse) (start.run x moves) (start.taken x moves)
      ∧ final.desk = (start.run x moves).desk ∧ final.engine.guard.hasPending = false := by
  intro start final
  obtain ⟨hleft, hflushed, -, hsteady⟩ := hrun
  obtain ⟨hkept, hattended⟩ := run_kept
    (begin_kept (fun text s => x.store.get documentKey s = .ok (some text)) files template document
      delay stored typed)
    hstore (begin_attended template document { delay } stored typed) hsteady hedits
  rw [List.nil_append] at hkept hattended
  rw [List.nil_append] at hkept
  -- from here on the desk stays as it is, and only the engine goes on
  have hdesk : final.desk = (start.run x moves).desk :=
    System.run_left (s := (start.run x moves).flushing) hleft later
  have hquiet : Steady x files (typed.map Command.parse) (start.run x moves).flushing later := by
    intro before _ hn
    rw [System.run_left (s := (start.run x moves).flushing) hleft before] at hn
    exact absurd hleft hn
  obtain ⟨hfinal, _⟩ := run_kept hkept.flushing hstore (hattended.behind rfl rfl) hquiet hedits
  rw [System.taken_left (s := (start.run x moves).flushing) hleft later, List.append_nil] at hfinal
  refine ⟨hfinal, hattended, hdesk, ?_⟩
  rcases run_draining (s := (start.run x moves).flushing) hleft (Or.inl ⟨_, rfl⟩) later with
    ⟨queue, hq⟩ | ⟨_, hp⟩
  · rw [hflushed] at hq
    simp at hq
  · exact hp

end Departures

/-- **No edit is lost when the desk is left.**  In whatever order the parts
have moved, the commands up to the end of the input, or up to the one that
quits, were carried out, each once; they alone have made the text; and the
next session finds it in the store, unless there was nothing to save.
Revisions are numbers of 64 bits, so the edits are bounded. -/
theorem left_is_stored (x : Surroundings σ) (files : Reader) (template document : String)
    (delay : Duration) (stored : σ) (typed : List String) (moves later : List Move)
    (hstore : ∀ text s s', x.store.put documentKey text s = (.ok (), s') →
      x.store.get documentKey s' = .ok (some text))
    (hedits : (typed.map Command.parse).countP (Command.edits files) < 2 ^ 64)
    (hrun : Departs x files (typed.map Command.parse)
      (System.begin template document { delay } stored typed) moves later) :
    let start := System.begin template document { delay } stored typed
    let done := handled (start.taken x moves)
    let final := (start.run x moves).flushing.run x later
    let text := final.desk.session.document.text
    done = untilQuit (typed.map Command.parse)
      ∧ text = textAfter files document done
      ∧ (done.any (Command.edits files) = true →
          x.store.get documentKey final.stored = .ok (some text)
            ∧ ∀ fallback, x.store.initialText final.stored fallback = (text, true))
      ∧ (done.any (Command.edits files) = false → final.stored = stored)
      ∧ (.quit ∉ done → done = typed.map Command.parse
          ∧ final.desk.session.render.phase.inFlight = false) := by
  intro start done final text
  obtain ⟨hfinal, hattended, hdesk, hpending⟩ := hrun.kept hstore hedits
  obtain ⟨hedited, hunedited⟩ := hfinal.settled hrun.flushed hpending hrun.stored
  refine ⟨hattended.handled_eq hrun.left, hfinal.text, ?_, hunedited, ?_⟩
  · intro hany
    have hget := hedited hany
    exact ⟨hget, fun fallback => initialText_restored_iff.2 hget⟩
  · intro hq
    rw [hdesk]
    exact hattended.ended hrun.left hq

/-- A session with a store of files: an edit, a file that is loaded, and a line
behind the one that quits. -/
def someSession : System Files.Tree :=
  .begin "t" "a" { delay := .ofSeconds 1 }
    { nodes := [(["f"], .file (Text.Utf8.encode "x"))] } ["b", ":load f", ":quit", "c"]

def someSurroundings : Surroundings Files.Tree where
  store := fileStore { dir := "s" }
  read t path := t.readText path

def someFiles : Reader := fun path => if path = "f" then .ok "x" else .error .notFound

/-- Of the two edits the later one is stored, and the last line is not read. -/
theorem loaded_is_stored :
    let moves : List Move := [.read, .take, .read, .read, .engine (.pickUp .zero), .take, .take]
    let later : List Move := List.replicate 3 (.engine (.pickUp .zero))
    let final := (someSession.run someSurroundings moves).flushing.run someSurroundings later
    final.desk.session.document.text = "x"
      ∧ ∀ fallback, someSurroundings.store.initialText final.stored fallback = ("x", true) := by
  intro moves later final
  have hwrites : someSession.writes someSurroundings moves
      ++ (someSession.run someSurroundings moves).flushing.writes someSurroundings later
      = [.saved 2] := by decide +kernel
  have hsteady : Steady someSurroundings someFiles (["b", ":load f", ":quit", "c"].map Command.parse)
      someSession moves := by
    have hall : ∀ n < 8,
        ((someSession.run someSurroundings (moves.take n)).stored.readText "f").toOption
          = some "x" := by decide +kernel
    intro before hb _ path hpath
    have hparsed : ["b", ":load f", ":quit", "c"].map Command.parse
        = [.append "b", .load "f", .quit, .append "c"] := by decide +kernel
    rw [hparsed] at hpath
    obtain rfl : path = "f" := by simpa using hpath
    have hread := hall before.length (Nat.lt_succ_of_le hb.length_le)
    rw [← List.prefix_iff_eq_take.1 hb] at hread
    show (someSession.run someSurroundings before).stored.readText "f" = .ok "x"
    cases hr : (someSession.run someSurroundings before).stored.readText "f" with
    | error e =>
      rw [hr] at hread
      cases hread
    | ok text =>
      rw [hr] at hread
      rw [Option.some.inj hread]
  have hrun : Departs someSurroundings someFiles (["b", ":load f", ":quit", "c"].map Command.parse)
      someSession moves later :=
    { left := by decide +kernel
      flushed := by decide +kernel
      stored := by
        intro r message
        rw [hwrites]
        simp
      steady := hsteady }
  obtain ⟨_, _, hstored, _, _⟩ := left_is_stored someSurroundings someFiles "t" "a" (.ofSeconds 1)
    { nodes := [(["f"], .file (Text.Utf8.encode "x"))] } ["b", ":load f", ":quit", "c"] moves later
    (fun _ _ _ => fileStore_get_put) (by decide +kernel) hrun
  have htext : final.desk.session.document.text = "x" := by decide +kernel
  have hedited : (handled (someSession.taken someSurroundings moves)).any (Command.edits someFiles)
      = true := by decide +kernel
  refine ⟨htext, ?_⟩
  intro fallback
  rw [← htext]
  exact (hstored hedited).2 fallback

/-! ## §4. The program's own way to leave. -/

/-- The program that leaves gets its flush through. -/
theorem leave_departs {x : Surroundings σ} {files : Reader} {commands : List Command}
    {s : System σ} {moves : List Move} (now : Duration)
    (hleft : (s.run x moves).desk.presence = .left) (hsteady : Steady x files commands s moves)
    (hstored : ∀ r message, .saveFailed r message ∉
      s.writes x moves ++ (s.run x moves).flushing.writes x ((s.run x moves).leaving now)) :
    Departs x files commands s moves ((s.run x moves).leaving now) where
  left := hleft
  flushed := by
    rw [← leave_eq_run]
    exact System.leave_queue x now _
  stored := hstored
  steady := hsteady

/-- **A program that leaves has lost no edit**: its text is what the commands have
made, nothing waits to be saved, and the next session begins with this text, if
there was an edit. -/
theorem leave_keeps {x : Surroundings σ} {files : Reader} {template document : String}
    {delay : Duration} {stored : σ} {typed : List String} {moves : List Move} (now : Duration)
    (hstore : ∀ text s s', x.store.put documentKey text s = (.ok (), s') →
      x.store.get documentKey s' = .ok (some text))
    (hedits : (typed.map Command.parse).countP (Command.edits files) < 2 ^ 64) :
    let start := System.begin template document { delay } stored typed
    let left := start.run x moves
    let final := left.leave x now
    left.desk.presence = .left → Steady x files (typed.map Command.parse) start moves →
    (∀ r message, .saveFailed r message ∉
      start.writes x moves ++ left.flushing.writes x (left.leaving now)) →
    final.desk.session.document.text
        = textAfter files document (untilQuit (typed.map Command.parse))
      ∧ final.engine.guard.hasPending = false
      ∧ ((untilQuit (typed.map Command.parse)).any (Command.edits files) = true →
        ∀ fallback, x.store.initialText final.stored fallback
          = (final.desk.session.document.text, true)) := by
  intro start left final hleft hsteady hstored
  have hrun := leave_departs now hleft hsteady hstored
  obtain ⟨hfinal, hattended, -, hpending⟩ := hrun.kept hstore hedits
  obtain ⟨hedited, -⟩ := hfinal.settled hrun.flushed hpending hrun.stored
  rw [← leave_eq_run] at hfinal hedited
  rw [← hattended.handled_eq hleft]
  exact ⟨hfinal.text, System.leave_pending x now left,
    fun hany _ => initialText_restored_iff.2 (hedited hany)⟩

end RenderDesk.Program
