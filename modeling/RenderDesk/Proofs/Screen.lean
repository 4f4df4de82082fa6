/-
  RenderDesk.Proofs.Screen
  ────────────────────────
  The screen is never behind the session.

  The desk prints when the mark of change is set, and remembers the view that
  it has printed.  A message that forgot to set the mark would leave a change
  invisible until another one sets it; no message does.

  Main statements:
    * `update_marks` — a message sets the mark, or does nothing at all;
    * `dispatch_current`, `take_current` — what is shown is what there is,
      after a message and after anything else that the desk takes in;
    * `screen_current` — both of a new desk and all its messages;
    * `session_current` — and in every run of a session.
-/
import RenderDesk.Program.System
import RenderDesk.Proofs.Outcome

namespace RenderDesk.Session

/-! ## §1. The mark of change. -/

/-- A message marks the state as changed, or it changes nothing and asks for
nothing. -/
theorem update_marks (s : State) (m : Message) :
    (update s m).1.dirty = true ∨ update s m = (s, []) := by
  cases m with
  | sessionStarted document => exact .inl rfl
  | documentEdited text => exact .inl rfl
  | documentSaved revision =>
    by_cases h : revision = s.document.revision ∧ s.document.saved = false <;>
      simp [update, State.noteSaved, State.touched, h]
  | templatesLoaded templates => exact .inl rfl
  | templateSelected name =>
    by_cases h : s.selected ≠ some name ∧ name ∈ s.templates
    · refine .inl ?_
      simp only [update, State.select, if_pos h]
      rfl
    · refine .inr ?_
      simp only [update, State.select, if_neg h]
  | renderRequested =>
    by_cases hbusy : s.render.phase.inFlight = true
    · exact .inr (update_renderRequested_busy hbusy)
    · refine .inl ?_
      simp only [update, State.requestRender, if_neg hbusy]
      cases s.selected <;> rfl
  | renderDispatched id =>
    by_cases h : s.render.inFlight = some id ∧ s.render.phase = .submitting <;>
      simp [update, State.markCompiling, State.touched, h]
  | renderCompleted id outcome now =>
    by_cases hid : s.render.inFlight = some id
    · -- the job of a render is set without the mark, but the end of the render sets it
      refine .inl ?_
      rw [update_renderCompleted_awaited hid, applyOutcome_eq]
    · exact .inr (update_renderCompleted_stale hid outcome now)
  | sourceExtractRequested =>
    simp only [update, State.requestExtract]
    cases s.selected with
    | none => exact .inr rfl
    | some template => exact .inl rfl
  | sourceExtracted id result =>
    by_cases h : s.source = .pending id <;> simp [update, State.noteExtract, State.touched, h]
  | logResetRequested =>
    by_cases h : s.render.log = [] <;> simp [update, State.clearLog, State.touched, h]
  | exportRequested =>
    simp only [update, State.requestExport]
    cases s.render.artifactRef with
    | none => exact .inr rfl
    | some reference =>
      by_cases h : s.exported = .pending
      · exact .inr (by simp only [if_pos h])
      · refine .inl ?_
        simp only [if_neg h]
        rfl
  | exportFinished result =>
    by_cases h : s.exported = .pending <;>
      simp [update, State.noteExport, State.setExport, State.touched, h]

end RenderDesk.Session

namespace RenderDesk.Terminal

open RenderDesk.Session

/-! ## §2. What is shown. -/

namespace Desk

/-- What is shown is the view of the session, and no change is left to show. -/
structure Current (d : Desk) : Prop where
  shown : d.shown = d.session.view
  clean : d.session.dirty = false

theorem preferring_current (template : String) : (Desk.preferring template).Current :=
  ⟨rfl, rfl⟩

/-- A session in front of a current screen is what the update makes of it, with
the mark taken off. -/
theorem Current.dispatch_session {d : Desk} (h : d.Current) (m : Message) :
    (d.dispatch m).1.session = (update d.session m).1.seen := by
  rcases update_marks d.session m with hmark | hsame
  · simp [dispatch, report, hmark]
  · have hclean := h.clean
    simp only [dispatch, report, hsame, hclean, Bool.false_eq_true, if_false]
    show d.session = { d.session with dirty := false }
    rw [← hclean]

theorem dispatch_current {d : Desk} (h : d.Current) (m : Message) : (d.dispatch m).1.Current := by
  refine ⟨?_, ?_⟩
  · rcases update_marks d.session m with hmark | hsame
    · simp [dispatch, report, hmark]
    · simp only [dispatch, report, hsame, h.clean, Bool.false_eq_true, if_false]
      exact h.shown
  · rw [h.dispatch_session]
    rfl

theorem carryOut_current {d : Desk} (h : d.Current) (read : Reader) (c : Command) :
    (d.carryOut read c).1.Current := by
  cases c with
  | render => exact dispatch_current h .renderRequested
  | source => exact dispatch_current h .sourceExtractRequested
  | useTemplate name => exact dispatch_current h (.templateSelected name)
  | clearLog => exact dispatch_current h .logResetRequested
  | saveArtifact => exact dispatch_current h .exportRequested
  | load path =>
    simp only [carryOut]
    split <;> exact h
  | quit => exact ⟨h.shown, h.clean⟩
  | _ => exact h

theorem answer_current {d : Desk} (h : d.Current) (read : Reader) (i : Incoming) :
    (d.answer read i).1.Current := by
  cases i with
  | message m => exact dispatch_current h m
  | notice text => exact h
  | command c =>
    simp only [answer, command]
    split
    · exact dispatch_current h _
    · exact carryOut_current h read c
  | inputClosed => exact ⟨h.shown, h.clean⟩

/-- Whatever the desk takes in, its screen stays current. -/
theorem take_current {d : Desk} (h : d.Current) (read : Reader) (i : Incoming) :
    (d.take read i).1.Current := by
  unfold take
  split
  · exact h
  · have ha := answer_current h read i
    simp only [settled]
    split
    · exact ⟨ha.shown, ha.clean⟩
    · exact ha

/-! ## §3. Messages one after another. -/

/-- The desk after messages. -/
def after (d : Desk) (ms : List Message) : Desk := ms.foldl (fun d m => (d.dispatch m).1) d

theorem after_snoc (d : Desk) (ms : List Message) (m : Message) :
    d.after (ms ++ [m]) = ((d.after ms).dispatch m).1 := by
  simp [after]

theorem after_current {d : Desk} (h : d.Current) (ms : List Message) : (d.after ms).Current := by
  induction ms generalizing d with
  | nil => exact h
  | cons m ms ih => exact ih (dispatch_current h m)

/-- **The screen is never behind the session**: no message changes a state
without its mark, be it set before or not, so after every message of a new desk
its view is shown. -/
theorem screen_current (template : String) (ms : List Message) :
    (∀ s m, (update s m).1.dirty = true ∨ update s m = (s, []))
      ∧ ((Desk.preferring template).after ms).shown
        = ((Desk.preferring template).after ms).session.view :=
  ⟨update_marks, (after_current (preferring_current template) ms).shown⟩

/-- An export is asked for when there is nothing to export: nothing is printed. -/
example : (((Desk.preferring "t").dispatch (.documentEdited "a")).1.dispatch
    .exportRequested).2.output = "" := by
  decide

end Desk

end RenderDesk.Terminal

/-! ## §4. Sessions. -/

namespace RenderDesk.Program.System

open RenderDesk.Storage (Guard)
open RenderDesk.Terminal

variable {σ : Type} {x : Surroundings σ} {s : System σ}

/-- Of all moves only the desk's own one changes what is on the screen. -/
theorem step_current (h : s.desk.Current) (m : Move) : (s.step x m).desk.Current := by
  cases m with
  | read =>
    simp only [step]
    split
    · exact h
    · split <;> exact h
  | engine move => exact h
  | relay now =>
    simp only [step]
    split <;> exact h
  | take =>
    simp only [step]
    split
    · exact Desk.take_current h _ _
    · exact h

theorem run_current (h : s.desk.Current) (moves : List Move) : (s.run x moves).desk.Current := by
  induction moves generalizing s with
  | nil => exact h
  | cons m moves ih => exact ih (step_current h m)

/-- **In every run of a session its view is shown**, whatever is typed, whatever
the service answers, and in whatever order its parts move. -/
theorem session_current (x : Surroundings σ) (template document : String) (guard : Guard)
    (stored : σ) (typed : List String) (moves : List Move) :
    ((System.begin template document guard stored typed).run x moves).desk.Current :=
  run_current
    (Desk.dispatch_current (Desk.preferring_current template) (.sessionStarted document)) moves

end RenderDesk.Program.System
