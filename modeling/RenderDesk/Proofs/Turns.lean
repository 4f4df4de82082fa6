/-
  RenderDesk.Proofs.Turns
  ───────────────────────
  All that a message can do to the render.

  The render of a session, the number of the next one and the stamps are in
  the hands of few messages.  They are listed here with what guards them and
  with the state that they leave; any other message keeps away from all three.

  Main statement: `update_turn` — every message is one of these.
-/
import RenderDesk.Proofs.Outcome

namespace RenderDesk.Session

open RenderDesk.Service

/-- The render that an effect sends. -/
def Effect.render? : Effect → Option (RenderId × CompileRequest)
  | .submitRender id request => some (id, request)
  | _ => none

/-- What a message does to the render. -/
inductive State.Turn (s : State) (m : Message) : Prop where
  /-- A render is sent. -/
  | begun {template : String} :
      m = .renderRequested → s.render.phase.inFlight = false → s.selected = some template →
      update s m = (s.beginRender LogLine.sending,
        [.submitRender s.nextRender (s.request template true)]) → Turn s m
  /-- There is no template to send one with. -/
  | unsent :
      m = .renderRequested → s.render.phase.inFlight = false → s.selected = none →
      update s m = (s.failRender LogLine.noTemplate, []) → Turn s m
  | dispatched {id : RenderId} :
      m = .renderDispatched id → s.render.inFlight = some id → s.render.phase = .submitting →
      update s m = ({ s with render := { s.render with phase := .compiling } }.touched, []) →
      Turn s m
  | ended {id : RenderId} {outcome : Outcome} {now : UInt64} :
      m = .renderCompleted id outcome now → s.render.inFlight = some id →
      update s m = (s.applyOutcome outcome now, []) → Turn s m
  | cleared :
      m = .logResetRequested →
      update s m = ({ s with render := { s.render with log := [] } }.touched, []) → Turn s m
  /-- The render is left alone, and so is the whole state by an end that is not
  awaited. -/
  | apart :
      (∀ id outcome now, m = .renderCompleted id outcome now →
        s.render.inFlight ≠ some id ∧ update s m = (s, [])) →
      (update s m).1.render = s.render → (update s m).1.nextRender = s.nextRender →
      (update s m).1.stamper = s.stamper → (update s m).2.filterMap Effect.render? = [] →
      Turn s m

/-- A message that changes nothing, and reports no end, keeps away. -/
theorem turn_of_idle {s : State} {m : Message}
    (hm : ∀ id outcome now, m ≠ .renderCompleted id outcome now)
    (h : update s m = (s, [])) : s.Turn m := by
  refine .apart (fun id outcome now hc => absurd hc (hm id outcome now)) ?_ ?_ ?_ ?_ <;> rw [h]
  rfl

theorem requested_turn (s : State) : s.Turn .renderRequested := by
  -- the guards of the request in their order: nothing in flight, then a template
  by_cases hbusy : s.render.phase.inFlight = true
  · exact turn_of_idle (by simp) (update_renderRequested_busy hbusy)
  · have hfree : s.render.phase.inFlight = false := by simpa using hbusy
    cases hsel : s.selected with
    | none =>
      refine .unsent rfl hfree hsel ?_
      simp only [update, State.requestRender, hfree, hsel, Bool.false_eq_true, if_false]
    | some template =>
      refine .begun rfl hfree hsel ?_
      simp only [update, State.requestRender, hfree, hsel, Bool.false_eq_true, if_false]

theorem dispatched_turn (s : State) (id : RenderId) : s.Turn (.renderDispatched id) := by
  by_cases h : s.render.inFlight = some id ∧ s.render.phase = .submitting
  · refine .dispatched rfl h.1 h.2 ?_
    simp only [update, State.markCompiling, h, and_self, if_true]
  · refine turn_of_idle (by simp) ?_
    simp only [update, State.markCompiling, h, if_false]

theorem completed_turn (s : State) (id : RenderId) (outcome : Outcome) (now : UInt64) :
    s.Turn (.renderCompleted id outcome now) := by
  by_cases hid : s.render.inFlight = some id
  · exact .ended rfl hid (update_renderCompleted_awaited hid outcome now)
  · have hstays := update_renderCompleted_stale hid outcome now
    refine .apart ?_ ?_ ?_ ?_ ?_
    · intro other _ _ hm
      injection hm with hother
      rw [← hother]
      exact ⟨hid, hstays⟩
    all_goals rw [hstays]
    rfl

theorem cleared_turn (s : State) : s.Turn .logResetRequested := by
  by_cases hlog : s.render.log = []
  · refine turn_of_idle (by simp) ?_
    simp only [update, State.clearLog, hlog, if_true]
  · refine .cleared rfl ?_
    simp only [update, State.clearLog, hlog, if_false]

/-- **Every message** begins a render or brings it further, or keeps away from
it. -/
theorem update_turn (s : State) (m : Message) : s.Turn m := by
  cases m with
  | renderRequested => exact requested_turn s
  | renderDispatched id => exact dispatched_turn s id
  | renderCompleted id outcome now => exact completed_turn s id outcome now
  | logResetRequested => exact cleared_turn s
  | _ =>
    -- what is left writes to the document, the templates, the source or the export
    refine .apart (by simp) ?_ ?_ ?_ ?_ <;>
      (simp only [update, State.noteSaved, State.select, State.requestExtract, State.noteExtract,
         State.requestExport, State.noteExport]
       repeat' split
       all_goals rfl)

end RenderDesk.Session
