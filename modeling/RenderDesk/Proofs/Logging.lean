/-
  RenderDesk.Proofs.Logging
  ─────────────────────────
  What a message can make of the log, and what is in it after a render.

  A log is begun anew when a render is requested, emptied when the user wants
  so, and otherwise it only grows at its end, by what the end of a render has
  to say.  Whatever comes while a render is under way leaves it at its first
  piece, so the log of a finished render tells of that render only.

  Main statements:
    * `update_log` — all that a message can make of the log;
    * `act_underWay` — a render under way has written its first piece only;
    * `rendered_log` — the log after a render, piece by piece;
    * `log_disciplined` — any two sessions have the same log after renders with
      the same outcome.
-/
import RenderDesk.Proofs.SingleFlight

/-! ## §1. What an outcome writes. -/

namespace RenderDesk.Service

open RenderDesk.Session

/-- The service's own log of a render. -/
def Outcome.backendLog? : Outcome → Option String
  | .compiled _ log _ | .rejected log _ => log
  | .transportFailed _ | .timedOut _ => none

/-- The pieces behind the service's own log. -/
def Outcome.closing : Outcome → List String
  | .compiled _ _ (some _) => [LogLine.converted, LogLine.compiled]
  | .compiled _ _ none => [LogLine.converted, LogLine.noPdf]
  | .rejected _ detail => [LogLine.error detail]
  | .transportFailed reason => [LogLine.error reason]
  | .timedOut after => [LogLine.timedOut after]

/-- The service's own log loses the blanks at its end, and is left out if
nothing else is in it. -/
theorem backendPieces_eq (log : Option String) :
    backendPieces log = ((log.map Text.trimmedEnd).filter (· ≠ "")).toList := by
  cases log with
  | none => rfl
  | some text =>
    by_cases hblank : Text.trimmedEnd text = "" <;>
      simp [backendPieces, Option.filter, hblank]

theorem pieces_eq (o : Outcome) :
    o.pieces
      = ((o.backendLog?.map Text.trimmedEnd).filter (· ≠ "")).toList ++ o.closing := by
  rw [← backendPieces_eq]
  cases o with
  | compiled jobId log artifact => cases artifact <;> rfl
  | _ => rfl

end RenderDesk.Service

namespace RenderDesk.Session

open RenderDesk.Service

/-! ## §2. One message. -/

/-- What a message makes of the log. -/
inductive State.Logs (s : State) (m : Message) (log : List String) : Prop where
  /-- A render is sent. -/
  | opened {template : String} :
    m = .renderRequested → s.render.phase.inFlight = false → s.selected = some template →
    log = [LogLine.sending] → Logs s m log
  /-- There is no template to send one with. -/
  | unsent :
    m = .renderRequested → s.render.phase.inFlight = false → s.selected = none →
    log = [LogLine.noTemplate] → Logs s m log
  | emptied : m = .logResetRequested → log = [] → Logs s m log
  /-- The render in flight ends. -/
  | extended {id : RenderId} {outcome : Outcome} {now : UInt64} :
    m = .renderCompleted id outcome now → s.render.inFlight = some id →
    log = s.render.log ++ outcome.pieces → Logs s m log
  /-- Nothing of this happens. -/
  | kept :
    m ≠ .logResetRequested → (m = .renderRequested → s.render.phase.inFlight = true) →
    (∀ id outcome now, m = .renderCompleted id outcome now → s.render.inFlight ≠ some id) →
    log = s.render.log → Logs s m log

theorem requested_log (s : State) :
    s.Logs .renderRequested (update s .renderRequested).1.render.log := by
  show s.Logs .renderRequested s.requestRender.1.render.log
  unfold State.requestRender
  cases hbusy : s.render.phase.inFlight with
  | true => exact .kept (by simp) (fun _ => hbusy) (by simp) rfl
  | false =>
    cases hselected : s.selected with
    | none => exact .unsent rfl hbusy hselected rfl
    | some template => exact .opened rfl hbusy hselected rfl

theorem completed_log (s : State) (id : RenderId) (outcome : Outcome) (now : UInt64) :
    s.Logs (.renderCompleted id outcome now)
      (update s (.renderCompleted id outcome now)).1.render.log := by
  by_cases hid : s.render.inFlight = some id
  · refine .extended rfl hid ?_
    rw [update_renderCompleted_awaited hid, applyOutcome_eq]
    rfl
  · rw [update_renderCompleted_stale hid]
    refine .kept (by simp) (by simp) ?_ rfl
    intro other _ _ hm
    injection hm with hother
    rw [← hother]
    exact hid

theorem reset_log (s : State) :
    s.Logs .logResetRequested (update s .logResetRequested).1.render.log := by
  refine .emptied rfl ?_
  show s.clearLog.render.log = []
  unfold State.clearLog
  split
  · assumption
  · rfl

/-- **A log is begun anew, emptied, or grows at its end**, each on one message
only; any other message leaves it as it is. -/
theorem update_log (s : State) (m : Message) : s.Logs m (update s m).1.render.log := by
  cases m with
  | renderRequested => exact requested_log s
  | renderCompleted id outcome now => exact completed_log s id outcome now
  | logResetRequested => exact reset_log s
  | renderDispatched id =>
    refine .kept (by simp) (by simp) (by simp) ?_
    show (s.markCompiling id).render.log = s.render.log
    unfold State.markCompiling
    split <;> rfl
  | _ =>
    -- what is left keeps away from the whole render
    refine .kept (by simp) (by simp) (by simp) (congrArg Render.log ?_)
    simp only [update, State.noteSaved, State.select, State.requestExtract, State.noteExtract,
      State.requestExport, State.noteExport]
    repeat' split
    all_goals rfl

/-! ## §3. One render. -/

/-- The render with a number is under way, and has written its first piece
only. -/
structure State.UnderWay (s : State) (id : RenderId) : Prop where
  inFlight : s.render.inFlight = some id
  busy : s.render.phase.inFlight = true
  log : s.render.log = [LogLine.sending]

/-- Acts that neither empty the log nor end the render with a number. -/
def Undisturbed (id : RenderId) (acts : List Act) : Prop :=
  ∀ a ∈ acts, a ≠ .message .logResetRequested ∧ a.completed? ≠ some id

/-- A render is requested, acts follow, and its end is reported. -/
def State.rendered (s : State) (between : List Act) (outcome : Outcome) (now : UInt64) : State :=
  ((s.act (.message .renderRequested)).after between).act
    (.message (.renderCompleted s.nextRender outcome now))

theorem requested_underWay {s : State} (hfree : s.render.phase.inFlight = false)
    (hselected : s.selected.isSome = true) :
    (s.act (.message .renderRequested)).UnderWay s.nextRender := by
  obtain ⟨template, htemplate⟩ := Option.isSome_iff_exists.1 hselected
  have hact : s.act (.message .renderRequested) = s.beginRender LogLine.sending := by
    simp only [State.act, update, State.requestRender, hfree, htemplate, Bool.false_eq_true,
      if_false]
  rw [hact]
  exact ⟨rfl, rfl, rfl⟩

/-- A render stays under way until its end is reported. -/
theorem act_underWay {s : State} {id : RenderId} (h : s.UnderWay id) {a : Act}
    (hreset : a ≠ .message .logResetRequested) (hend : a.completed? ≠ some id) :
    (s.act a).UnderWay id := by
  cases a with
  | look => exact ⟨h.inFlight, h.busy, h.log⟩
  | message m =>
    show (update s m).1.UnderWay id
    cases update_turn s m with
    | begun _ hfree | unsent _ hfree =>
      rw [h.busy] at hfree
      cases hfree
    | dispatched _ _ _ hu =>
      rw [hu]
      exact ⟨h.inFlight, rfl, h.log⟩
    | ended hm hid =>
      -- the render that ends is the one in flight
      rw [h.inFlight] at hid
      subst hm
      exact absurd hid.symm hend
    | cleared hm =>
      subst hm
      exact absurd rfl hreset
    | apart _ hrender =>
      constructor <;> rw [hrender]
      · exact h.inFlight
      · exact h.busy
      · exact h.log

theorem after_underWay {s : State} {id : RenderId} (h : s.UnderWay id) {acts : List Act}
    (hacts : Undisturbed id acts) : (s.after acts).UnderWay id := by
  induction acts generalizing s with
  | nil => exact h
  | cons a acts ih =>
    obtain ⟨hreset, hend⟩ := hacts a List.mem_cons_self
    exact ih (act_underWay h hreset hend) fun b hb => hacts b (List.mem_cons_of_mem a hb)

/-- **The log after a render tells of this render only**, whatever was in the log
before and whatever has happened in between. -/
theorem rendered_log {s : State} (hfree : s.render.phase.inFlight = false)
    (hselected : s.selected.isSome = true) {between : List Act}
    (hbetween : Undisturbed s.nextRender between) (outcome : Outcome) (now : UInt64) :
    (s.rendered between outcome now).render.log = LogLine.sending :: outcome.pieces := by
  have hway := after_underWay (requested_underWay hfree hselected) hbetween
  show (update _ _).1.render.log = _
  rw [update_renderCompleted_awaited hway.inFlight, applyOutcome_eq]
  show _ ++ outcome.pieces = _
  rw [hway.log]
  rfl

/-! ## §4. Two sessions. -/

/-- What can have become of a new session, when no answer is awaited and a
template is selected. -/
structure State.Ready (s : State) : Prop where
  reached : ∃ template acts, s = (State.preferring template).after acts
  free : s.render.phase.inFlight = false
  selected : s.selected.isSome = true

/-- **The log is disciplined.**  In every state that a session can get into, a
message makes of it what it should; and in any two such states a render with the
same outcome leaves the same log, made of the outcome alone. -/
theorem log_disciplined :
    (∀ (template : String) (acts : List Act) (m : Message),
      ((State.preferring template).after acts).Logs m
        (update ((State.preferring template).after acts) m).1.render.log)
    ∧ ∀ {s₁ s₂ : State}, s₁.Ready → s₂.Ready → ∀ {between₁ between₂ : List Act},
        Undisturbed s₁.nextRender between₁ → Undisturbed s₂.nextRender between₂ →
        ∀ (outcome : Outcome) (now₁ now₂ : UInt64),
          (s₁.rendered between₁ outcome now₁).render.log
              = (s₂.rendered between₂ outcome now₂).render.log
            ∧ (s₁.rendered between₁ outcome now₁).render.log
              = LogLine.sending
                :: ((outcome.backendLog?.map Text.trimmedEnd).filter (· ≠ "")).toList
                ++ outcome.closing := by
  refine ⟨fun template acts m => update_log _ m, ?_⟩
  intro s₁ s₂ h₁ h₂ between₁ between₂ hbetween₁ hbetween₂ outcome now₁ now₂
  have hlog₁ := rendered_log h₁.free h₁.selected hbetween₁ outcome now₁
  have hlog₂ := rendered_log h₂.free h₂.selected hbetween₂ outcome now₂
  refine ⟨hlog₁.trans hlog₂.symm, ?_⟩
  rw [hlog₁, pieces_eq]
  rfl

/-- A session in which nothing was rendered yet. -/
def fresh : State := (State.preferring "t").after [.message (.templatesLoaded ["t"])]

/-- A session in which one render has failed. -/
def failedOnce : State :=
  (State.preferring "u").after
    [.message (.templatesLoaded ["a"]), .message .renderRequested,
      .message (.renderCompleted 1 (.rejected (some "! Undefined") "broken") 7)]

/-- The first session waits in peace; in the second the user goes on writing, asks
for another render, and the end of the first render is told again. -/
theorem busy_log_same :
    fresh.Ready ∧ failedOnce.Ready
      ∧ (fresh.rendered [] (.compiled none (some "done\n") none) 1).render.log
        = (failedOnce.rendered
            [.message (.documentEdited "b"), .look, .message .renderRequested,
              .message (.renderCompleted 1 (.transportFailed "late") 8),
              .message (.templatesLoaded [])]
            (.compiled none (some "done\n") none) 9).render.log := by
  have hfresh : fresh.Ready := ⟨⟨_, _, rfl⟩, rfl, rfl⟩
  have hfailed : failedOnce.Ready := ⟨⟨_, _, rfl⟩, rfl, rfl⟩
  have hnothing : Undisturbed fresh.nextRender [] := by simp [Undisturbed]
  have hnumber : failedOnce.nextRender = 2 := by decide
  refine ⟨hfresh, hfailed, (log_disciplined.2 hfresh hfailed hnothing ?_ _ 1 9).1⟩
  rw [hnumber]
  simp [Undisturbed, Act.completed?]

end RenderDesk.Session
