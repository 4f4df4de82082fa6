/-
  RenderDesk.Proofs.Coherence
  ───────────────────────────
  What holds of a session whatever has happened to it.

  The parts of a state are set by different operations, and each of them
  restores only some of its fields.  `State.Coherent` says how the fields
  belong together; every message keeps it, in any order of messages and with
  looks of the display in between.

  Main statements:
    * `update_coherent` — a message keeps a state coherent;
    * `acts_coherent` — so does everything that can happen to a new session.
-/
import RenderDesk.Proofs.Outcome

namespace RenderDesk.Session

open RenderDesk.Service

/-! ## §1. Coherent states. -/

/-- The fields of a render belong together; `next` is the number of the render
that comes next. -/
structure Render.Coherent (r : Render) (next : RenderId) : Prop where
  flight : r.inFlight.isSome = true ↔ r.phase = .submitting ∨ r.phase = .compiling
  latest : ∀ id, r.inFlight = some id → id = next - 1
  job : r.jobId.isSome = true → r.phase = .succeeded
  succeeded : r.phase = .succeeded →
    r.conclusion = some .newArtifact ∨ r.conclusion = some .noArtifact
  failed : r.phase = .failed → r.conclusion = some .failed ∨ r.conclusion = some .timedOut
  idle : r.phase = .idle →
    r.log = [] ∧ r.conclusion = none ∧ r.artifactRef = none ∧ next = 1
  artifact : r.conclusion = some .newArtifact → r.artifactRef.isSome = true
  pieces : ∀ piece ∈ r.log, piece ≠ ""

/-- The parts of a state belong together. -/
structure State.Coherent (s : State) : Prop where
  render : s.render.Coherent s.nextRender
  exported : s.exported ≠ .none → s.render.artifactRef.isSome = true
  source : ∀ id, s.source = .pending id → id = s.nextExtract - 1
  unselected : s.selected = none ↔ s.templates = []
  selected : ∀ name, s.selected = some name → name ∈ s.templates

theorem preferring_coherent (template : String) : (State.preferring template).Coherent where
  render :=
    { flight := by simp [State.preferring]
      latest := by simp [State.preferring]
      job := by simp [State.preferring]
      succeeded := by simp [State.preferring]
      failed := by simp [State.preferring]
      idle := by simp [State.preferring]
      artifact := by simp [State.preferring]
      pieces := by simp [State.preferring] }
  exported := by simp [State.preferring]
  source := by simp [State.preferring]
  unselected := by simp [State.preferring]
  selected := by simp [State.preferring]

/-- Whether an answer is awaited can be read off the phase. -/
theorem Render.Coherent.inFlight_eq_none {r : Render} {next : RenderId} (h : r.Coherent next) :
    r.inFlight = none ↔ r.phase.inFlight = false := by
  have hf := h.flight
  cases hr : r.inFlight <;> cases hp : r.phase <;> simp_all [Phase.inFlight]

theorem Render.Coherent.busy {r : Render} {next id : RenderId} (h : r.Coherent next)
    (hflight : r.inFlight = some id) : r.phase.inFlight = true := by
  cases hphase : r.phase.inFlight with
  | true => rfl
  | false =>
    rw [h.inFlight_eq_none.2 hphase] at hflight
    cases hflight

/-- No job is shown while an answer is awaited. -/
theorem Render.Coherent.no_job {r : Render} {next : RenderId} (h : r.Coherent next)
    (hf : r.phase.inFlight = true) : r.jobId = none := by
  cases hjob : r.jobId with
  | none => rfl
  | some job =>
    have hsucceeded := h.job (Option.isSome_iff_exists.2 ⟨job, hjob⟩)
    rw [hsucceeded] at hf
    exact absurd hf (by decide)

/-! ## §2. The render. -/

theorem Render.Coherent.begin {r : Render} {next : RenderId} (h : r.Coherent next) {line : String}
    (hl : line ≠ "") :
    ({ r with
        phase := .submitting, log := [line], jobId := none, inFlight := some next } :
      Render).Coherent (next + 1) where
  flight := by simp
  latest := by
    intro id hid
    have hnext : next + 1 - 1 = next := by rw [UInt64.add_sub_cancel]
    rw [hnext]
    exact (Option.some.inj hid).symm
  job := by simp
  succeeded := by simp
  failed := by simp
  idle := by simp
  artifact := h.artifact
  pieces := by simpa using hl

theorem Render.Coherent.fail {r : Render} {next : RenderId} (h : r.Coherent next)
    (hf : r.phase.inFlight = false) {line : String} (hl : line ≠ "") :
    ({ r with
        phase := .failed, log := [line], jobId := none, conclusion := some .failed } :
      Render).Coherent next where
  flight := by simp [h.inFlight_eq_none.2 hf]
  latest := h.latest
  job := by simp
  succeeded := by simp
  failed := by simp
  idle := by simp
  artifact := by simp
  pieces := by simpa using hl

theorem Render.Coherent.compile {r : Render} {next : RenderId} (h : r.Coherent next)
    (hp : r.phase = .submitting) : ({ r with phase := .compiling } : Render).Coherent next where
  flight := by simpa [hp] using h.flight
  latest := h.latest
  job := by
    intro hj
    have hs := h.job hj
    rw [hp] at hs
    exact absurd hs (by decide)
  succeeded := by simp
  failed := by simp
  idle := by simp
  artifact := h.artifact
  pieces := h.pieces

theorem Render.Coherent.clear {r : Render} {next : RenderId} (h : r.Coherent next) :
    ({ r with log := [] } : Render).Coherent next where
  flight := h.flight
  latest := h.latest
  job := h.job
  succeeded := h.succeeded
  failed := h.failed
  idle := by
    intro hi
    exact ⟨rfl, (h.idle hi).2⟩
  artifact := h.artifact
  pieces := by simp

/-- A job is shown at the end of a render only if it was shown before, or the
render brought it and succeeded. -/
theorem jobOr_phase (o : Outcome) {before : Option String} (hb : before = none)
    (h : (o.jobOr before).isSome = true) : o.phase = .succeeded := by
  cases o <;> simp_all [Outcome.jobOr, Outcome.phase]

theorem conclusion_of_phase (o : Outcome) :
    (o.phase = .succeeded ∧ (o.conclusion = .newArtifact ∨ o.conclusion = .noArtifact))
    ∨ (o.phase = .failed ∧ (o.conclusion = .failed ∨ o.conclusion = .timedOut)) := by
  cases o with
  | compiled jobId log artifact => cases artifact <;> simp [Outcome.phase, Outcome.conclusion]
  | _ => simp [Outcome.phase, Outcome.conclusion]

theorem artifact?_of_conclusion {o : Outcome} (h : o.conclusion = .newArtifact) :
    o.artifact?.isSome = true := by
  cases o with
  | compiled jobId log artifact => cases artifact <;> simp_all [Outcome.conclusion, Outcome.artifact?]
  | _ => simp [Outcome.conclusion] at h

theorem Render.Coherent.ending {r : Render} {next : RenderId} (h : r.Coherent next)
    (hf : r.phase.inFlight = true) (o : Outcome) (stamp : UInt64) :
    (o.ending stamp r).Coherent next where
  flight := by
    rcases conclusion_of_phase o with ⟨hp, _⟩ | ⟨hp, _⟩ <;> simp [Outcome.ending, hp]
  latest := by simp [Outcome.ending]
  job := by
    intro hj
    exact jobOr_phase o (h.no_job hf) hj
  succeeded := by
    intro hs
    -- phase and conclusion are set together
    rcases conclusion_of_phase o with ⟨_, hc⟩ | ⟨hp, _⟩
    · simpa [Outcome.ending] using hc
    · rw [show (o.ending stamp r).phase = o.phase from rfl, hp] at hs
      exact absurd hs (by decide)
  failed := by
    intro hs
    rcases conclusion_of_phase o with ⟨hp, _⟩ | ⟨_, hc⟩
    · rw [show (o.ending stamp r).phase = o.phase from rfl, hp] at hs
      exact absurd hs (by decide)
    · simpa [Outcome.ending] using hc
  idle := by
    intro hs
    rcases conclusion_of_phase o with ⟨hp, _⟩ | ⟨hp, _⟩ <;>
      (rw [show (o.ending stamp r).phase = o.phase from rfl, hp] at hs
       exact absurd hs (by decide))
  artifact := by
    intro hc
    have ha := artifact?_of_conclusion (Option.some.inj hc)
    obtain ⟨reference, hr⟩ := Option.isSome_iff_exists.1 ha
    simp [Outcome.ending, hr]
  pieces := by
    intro piece hp
    rcases List.mem_append.1 hp with hold | hnew
    · exact h.pieces piece hold
    · exact pieces_nonempty o piece hnew

/-- A reference that was shown once is never taken away. -/
theorem ending_artifactRef {r : Render} (h : r.artifactRef.isSome = true) (o : Outcome)
    (stamp : UInt64) : (o.ending stamp r).artifactRef.isSome = true := by
  cases ha : o.artifact? <;> simp [Outcome.ending, ha, h]

/-! ## §3. Templates. -/

theorem pick_eq_none_iff {preferred : String} {templates : List String} :
    State.pick preferred templates = none ↔ templates = [] := by
  unfold State.pick
  by_cases hp : preferred ∈ templates
  · rw [if_pos hp]
    have hne : templates ≠ [] := List.ne_nil_of_mem hp
    simp [hne]
  · rw [if_neg hp, List.head?_eq_none_iff]

theorem pick_mem {preferred name : String} {templates : List String}
    (h : State.pick preferred templates = some name) : name ∈ templates := by
  unfold State.pick at h
  by_cases hp : preferred ∈ templates
  · rw [if_pos hp] at h
    exact Option.some.inj h ▸ hp
  · rw [if_neg hp] at h
    exact List.mem_of_mem_head? h

/-! ## §4. The operations. -/

theorem State.Coherent.setTemplates {s : State} (h : s.Coherent) (templates : List String) :
    (s.setTemplates templates).Coherent :=
  ⟨h.render, h.exported, h.source, pick_eq_none_iff, fun _ hn => pick_mem hn⟩

theorem State.Coherent.select {s : State} (h : s.Coherent) (name : String) :
    (s.select name).Coherent := by
  unfold State.select
  split
  · next hs =>
    obtain ⟨_, hm⟩ := hs
    refine ⟨h.render, h.exported, h.source, ?_, ?_⟩
    · -- a list with a member is not empty
      have hne : s.templates ≠ [] := List.ne_nil_of_mem hm
      simpa [State.touched] using hne
    · intro other ho
      exact Option.some.inj ho ▸ hm
  · exact h

theorem State.Coherent.requestRender {s : State} (h : s.Coherent) :
    s.requestRender.1.Coherent := by
  unfold State.requestRender
  by_cases hf : s.render.phase.inFlight = true
  · rw [if_pos hf]
    exact h
  · rw [if_neg hf]
    have hf : s.render.phase.inFlight = false := by simpa using hf
    cases hs : s.selected with
    | none =>
      exact ⟨h.render.fail hf (by decide), h.exported, h.source, h.unselected, h.selected⟩
    | some template =>
      exact ⟨h.render.begin (by decide), h.exported, h.source, h.unselected, h.selected⟩

theorem State.Coherent.markCompiling {s : State} (h : s.Coherent) (id : RenderId) :
    (s.markCompiling id).Coherent := by
  unfold State.markCompiling
  split
  · next hs =>
    exact ⟨h.render.compile hs.2, h.exported, h.source, h.unselected, h.selected⟩
  · exact h

theorem State.Coherent.applyOutcome {s : State} (h : s.Coherent) {id : RenderId}
    (hid : s.render.inFlight = some id) (o : Outcome) (now : UInt64) :
    (s.applyOutcome o now).Coherent := by
  have hf : s.render.phase.inFlight = true := by
    cases hp : s.render.phase.inFlight with
    | true => rfl
    | false =>
      rw [h.render.inFlight_eq_none.2 hp] at hid
      exact absurd hid (by simp)
  rw [applyOutcome_eq]
  -- a failed render keeps the artifact of the one before, so an export may go on
  refine ⟨h.render.ending hf o _, ?_, h.source, h.unselected, h.selected⟩
  intro he
  exact ending_artifactRef (h.exported he) o _

theorem State.Coherent.requestExtract {s : State} (h : s.Coherent) :
    s.requestExtract.1.Coherent := by
  unfold State.requestExtract
  cases hs : s.selected with
  | none => exact h
  | some template =>
    refine ⟨h.render, h.exported, ?_, h.unselected, h.selected⟩
    intro id hid
    have hnext : s.nextExtract = id := by
      simpa [State.beginExtract, State.touched] using hid
    show id = s.nextExtract + 1 - 1
    rw [UInt64.add_sub_cancel, hnext]

theorem State.Coherent.noteExtract {s : State} (h : s.Coherent) (id : ExtractId)
    (result : Except String String) : (s.noteExtract id result).Coherent := by
  unfold State.noteExtract
  split
  · refine ⟨h.render, h.exported, ?_, h.unselected, h.selected⟩
    intro other ho
    cases result <;> simp [State.touched] at ho
  · exact h

theorem State.Coherent.clearLog {s : State} (h : s.Coherent) : s.clearLog.Coherent := by
  unfold State.clearLog
  split
  · exact h
  · exact ⟨h.render.clear, h.exported, h.source, h.unselected, h.selected⟩

theorem State.Coherent.requestExport {s : State} (h : s.Coherent) :
    s.requestExport.1.Coherent := by
  unfold State.requestExport
  cases ha : s.render.artifactRef with
  | none => exact h
  | some reference =>
    by_cases hp : s.exported = .pending
    · simpa only [hp, if_true] using h
    · simp only [hp, if_false]
      refine ⟨h.render, ?_, h.source, h.unselected, h.selected⟩
      intro _
      show s.render.artifactRef.isSome = true
      rw [ha]
      rfl

theorem State.Coherent.noteExport {s : State} (h : s.Coherent) (result : Except String String) :
    (s.noteExport result).Coherent := by
  unfold State.noteExport
  by_cases hp : s.exported = .pending
  · rw [if_pos hp]
    -- an export that is awaited has an artifact
    have ha := h.exported (by rw [hp]; decide)
    exact ⟨h.render, fun _ => ha, h.source, h.unselected, h.selected⟩
  · rw [if_neg hp]
    exact h

/-! ## §5. Every message and every run. -/

theorem update_coherent {s : State} (h : s.Coherent) (m : Message) : (update s m).1.Coherent := by
  cases m with
  | sessionStarted document =>
    exact ⟨h.render, h.exported, h.source, h.unselected, h.selected⟩
  | documentEdited text => exact ⟨h.render, h.exported, h.source, h.unselected, h.selected⟩
  | documentSaved revision =>
    show (s.noteSaved revision).Coherent
    unfold State.noteSaved
    split
    · exact ⟨h.render, h.exported, h.source, h.unselected, h.selected⟩
    · exact h
  | templatesLoaded templates => exact h.setTemplates templates
  | templateSelected name => exact h.select name
  | renderRequested => exact h.requestRender
  | renderDispatched id => exact h.markCompiling id
  | renderCompleted id outcome now =>
    by_cases hid : s.render.inFlight = some id
    · simp only [update, hid, if_true]
      exact h.applyOutcome hid outcome now
    · rw [update_renderCompleted_stale hid]
      exact h
  | sourceExtractRequested => exact h.requestExtract
  | sourceExtracted id result => exact h.noteExtract id result
  | logResetRequested => exact h.clearLog
  | exportRequested => exact h.requestExport
  | exportFinished result => exact h.noteExport result

/-- What can happen to a state: a message arrives, or the display takes note
of the changes. -/
inductive Act where
  | message (m : Message)
  | look

def State.act (s : State) : Act → State
  | .message m => (update s m).1
  | .look => s.seen

theorem act_coherent {s : State} (h : s.Coherent) (a : Act) : (s.act a).Coherent := by
  cases a with
  | message m => exact update_coherent h m
  | look => exact ⟨h.render, h.exported, h.source, h.unselected, h.selected⟩

theorem foldl_act_coherent {s : State} (h : s.Coherent) (acts : List Act) :
    (acts.foldl State.act s).Coherent := by
  induction acts generalizing s with
  | nil => exact h
  | cons a acts ih => exact ih (act_coherent h a)

/-- **A session is coherent whatever has happened to it.** -/
theorem acts_coherent (template : String) (acts : List Act) :
    (acts.foldl State.act (.preferring template)).Coherent :=
  foldl_act_coherent (preferring_coherent template) acts

end RenderDesk.Session
