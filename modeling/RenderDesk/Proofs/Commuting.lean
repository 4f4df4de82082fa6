/-
  RenderDesk.Proofs.Commuting
  ───────────────────────────
  The answers of the engine may come in any order.

  A message is a change of the parts of a state, each part for itself: the
  document, the render with its stamps, the templates, the source and the
  export.  A part remembers whether it was touched, and the mark of change of
  the whole state is set when one of them was.  Two messages commute when
  they do so in every part, and in most parts one of them does nothing.

  Main statements:
    * `when_commutes` — two guarded changes commute when each of them shuts
      the guard of the other;
    * `apply_comm` — changes that commute in every part commute;
    * `update_answer` — an answer of the engine is a change;
    * `answers_commute` — two answers commute, unless they compete for one
      thing, and so do an answer and an edit.
-/
import RenderDesk.Program.Circuit
import RenderDesk.Proofs.Outcome

namespace RenderDesk.Session

open RenderDesk.Artifact (Stamper)
open RenderDesk.Service

/-! ## §1. Changes of one part. -/

/-- What is done to one part of a state: the part after it, and whether it was
touched. -/
abbrev Touch (α : Type) := α → α × Bool

namespace Touch

variable {α : Type}

def leave : Touch α := fun a => (a, false)

/-- Does something if a condition holds. -/
def when (p : α → Prop) [DecidablePred p] (f : α → α) : Touch α := fun a =>
  if p a then (f a, true) else (a, false)

/-- One after the other. -/
def andThen (f g : Touch α) : Touch α := fun a => ((g (f a).1).1, (f a).2 || (g (f a).1).2)

/-- The order of the two does not matter. -/
def Commutes (f g : Touch α) : Prop := ∀ a, f.andThen g a = g.andThen f a

theorem Commutes.symm {f g : Touch α} (h : f.Commutes g) : g.Commutes f := fun a => (h a).symm

theorem commutes_self (f : Touch α) : f.Commutes f := fun _ => rfl

theorem leave_commutes (f : Touch α) : leave.Commutes f := by
  intro a
  show ((f a).1, false || (f a).2) = ((f a).1, (f a).2 || false)
  rw [Bool.false_or, Bool.or_false]

theorem commutes_leave (f : Touch α) : f.Commutes leave := (leave_commutes f).symm

section When

variable {p q : α → Prop} [DecidablePred p] [DecidablePred q] {f g : α → α}

theorem when_pos {a : α} (h : p a) : when p f a = (f a, true) := if_pos h

theorem when_neg {a : α} (h : ¬p a) : when p f a = (a, false) := if_neg h

/-- Two guarded changes commute when each of them shuts the guard of the other. -/
theorem when_commutes (hpq : ∀ a, p a → ¬q a ∧ ¬q (f a)) (hqp : ∀ a, q a → ¬p (g a)) :
    (when p f).Commutes (when q g) := by
  intro a
  unfold andThen
  by_cases hp : p a
  · obtain ⟨hq, hqf⟩ := hpq a hp
    rw [when_pos hp, when_neg hq, when_neg hqf]
    show (f a, true || false) = ((when p f a).1, false || (when p f a).2)
    rw [when_pos hp]
    rfl
  · rw [when_neg hp]
    by_cases hq : q a
    · rw [when_pos hq, when_neg (hqp a hq)]
      rfl
    · rw [when_neg hq, when_neg hp]

/-- Two guarded changes commute when the second overwrites the first, and shuts
its guard. -/
theorem when_commutes_overwrite (hpq : ∀ a, p a → q a ∧ q (f a) ∧ g (f a) = g a)
    (hqp : ∀ a, q a → ¬p (g a)) : (when p f).Commutes (when q g) := by
  intro a
  unfold andThen
  by_cases hq : q a
  · rw [when_pos (f := g) hq, when_neg (hqp a hq)]
    by_cases hp : p a
    · obtain ⟨_, hqf, hsame⟩ := hpq a hp
      rw [when_pos hp, when_pos hqf, hsame]
      rfl
    · rw [when_neg hp, when_pos hq]
      rfl
  · have hp : ¬p a := fun hp => hq (hpq a hp).1
    rw [when_neg hp, when_neg hq, when_neg hp]

end When

end Touch

/-! ## §2. Changes of a state. -/

/-- What is done to the parts of a state. -/
structure Change where
  document : Touch Document := .leave
  /-- The render, and the stamps that its artifacts draw. -/
  render : Touch (Render × Stamper) := .leave
  /-- The templates, and the selected one. -/
  templates : Touch (List String × Option String) := .leave
  source : Touch SourceStatus := .leave
  exported : Touch ExportStatus := .leave

namespace Change

/-- Whether a change touches a part of a state. -/
def touches (c : Change) (s : State) : Bool :=
  (c.document s.document).2 || (c.render (s.render, s.stamper)).2
    || (c.templates (s.templates, s.selected)).2 || (c.source s.source).2
    || (c.exported s.exported).2

def apply (c : Change) (s : State) : State :=
  { s with
    document := (c.document s.document).1
    render := (c.render (s.render, s.stamper)).1.1
    stamper := (c.render (s.render, s.stamper)).1.2
    templates := (c.templates (s.templates, s.selected)).1.1
    selected := (c.templates (s.templates, s.selected)).1.2
    source := (c.source s.source).1
    exported := (c.exported s.exported).1
    dirty := s.dirty || c.touches s }

/-- Two changes commute in every part. -/
structure Commutes (c d : Change) : Prop where
  document : c.document.Commutes d.document
  render : c.render.Commutes d.render
  templates : c.templates.Commutes d.templates
  source : c.source.Commutes d.source
  exported : c.exported.Commutes d.exported

/-- Marks of five parts, first of one change and then of another, part by part. -/
theorem or_parts (a b c d e a' b' c' d' e' : Bool) :
    (a || b || c || d || e || (a' || b' || c' || d' || e'))
      = ((a || a') || (b || b') || (c || c') || (d || d') || (e || e')) := by
  ac_rfl

theorem touches_comm {c d : Change} (h : c.Commutes d) (s : State) :
    (c.touches s || d.touches (c.apply s)) = (d.touches s || c.touches (d.apply s)) := by
  have hdocument := congrArg Prod.snd (h.document s.document)
  have hrender := congrArg Prod.snd (h.render (s.render, s.stamper))
  have htemplates := congrArg Prod.snd (h.templates (s.templates, s.selected))
  have hsource := congrArg Prod.snd (h.source s.source)
  have hexported := congrArg Prod.snd (h.exported s.exported)
  simp only [Touch.andThen] at hdocument hrender htemplates hsource hexported
  unfold touches apply
  rw [or_parts, hdocument, hrender, htemplates, hsource, hexported, or_parts]

/-- **Changes that commute in every part commute.** -/
theorem apply_comm {c d : Change} (h : c.Commutes d) (s : State) :
    d.apply (c.apply s) = c.apply (d.apply s) := by
  have hdocument := congrArg Prod.fst (h.document s.document)
  have hrender := congrArg Prod.fst (h.render (s.render, s.stamper))
  have htemplates := congrArg Prod.fst (h.templates (s.templates, s.selected))
  have hsource := congrArg Prod.fst (h.source s.source)
  have hexported := congrArg Prod.fst (h.exported s.exported)
  -- the mark of change remembers what was touched, not in which order
  have hdirty : (s.dirty || c.touches s || d.touches (c.apply s))
      = (s.dirty || d.touches s || c.touches (d.apply s)) := by
    rw [Bool.or_assoc, touches_comm h s, Bool.or_assoc]
  simp only [Touch.andThen] at hdocument hrender htemplates hsource hexported
  unfold apply at hdirty ⊢
  simp only [hdocument, hrender, htemplates, hsource, hexported, hdirty]

end Change

/-! ## §3. Messages as changes. -/

/-- What a message does to the parts of a state, for an edit and for the answers
of the engine. -/
def Message.change (preferred : String) : Message → Change
  | .documentEdited text =>
    { document := fun d => ({ text, revision := d.revision + 1, saved := false }, true) }
  | .documentSaved revision =>
    { document := .when (fun d => revision = d.revision ∧ d.saved = false)
        fun d => { d with saved := true } }
  | .templatesLoaded templates =>
    { templates := fun _ => ((templates, State.pick preferred templates), true) }
  | .renderDispatched id =>
    { render := .when (fun r => r.1.inFlight = some id ∧ r.1.phase = .submitting)
        fun r => ({ r.1 with phase := .compiling }, r.2) }
  | .renderCompleted id outcome now =>
    { render := .when (fun r => r.1.inFlight = some id) fun r =>
        (outcome.ending (r.2.next now).1 r.1,
          if outcome.artifact?.isSome then (r.2.next now).2 else r.2) }
  | .sourceExtracted id result =>
    { source := .when (fun source => source = .pending id) fun _ =>
        match result with
        | .ok source => .ready source
        | .error reason => .failed reason }
  | .exportFinished result =>
    { exported := .when (fun status => status = .pending) fun _ =>
        match result with
        | .ok path => .written path
        | .error reason => .failed reason }
  | _ => {}

/-- An edit is a change, and its text is to be saved. -/
theorem update_edit (s : State) (text : String) :
    update s (.documentEdited text)
      = (((Message.documentEdited text).change s.preferred).apply s,
          [.scheduleSave (s.document.revision + 1) text]) := by
  simp [update, State.edit, State.touched, Message.change, Change.apply, Change.touches,
    Touch.leave]

/-- An answer of the engine is a change, and asks for nothing. -/
theorem update_answer (s : State) {m : Message} (hm : m.isWish = false) :
    update s m = ((m.change s.preferred).apply s, []) := by
  -- message and change are guarded alike, so the cases follow the guard
  cases m with
  | documentSaved revision =>
    by_cases h : revision = s.document.revision ∧ s.document.saved = false <;>
      simp [update, State.noteSaved, State.touched, Message.change, Change.apply, Change.touches,
        Touch.when, Touch.leave, h]
  | templatesLoaded templates =>
    simp [update, State.setTemplates, State.touched, Message.change, Change.apply, Change.touches,
      Touch.leave]
  | renderDispatched id =>
    by_cases h : s.render.inFlight = some id ∧ s.render.phase = .submitting <;>
      simp [update, State.markCompiling, State.touched, Message.change, Change.apply,
        Change.touches, Touch.when, Touch.leave, h]
  | renderCompleted id outcome now =>
    by_cases h : s.render.inFlight = some id <;>
      simp [update, applyOutcome_eq, Message.change, Change.apply, Change.touches, Touch.when,
        Touch.leave, h]
  | sourceExtracted id result =>
    by_cases h : s.source = .pending id <;>
      cases result <;>
        simp [update, State.noteExtract, State.touched, Message.change, Change.apply,
          Change.touches, Touch.when, Touch.leave, h]
  | exportFinished result =>
    by_cases h : s.exported = .pending <;>
      cases result <;>
        simp [update, State.noteExport, State.setExport, State.touched, Message.change,
          Change.apply, Change.touches, Touch.when, Touch.leave, h]
  | _ => cases hm

/-! ## §4. Answers part by part. -/

/-- Two answers of the engine that compete for one thing: the later of two lists
of templates stands, and the earlier of two ends. -/
def Message.Rivals : Message → Message → Prop
  | .templatesLoaded _, .templatesLoaded _ | .exportFinished _, .exportFinished _ => True
  | .renderCompleted id _ _, .renderCompleted id' _ _ => id = id'
  | .sourceExtracted id _, .sourceExtracted id' _ => id = id'
  | _, _ => False

namespace Message

variable {m m' : Message} (p : String)

theorem document_commutes (hm : m.isWish = false) (hm' : m'.isWish = false) :
    (m.change p).document.Commutes (m'.change p).document := by
  cases m with
  | documentSaved revision =>
    cases m' with
    | documentSaved revision' =>
      by_cases h : revision = revision'
      · rw [h]
        exact Touch.commutes_self _
      · -- two revisions are not both the latest one
        refine Touch.when_commutes ?_ ?_
        · rintro d ⟨hlatest, _⟩
          exact ⟨fun hlatest' => h (hlatest.trans hlatest'.1.symm),
            fun hlatest' => h (hlatest.trans hlatest'.1.symm)⟩
        · rintro d ⟨hlatest', _⟩ hlatest
          exact h (hlatest.1.trans hlatest'.symm)
    | documentEdited text => cases hm'
    | _ => exact Touch.commutes_leave _
  | documentEdited text => cases hm
  | _ => exact Touch.leave_commutes _

/-- At most one render is in flight. -/
theorem other_flight {r : Render × Stamper} {id id' : RenderId} (h : id ≠ id')
    (hflight : r.1.inFlight = some id) : ¬r.1.inFlight = some id' := by
  rw [hflight]
  exact fun he => h (Option.some.inj he)

/-- A dispatch commutes with the end of a render, its own included: the end
overwrites the phase that the dispatch has set. -/
theorem dispatched_completed_commutes (id id' : RenderId) (outcome : Outcome) (now : UInt64) :
    ((Message.renderDispatched id).change p).render.Commutes
      ((Message.renderCompleted id' outcome now).change p).render := by
  by_cases h : id = id'
  · -- `ending` sets the phase whatever it was, so the dispatch leaves no trace
    refine Touch.when_commutes_overwrite ?_ ?_
    · rintro r ⟨hflight, _⟩
      rw [h] at hflight
      exact ⟨hflight, hflight, rfl⟩
    · rintro r _ ⟨hflight, _⟩
      cases hflight
  · refine Touch.when_commutes ?_ ?_
    · rintro r ⟨hflight, _⟩
      have hother := other_flight h hflight
      exact ⟨hother, hother⟩
    · rintro r _ ⟨hflight, _⟩
      cases hflight

theorem render_commutes (h : ¬m.Rivals m') :
    (m.change p).render.Commutes (m'.change p).render := by
  cases m with
  | renderDispatched id =>
    cases m' with
    | renderDispatched id' =>
      by_cases hid : id = id'
      · rw [hid]
        exact Touch.commutes_self _
      · refine Touch.when_commutes ?_ ?_
        · rintro r ⟨hflight, _⟩
          have hother := other_flight hid hflight
          exact ⟨fun hflight' => hother hflight'.1, fun hflight' => hother hflight'.1⟩
        · rintro r ⟨hflight', _⟩ ⟨hflight, _⟩
          exact other_flight hid hflight hflight'
    | renderCompleted id' outcome now => exact dispatched_completed_commutes p id id' outcome now
    | _ => exact Touch.commutes_leave _
  | renderCompleted id outcome now =>
    cases m' with
    | renderDispatched id' => exact (dispatched_completed_commutes p id' id outcome now).symm
    | renderCompleted id' outcome' now' =>
      have hid : id ≠ id' := h
      -- the first end leaves nothing in flight that the second could end
      refine Touch.when_commutes ?_ ?_
      · intro r hflight
        refine ⟨other_flight hid hflight, ?_⟩
        rintro ⟨⟩
      · rintro r _ ⟨⟩
    | _ => exact Touch.commutes_leave _
  | _ => exact Touch.leave_commutes _

theorem templates_commutes (h : ¬m.Rivals m') :
    (m.change p).templates.Commutes (m'.change p).templates := by
  cases m with
  | templatesLoaded templates =>
    cases m' with
    | templatesLoaded templates' =>
      -- the list that comes last stands, so two of them are rivals
      exact absurd trivial h
    | _ => exact Touch.commutes_leave _
  | _ => exact Touch.leave_commutes _

theorem source_commutes (h : ¬m.Rivals m') :
    (m.change p).source.Commutes (m'.change p).source := by
  cases m with
  | sourceExtracted id result =>
    cases m' with
    | sourceExtracted id' result' =>
      have hid : id ≠ id' := h
      -- a source that has arrived, or has failed to, is not pending
      refine Touch.when_commutes ?_ ?_
      · intro source hpending
        refine ⟨fun hpending' => ?_, ?_⟩
        · rw [hpending] at hpending'
          exact hid (SourceStatus.pending.inj hpending')
        · cases result <;> rintro ⟨⟩
      · intro source _
        cases result' <;> rintro ⟨⟩
    | _ => exact Touch.commutes_leave _
  | _ => exact Touch.leave_commutes _

theorem exported_commutes (h : ¬m.Rivals m') :
    (m.change p).exported.Commutes (m'.change p).exported := by
  cases m with
  | exportFinished result =>
    cases m' with
    | exportFinished result' => exact absurd trivial h
    | _ => exact Touch.commutes_leave _
  | _ => exact Touch.leave_commutes _

/-- Answers of the engine that are no rivals commute in every part. -/
theorem change_commutes (hm : m.isWish = false) (hm' : m'.isWish = false) (h : ¬m.Rivals m') :
    (m.change p).Commutes (m'.change p) where
  document := document_commutes p hm hm'
  render := render_commutes p h
  templates := templates_commutes p h
  source := source_commutes p h
  exported := exported_commutes p h

/-- An edit touches the document only, and of the answers only a saved revision
does so too. -/
theorem edit_commutes (text : String) (hm : m.isWish = false)
    (hsaved : ∀ revision, m ≠ .documentSaved revision) :
    ((Message.documentEdited text).change p).Commutes (m.change p) where
  document := by
    cases m with
    | documentSaved revision => exact absurd rfl (hsaved revision)
    | documentEdited text => cases hm
    | _ => exact Touch.commutes_leave _
  render := Touch.leave_commutes _
  templates := Touch.leave_commutes _
  source := Touch.leave_commutes _
  exported := Touch.leave_commutes _

end Message

/-! ## §5. The order of answers. -/

theorem run_pair (s : State) (m m' : Message) :
    run s [m, m']
      = ((update (update s m).1 m').1, (update s m).2 ++ (update (update s m).1 m').2) := by
  show (_, (update s m).2 ++ ((update (update s m).1 m').2 ++ [])) = _
  rw [List.append_nil]
  rfl

section Pairs

variable (s : State) {m m' : Message} (hm : m.isWish = false)
include hm

theorem run_answers (hm' : m'.isWish = false) :
    run s [m, m']
      = ((m'.change s.preferred).apply ((m.change s.preferred).apply s), []) := by
  rw [run_pair, update_answer s hm, update_answer _ hm']
  rfl

theorem run_edit_answer (text : String) :
    run s [.documentEdited text, m]
      = ((m.change s.preferred).apply
            (((Message.documentEdited text).change s.preferred).apply s),
          [.scheduleSave (s.document.revision + 1) text]) := by
  rw [run_pair, update_edit, update_answer _ hm]
  rfl

theorem run_answer_edit (text : String) (hsaved : ∀ revision, m ≠ .documentSaved revision) :
    run s [m, .documentEdited text]
      = (((Message.documentEdited text).change s.preferred).apply
            ((m.change s.preferred).apply s),
          [.scheduleSave (s.document.revision + 1) text]) := by
  -- the answer leaves the document, so the edit gets the same number after it
  have hdocument : ((m.change s.preferred).apply s).document = s.document := by
    cases m with
    | documentSaved revision => exact absurd rfl (hsaved revision)
    | documentEdited text => cases hm
    | _ => rfl
  rw [run_pair, update_answer s hm, update_edit, hdocument]
  rfl

end Pairs

/-- **The order of answers does not matter.**  Two answers of the engine that do
not compete for one thing leave the same state in either order, marks and
stamps included, and ask for nothing.  An edit and an answer that does not
report a saved revision leave the same state in either order too, and the
edited text is to be saved under the same revision. -/
theorem answers_commute (s : State) {m : Message} (hm : m.isWish = false) :
    (∀ m' : Message, m'.isWish = false → ¬m.Rivals m' →
      run s [m, m'] = run s [m', m] ∧ (run s [m, m']).2 = [])
    ∧ ∀ text : String, (∀ revision, m ≠ .documentSaved revision) →
      run s [.documentEdited text, m] = run s [m, .documentEdited text]
        ∧ (run s [.documentEdited text, m]).2
            = [.scheduleSave (s.document.revision + 1) text] := by
  refine ⟨fun m' hm' hrivals => ?_, fun text hsaved => ?_⟩
  · have hcommute := Message.change_commutes s.preferred hm hm' hrivals
    rw [run_answers s hm hm', run_answers s hm' hm, Change.apply_comm hcommute]
    exact ⟨rfl, rfl⟩
  · have hcommute := Message.edit_commutes s.preferred text hm hsaved
    rw [run_edit_answer s hm, run_answer_edit s hm text hsaved, Change.apply_comm hcommute]
    exact ⟨rfl, rfl⟩

/-- A session whose first render is still to be sent. -/
def sending : State := { render := { phase := .submitting, inFlight := some 1 }, nextRender := 2 }

/-- Its end, with an artifact. -/
def brought : Outcome := .compiled none none (some "x.pdf")

/-- A render that has ended before it was seen on its way, and an edit before or
after its end. -/
theorem early_end_commutes :
    (run sending [.renderDispatched 1, .renderCompleted 1 brought 5]
        = run sending [.renderCompleted 1 brought 5, .renderDispatched 1]
      ∧ (run sending [.renderDispatched 1, .renderCompleted 1 brought 5]).2 = [])
    ∧ run sending [.documentEdited "a", .renderDispatched 1]
        = run sending [.renderDispatched 1, .documentEdited "a"]
      ∧ (run sending [.documentEdited "a", .renderDispatched 1]).2 = [.scheduleSave 1 "a"] := by
  have hanswer : (Message.renderDispatched 1).isWish = false := rfl
  obtain ⟨hanswers, hedit⟩ := answers_commute sending hanswer
  refine ⟨hanswers (.renderCompleted 1 brought 5) rfl ?_, hedit "a" ?_⟩
  · exact fun hrivals => hrivals
  · intro revision
    simp

end RenderDesk.Session
