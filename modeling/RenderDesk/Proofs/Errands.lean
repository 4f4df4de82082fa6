/-
  RenderDesk.Proofs.Errands
  ─────────────────────────
  Rendering one document comes to what a session at the desk would show.

  The program that renders once has a loop of its own, with its own way to
  choose a template.  It hears the same messages as a session at the desk, and
  a message does the same to both, but for the preference and the mark of
  change.  Its engine has one thing to do at a time, so what is told when is
  known at every point of a run.

  Main statements:
    * `after_core` — the display does not matter for what a session is;
    * `step_course` — every move keeps a run on its course;
    * `errand_agrees` — so every run submits what it should, ends when it should,
      and prints what the desk shows;
    * `Agrees.ends_well` — and it ends well exactly if the service says so.
-/
import RenderDesk.Program.Errand
import RenderDesk.Proofs.Copying
import RenderDesk.Proofs.Jobs
import RenderDesk.Proofs.Solitary
import RenderDesk.Proofs.Verdict

namespace RenderDesk.Session

open RenderDesk.Service
open RenderDesk.Terminal (actsOf actsOf_append)

/-! ## §1. What does not matter for a message. -/

/-- A state without its preference and its mark of change. -/
def State.core (s : State) : State := { s with preferred := "", dirty := false }

theorem update_preferred (s : State) (m : Message) : (update s m).1.preferred = s.preferred := by
  cases m with
  | renderCompleted id outcome now =>
    simp only [update]
    split
    · rw [applyOutcome_eq]
    · rfl
  | _ =>
    simp only [update, State.noteSaved, State.select, State.requestRender, State.markCompiling,
      State.requestExtract, State.noteExtract, State.clearLog, State.requestExport,
      State.noteExport]
    repeat' split
    all_goals rfl

/-- **A message does the same** whatever is preferred, unless it is a list, and
whether or not changes have been shown. -/
theorem update_core {s : State} {m : Message} (h : ∀ templates, m ≠ .templatesLoaded templates) :
    (update s m).1.core = (update s.core m).1.core := by
  cases m with
  | templatesLoaded templates => exact absurd rfl (h templates)
  | renderCompleted id outcome now =>
    simp only [update]
    by_cases hid : s.render.inFlight = some id
    · rw [if_pos hid, if_pos (show s.core.render.inFlight = some id from hid), applyOutcome_eq,
        applyOutcome_eq]
      rfl
    · rw [if_neg hid, if_neg (show ¬s.core.render.inFlight = some id from hid)]
      rfl
  | _ =>
    -- what the guards of a message read is the same on both sides
    have hdocument : s.core.document = s.document := rfl
    have hrender : s.core.render = s.render := rfl
    have htemplates : s.core.templates = s.templates ∧ s.core.selected = s.selected := ⟨rfl, rfl⟩
    have hsource : s.core.source = s.source := rfl
    have hexported : s.core.exported = s.exported := rfl
    simp only [update, State.noteSaved, State.select, State.requestRender, State.markCompiling,
      State.requestExtract, State.noteExtract, State.clearLog, State.requestExport,
      State.noteExport, hdocument, hrender, htemplates, hsource, hexported]
    repeat' split
    all_goals rfl

theorem after_preferred (s : State) (acts : List Act) : (s.after acts).preferred = s.preferred := by
  induction acts generalizing s with
  | nil => rfl
  | cons a acts ih =>
    rw [after_cons, ih]
    cases a with
    | message m => exact update_preferred s m
    | look => rfl

/-- **The display does not matter** for what a session is, and what is preferred
matters for the choice from a list only. -/
theorem after_core {preferred other : String} {ms : List Message}
    (h : ∀ templates, .templatesLoaded templates ∈ ms →
      State.pick preferred templates = State.pick other templates) :
    ((State.preferring preferred).after (ms.map .message)).core
      = ((State.preferring other).after (actsOf ms)).core := by
  -- from the end, where the look of the display after the last message can be dropped
  induction ms using List.reverseRecOn with
  | nil => rfl
  | append_singleton ms m ih =>
    have hbefore := ih fun templates hmem => h templates (List.mem_append_left _ hmem)
    rw [List.map_append, actsOf_append, after_append, after_append]
    show (update _ m).1.core = (update _ m).1.seen.core
    have hseen : ∀ s : State, s.seen.core = s.core := fun _ => rfl
    rw [hseen]
    by_cases hlist : ∃ templates, m = .templatesLoaded templates
    · obtain ⟨templates, rfl⟩ := hlist
      have hpick := h templates (List.mem_append_right _ List.mem_cons_self)
      have hloaded : ∀ s : State, (update s (.templatesLoaded templates)).1.core
          = { s.core with selected := State.pick s.preferred templates, templates } := fun _ => rfl
      rw [hloaded, hloaded, hbefore, after_preferred, after_preferred]
      exact congrArg (fun selected => { State.core _ with selected, templates }) hpick
    · -- any other message does not read what is preferred
      have hother : ∀ templates, m ≠ .templatesLoaded templates := fun templates hm =>
        hlist ⟨templates, hm⟩
      rw [update_core hother, hbefore, ← update_core hother]

/-- From a list with one template, this one is picked. -/
theorem pick_single (preferred name : String) : State.pick preferred [name] = some name := by
  unfold State.pick
  split
  · next hmem => rw [List.mem_singleton.1 hmem]
  · rfl

end RenderDesk.Session

namespace RenderDesk.Program

open RenderDesk.Engine (Event Job)
open RenderDesk.Service
open RenderDesk.Session
open RenderDesk.Storage
open RenderDesk.Terminal (Incoming deskAfter deskAfter_session deskAfter_current)

/-! ## §2. The course of a run. -/

/-- The request of a render. -/
def renderOf (document template : String) : CompileRequest where
  content := document
  template := template
  compile := true

namespace Errand

/-- How there came to be a list of templates: what was told, the list, and what
was asked for. -/
inductive Listed (template : Option String) :
    List (UInt64 × Event) → List String → List Effect → Prop where
  | given {name : String} : template = some name → Listed template [] [name] []
  | loaded {now : UInt64} {templates : List String} : template = none →
      Listed template [(now, .templatesListed (.ok templates))] templates [.fetchTemplates]

/-- How far a render has come: what the engine has to do, and what was told. -/
inductive Underway (request : CompileRequest) (engine : Engine) : List (UInt64 × Event) → Prop where
  | sent : engine.Renders 1 request false → Underway request engine []
  | dispatched {now : UInt64} : engine.Renders 1 request true →
      Underway request engine [(now, .renderDispatched 1)]
  | ended {now later : UInt64} {result : Result CompileReply} : engine.Holds [] [] [] →
      Underway request engine [(now, .renderDispatched 1), (later, .renderCompleted 1 result)]

/-- Where a run can be. -/
inductive Course (preferred : String) (template : Option String) (document : String)
    (e : Errand σ) : Prop where
  /-- The list is awaited. -/
  | choosing : template = none → e.told = [] → e.asked = [.fetchTemplates] →
      e.shot.stage = .choosing → e.engine.Lists → Course preferred template document e
  /-- There is no list. -/
  | unlisted {now : UInt64} {f : Failure} : template = none →
      e.told = [(now, .templatesListed (.error f))] → e.asked = [.fetchTemplates] →
      e.shot.stage = .failed ("Could not load templates: " ++ f.text) → e.engine.Holds [] [] [] →
      Course preferred template document e
  /-- There is nothing in the list. -/
  | unsent {listed : List (UInt64 × Event)} {asks : List Effect} : Listed template listed [] asks →
      e.told = listed → e.asked = asks → e.shot.stage = .rendering → e.engine.Holds [] [] [] →
      Course preferred template document e
  /-- A render was asked for. -/
  | rendering {listed further : List (UInt64 × Event)} {templates : List String}
      {asks : List Effect} {chosen : String} : Listed template listed templates asks →
      State.pick (template.getD preferred) templates = some chosen → e.told = listed ++ further →
      e.asked = asks ++ [.submitRender 1 (renderOf document chosen)] → e.shot.stage = .rendering →
      Underway (renderOf document chosen) e.engine further → Course preferred template document e

/-- A run is on its course, with the session that its messages make. -/
structure OnCourse (preferred : String) (template : Option String) (document : String)
    (e : Errand σ) : Prop where
  session : e.shot.session
    = (State.preferring (template.getD preferred)).after ((e.heard template document).map .message)
  course : Course preferred template document e

/-! ## §3. The sessions on the way. -/

section Sessions

variable (preferred document : String) (templates : List String)

/-- The messages up to the request for the render. -/
def upToRequest : List Message :=
  [.sessionStarted document, .templatesLoaded templates, .renderRequested]

/-- The session when there is a list. -/
theorem listed_session :
    (State.preferring preferred).after
        ([.sessionStarted document, .templatesLoaded templates].map .message)
      = { document := { text := document, saved := true }
          templates
          selected := State.pick preferred templates
          preferred
          dirty := true } := rfl

/-- A render is asked for when there is a template. -/
theorem request_after :
    OneShot.request ((State.preferring preferred).after
        ([.sessionStarted document, .templatesLoaded templates].map .message))
      = (⟨(State.preferring preferred).after ((upToRequest document templates).map .message),
          .rendering⟩,
        ((State.pick preferred templates).map fun chosen =>
          Effect.submitRender 1 (renderOf document chosen)).toList) := by
  refine Prod.ext rfl ?_
  rw [listed_session]
  simp only [OneShot.request, update, State.requestRender]
  cases State.pick preferred templates <;> rfl

/-- The render when it was asked for. -/
theorem requested_render :
    ((State.preferring preferred).after ((upToRequest document templates).map .message)).render
      = match State.pick preferred templates with
        | some _ => { phase := .submitting, log := [LogLine.sending], inFlight := some 1 }
        | none => { phase := .failed, log := [LogLine.noTemplate], conclusion := some .failed } := by
  show (State.requestRender ((State.preferring preferred).after
    ([.sessionStarted document, .templatesLoaded templates].map .message))).1.render = _
  rw [listed_session]
  simp only [State.requestRender]
  cases State.pick preferred templates <;> rfl

end Sessions

/-! ## §4. One move. -/

section Takes

variable {o : OneShot}

theorem take_list (h : o.stage = .choosing) (templates : List String) :
    o.take (.message (.templatesLoaded templates))
      = ((OneShot.request (update o.session (.templatesLoaded templates)).1).1,
          { effects := (OneShot.request (update o.session (.templatesLoaded templates)).1).2 }) := by
  simp only [OneShot.take, h]

theorem take_reason (h : o.stage = .choosing) (reason : String) :
    o.take (.notice reason) = ({ o with stage := .failed reason }, {}) := by
  simp only [OneShot.take, h]

theorem take_message (h : o.stage = .rendering) (hf : o.session.render.phase.inFlight = true)
    (m : Message) : o.take (.message m) = ({ o with session := (update o.session m).1 }, {}) := by
  simp only [OneShot.take, h, hf, if_true]

end Takes

section Step

variable {preferred : String} {template : Option String} {document : String} {e : Errand σ}

theorem step_deliver_none (h : e.engine.take? = none) (store : Store σ) (now : UInt64) :
    e.step store (.deliver now) = e := by
  simp only [step, h]

theorem step_deliver {event : Event} {engine : Engine} {i : Incoming} {now : UInt64}
    (h : e.engine.take? = some (event, engine)) (hi : Incoming.ofEvent now event = some i)
    (store : Store σ) :
    e.step store (.deliver now)
      = ({ e with engine, told := e.told ++ [(now, event)] } : Errand σ).take i := by
  simp only [step, h, receive, hi]

/-- What was told before is heard before. -/
theorem heard_snoc {told : List (UInt64 × Event)} {one : UInt64 × Event} (e' : Errand σ)
    (h : e'.told = told ++ [one]) (he : e.told = told) :
    e'.heard template document = e.heard template document ++ heardOf one := by
  unfold heard
  rw [h, he, List.flatMap_append, List.append_assoc]
  exact congrArg _ (congrArg _ (List.append_nil _))

/-- Up to the request for the render, the messages are known. -/
theorem Listed.heard {listed further : List (UInt64 × Event)} {templates : List String}
    {asks : List Effect} (h : Listed template listed templates asks)
    (ht : e.told = listed ++ further) :
    e.heard template document = upToRequest document templates ++ further.flatMap heardOf := by
  unfold Errand.heard
  rw [ht, List.flatMap_append, ← List.append_assoc]
  cases h with
  | given htemplate => rw [htemplate]; rfl
  | loaded htemplate => rw [htemplate]; rfl

/-- A move of the engine brings the job further. -/
theorem OnCourse.engine (h : OnCourse preferred template document e) (store : Store σ)
    (move : Engine.Move) : OnCourse preferred template document (e.step store (.engine move)) := by
  refine ⟨h.session, ?_⟩
  cases h.course with
  | choosing htemplate htold hasked hstage hlists =>
    exact .choosing htemplate htold hasked hstage (hlists.step store e.stored move)
  | unlisted htemplate htold hasked hstage hidle =>
    exact .unlisted htemplate htold hasked hstage (hidle.over (e.engine.step_moves store e.stored move))
  | unsent hlisted htold hasked hstage hidle =>
    exact .unsent hlisted htold hasked hstage (hidle.over (e.engine.step_moves store e.stored move))
  | rendering hlisted hpick htold hasked hstage hunderway =>
    refine .rendering hlisted hpick htold hasked hstage ?_
    cases hunderway with
    | sent hrenders => exact .sent (hrenders.step store e.stored move)
    | dispatched hrenders => exact .dispatched (hrenders.step store e.stored move)
    | ended hidle => exact .ended (hidle.over (e.engine.step_moves store e.stored move))

/-- What the request for the render asks for. -/
def asksOf (preferred document : String) (templates : List String) : List Effect :=
  ((State.pick preferred templates).map fun chosen =>
    Effect.submitRender 1 (renderOf document chosen)).toList

/-- **With a list** the render is asked for, if there is anything in it. -/
theorem onCourse_request {listed : List (UInt64 × Event)} {templates : List String}
    {asks : List Effect} (hlisted : Listed template listed templates asks) (htold : e.told = listed)
    (hshot : e.shot = ⟨(State.preferring (template.getD preferred)).after
      ((upToRequest document templates).map .message), .rendering⟩)
    (hasked : e.asked = asks ++ asksOf (template.getD preferred) document templates)
    (hengine : e.engine.Holds
      ((asksOf (template.getD preferred) document templates).map .ofEffect) [] []) :
    OnCourse preferred template document e := by
  have htold' : e.told = listed ++ [] := by rw [htold, List.append_nil]
  refine ⟨?_, ?_⟩
  · rw [hshot, hlisted.heard htold', List.flatMap_nil, List.append_nil]
  · unfold asksOf at hasked hengine
    cases hpick : State.pick (template.getD preferred) templates with
    | none =>
      -- only from an empty list nothing is picked
      rw [hpick] at hasked hengine
      rw [pick_eq_none_iff.1 hpick] at hlisted
      exact .unsent hlisted htold (hasked.trans (List.append_nil _)) (by rw [hshot]) hengine
    | some chosen =>
      rw [hpick] at hasked hengine
      exact .rendering hlisted hpick htold' hasked (by rw [hshot]) (.sent (.queued hengine))

/-- The list comes, or the reason why there is none. -/
theorem OnCourse.listed (h : OnCourse preferred template document e) (htemplate : template = none)
    (htold : e.told = []) (hasked : e.asked = [.fetchTemplates]) (hstage : e.shot.stage = .choosing)
    {result : Result (List String)} {engine : Engine}
    (htake : e.engine.take? = some (.templatesListed result, engine)) (hidle : engine.Holds [] [] [])
    (store : Store σ) (now : UInt64) :
    OnCourse preferred template document (e.step store (.deliver now)) := by
  subst htemplate
  have hsession : e.shot.session
      = (State.preferring preferred).after ([.sessionStarted document].map .message) := by
    rw [h.session, Errand.heard, htold]
    rfl
  cases result with
  | error f =>
    rw [step_deliver htake rfl, take_eq, take_reason hstage]
    refine ⟨?_, .unlisted rfl (by rw [htold]; rfl) (by rw [hasked]; rfl) rfl (hidle.send [])⟩
    rw [Errand.heard, htold]
    exact hsession
  | ok templates =>
    have hrequest : OneShot.request (update e.shot.session (.templatesLoaded templates)).1
        = (⟨(State.preferring preferred).after ((upToRequest document templates).map .message),
            .rendering⟩, asksOf preferred document templates) := by
      rw [hsession]
      exact request_after preferred document templates
    rw [step_deliver htake rfl, take_eq, take_list hstage, hrequest]
    have hlisted : Listed none [(now, .templatesListed (.ok templates))] templates
        [.fetchTemplates] := .loaded rfl
    refine onCourse_request hlisted ?_ rfl ?_ (hidle.send _)
    · rw [htold]
      rfl
    · rw [hasked]
      rfl

/-- What is told of the render is heard by the session. -/
theorem OnCourse.hears (h : OnCourse preferred template document e) (hstage : e.shot.stage = .rendering)
    (hflight : e.shot.session.render.phase.inFlight = true) (now : UInt64) {event : Event}
    {m : Message} {engine : Engine} (htake : e.engine.take? = some (event, engine))
    (hi : Incoming.ofEvent now event = some (.message m)) (hone : heardOf (now, event) = [m])
    (store : Store σ) :
    (e.step store (.deliver now)).told = e.told ++ [(now, event)]
      ∧ (e.step store (.deliver now)).asked = e.asked
      ∧ (e.step store (.deliver now)).shot.stage = .rendering
      ∧ (e.step store (.deliver now)).engine = engine
      ∧ (e.step store (.deliver now)).shot.session
        = (State.preferring (template.getD preferred)).after
            (((e.step store (.deliver now)).heard template document).map .message) := by
  rw [step_deliver htake hi, take_eq, take_message hstage hflight]
  refine ⟨rfl, List.append_nil _, hstage, by simp, ?_⟩
  rw [heard_snoc _ rfl rfl, hone, List.map_append, after_append, ← h.session]
  rfl

end Step

section Renders

variable {preferred document : String} {templates : List String} {chosen : String}

theorem sent_render (h : State.pick preferred templates = some chosen) :
    ((State.preferring preferred).after ((upToRequest document templates).map .message)).render
      = { phase := .submitting, log := [LogLine.sending], inFlight := some 1 } := by
  rw [requested_render, h]

theorem dispatched_render (h : State.pick preferred templates = some chosen) :
    ((State.preferring preferred).after
        ((upToRequest document templates ++ [Message.renderDispatched 1]).map .message)).render
      = { phase := .compiling, log := [LogLine.sending], inFlight := some 1 } := by
  have hsent : ((State.preferring preferred).after
      ((upToRequest document templates).map .message)).render = _ := sent_render h
  rw [List.map_append, after_append]
  generalize (State.preferring preferred).after ((upToRequest document templates).map .message) = s
    at hsent
  show (s.markCompiling 1).render = _
  simp only [State.markCompiling, hsent, and_self, if_true]
  rfl

/-- The end of the render. -/
theorem completed_render (h : State.pick preferred templates = some chosen)
    (result : Result CompileReply) (now : UInt64) :
    let s := (State.preferring preferred).after ((upToRequest document templates
      ++ [Message.renderDispatched 1, Message.renderCompleted 1 (.ofResult result) now]).map .message)
    s.render.phase = (Outcome.ofResult result).phase ∧ s.render.inFlight = none := by
  have hdispatched : ((State.preferring preferred).after
      ((upToRequest document templates ++ [Message.renderDispatched 1]).map .message)).render = _ :=
    dispatched_render h
  intro s
  have hs : s = (update ((State.preferring preferred).after
      ((upToRequest document templates ++ [Message.renderDispatched 1]).map .message))
      (.renderCompleted 1 (.ofResult result) now)).1 := rfl
  rw [update_renderCompleted_awaited (by rw [hdispatched]), applyOutcome_eq] at hs
  rw [hs]
  exact ⟨rfl, rfl⟩

end Renders

section Delivery

variable {preferred : String} {template : Option String} {document : String} {e : Errand σ}
  {listed : List (UInt64 × Event)} {templates : List String} {asks : List Effect} {chosen : String}

/-- The session when the render was asked for, and nothing was told of it. -/
theorem OnCourse.sent (h : OnCourse preferred template document e)
    (hlisted : Listed template listed templates asks)
    (hpick : State.pick (template.getD preferred) templates = some chosen)
    (htold : e.told = listed ++ []) :
    e.shot.session.render = { phase := .submitting, log := [LogLine.sending], inFlight := some 1 } := by
  rw [h.session, hlisted.heard htold, List.flatMap_nil, List.append_nil]
  exact sent_render hpick

/-- The session when the render is on its way. -/
theorem OnCourse.dispatched (h : OnCourse preferred template document e)
    (hlisted : Listed template listed templates asks)
    (hpick : State.pick (template.getD preferred) templates = some chosen) {now : UInt64}
    (htold : e.told = listed ++ [(now, .renderDispatched 1)]) :
    e.shot.session.render = { phase := .compiling, log := [LogLine.sending], inFlight := some 1 } := by
  rw [h.session, hlisted.heard htold]
  exact dispatched_render hpick

/-- The session when the render has ended. -/
theorem OnCourse.ended (h : OnCourse preferred template document e)
    (hlisted : Listed template listed templates asks)
    (hpick : State.pick (template.getD preferred) templates = some chosen) {now later : UInt64}
    {result : Result CompileReply}
    (htold : e.told = listed ++ [(now, .renderDispatched 1), (later, .renderCompleted 1 result)]) :
    e.shot.session.render.phase = (Outcome.ofResult result).phase := by
  rw [h.session, hlisted.heard htold]
  exact (completed_render hpick result later).1

/-- What is told next is what the run waits for. -/
theorem OnCourse.deliver (h : OnCourse preferred template document e) (store : Store σ)
    (now : UInt64) : OnCourse preferred template document (e.step store (.deliver now)) := by
  -- where no event waits, the run stays where it is
  have hunchanged : e.engine.take? = none →
      OnCourse preferred template document (e.step store (.deliver now)) := fun hnone => by
    rw [step_deliver_none hnone]
    exact h
  cases h.course with
  | choosing htemplate htold hasked hstage hlists =>
    rcases hlists.take with hnone | ⟨result, engine, htake, hidle⟩
    · exact hunchanged hnone
    · exact h.listed htemplate htold hasked hstage htake hidle store now
  | unlisted _ _ _ _ hidle => exact hunchanged hidle.take_none
  | unsent _ _ _ _ hidle => exact hunchanged hidle.take_none
  | rendering hlisted hpick htold hasked hstage hunderway =>
    cases hunderway with
    | sent hrenders =>
      rcases hrenders.take_dispatched with hnone | ⟨engine, htake, hlater⟩
      · exact hunchanged hnone
      · obtain ⟨htold', hasked', hstage', rfl, hsession⟩ := h.hears hstage
          (by rw [h.sent hlisted hpick htold]; rfl) now htake rfl rfl store
        rw [htold, List.append_nil] at htold'
        exact ⟨hsession, .rendering hlisted hpick htold' (hasked'.trans hasked) hstage'
          (.dispatched hlater)⟩
    | dispatched hrenders =>
      rcases hrenders.take_completed with hnone | ⟨result, engine, htake, hidle⟩
      · exact hunchanged hnone
      · obtain ⟨htold', hasked', hstage', rfl, hsession⟩ := h.hears hstage
          (by rw [h.dispatched hlisted hpick htold]; rfl) now htake rfl rfl store
        rw [htold, List.append_assoc] at htold'
        exact ⟨hsession, .rendering hlisted hpick htold' (hasked'.trans hasked) hstage'
          (.ended hidle)⟩
    | ended hidle => exact hunchanged hidle.take_none

end Delivery

/-! ## §5. Every run. -/

section Runs

variable {preferred : String} {template : Option String} {document : String}

/-- **Every move** keeps a run on its course. -/
theorem step_course {e : Errand σ} (h : OnCourse preferred template document e) (store : Store σ)
    (move : Move) : OnCourse preferred template document (e.step store move) := by
  cases move with
  | engine move => exact h.engine store move
  | deliver now => exact h.deliver store now

theorem begin_course (preferred : String) (template : Option String) (document : String)
    (delay : Duration) (stored : σ) :
    OnCourse preferred template document (begin preferred template document delay stored) := by
  cases template with
  | none => exact ⟨rfl, .choosing rfl rfl rfl rfl (.queued ⟨rfl, rfl, rfl, rfl⟩)⟩
  | some name =>
    have hstart : OneShot.start preferred (some name) document
        = (⟨(State.preferring name).after ((upToRequest document [name]).map .message), .rendering⟩,
          asksOf name document [name]) := request_after name document [name]
    rw [begin_eq, hstart]
    exact onCourse_request (.given rfl) rfl rfl rfl ⟨rfl, rfl, rfl, rfl⟩

theorem run_course {e : Errand σ} (h : OnCourse preferred template document e) (store : Store σ)
    (moves : List Move) : OnCourse preferred template document (e.run store moves) := by
  induction moves generalizing e with
  | nil => exact h
  | cons move moves ih => exact ih (step_course h store move)

end Runs

/-! ## §6. What a run comes to. -/

/-- What an event tells of the service's templates. -/
def listingOf : UInt64 × Event → Option (Result (List String))
  | (_, .templatesListed result) => some result
  | _ => none

/-- What an event tells of the end of a render. -/
def completionOf (id : RenderId) : UInt64 × Event → Option (Result CompileReply)
  | (_, .renderCompleted other result) => if other = id then some result else none
  | _ => none

/-- What the service told of its templates. -/
def listing? (e : Errand σ) : Option (Result (List String)) := e.told.findSome? listingOf

/-- How a render ended. -/
def completion? (id : RenderId) (e : Errand σ) : Option (Result CompileReply) :=
  e.told.findSome? (completionOf id)

/-- The template to render with: the one that is given, or without one the one that
is preferred if it is in the list, and else the first of the list. -/
def chosen? (preferred : String) (template : Option String) (e : Errand σ) : Option String :=
  match template with
  | some name => some name
  | none =>
    match e.listing? with
    | some (.ok templates) =>
      if preferred ∈ templates then some preferred else templates.head?
    | _ => none

/-- What a run has come to. -/
def result? (e : Errand σ) : Option (Except String (String × Bool)) := e.shot.result?

/-- The line for an artifact, if there is one. -/
def artifactLine : Option String → String
  | some reference => "artifact: " ++ reference ++ "\n"
  | none => ""

/-- **What a run comes to** is what the service said, and what a desk shows. -/
structure Agrees (preferred : String) (template : Option String) (document : String)
    (e : Errand σ) : Prop where
  /-- The session has heard the messages that were told. -/
  session : e.shot.session
    = (State.preferring (template.getD preferred)).after ((e.heard template document).map .message)
  /-- One render is submitted when there is a template to render with, and none otherwise. -/
  submitted : e.asked.filterMap Effect.render?
    = ((e.chosen? preferred template).map fun name => (1, renderOf document name)).toList
  /-- Without a template that is given, the list is awaited. -/
  waits : template = none → e.listing? = none → e.result? = none
  /-- Without a list there is an error. -/
  unlisted : ∀ f, template = none → e.listing? = some (.error f) →
    e.result? = some (.error ("Could not load templates: " ++ f.text))
  /-- With nothing in the list, this is said. -/
  empty : template = none → e.listing? = some (.ok []) →
    e.result? = some (.ok (Terminal.printed [LogLine.noTemplate], false))
  /-- A run with a template to render with ends when its render does, -/
  returns : (e.chosen? preferred template).isSome →
    (e.result?.isSome ↔ (e.completion? 1).isSome)
  /-- and ends well if the service reports success. -/
  verdict : ∀ result, e.completion? 1 = some result → ∃ text success,
    e.result? = some (.ok (text, success)) ∧ (success = true ↔ ∃ reply, Succeeded result reply)
  /-- What is printed at the end is the log that a desk shows after the same
  messages, and a line for the artifact, if it shows one. -/
  printed : ∀ text success, e.result? = some (.ok (text, success)) →
    ∀ other, (template = none → other = preferred) →
      let shown := (deskAfter other (e.heard template document)).shown
      text = shown.log ++ "\n" ++ artifactLine shown.artifactRef
        ∧ (success = true ↔ shown.phase = .succeeded)
  /-- A delivery takes the oldest event that waits into what was told. -/
  delivered : ∀ (store : Store σ) (now : UInt64),
    (e.step store (.deliver now)).told = e.told ++ (e.engine.events.head?.map (now, ·)).toList
      ∧ (e.step store (.deliver now)).engine.events = e.engine.events.tail
  /-- After the end nothing more is asked for or printed. -/
  finished : e.result?.isSome → ∀ i, e.take i = e
  /-- When the engine has nothing left to do or to tell, the run is at its end. -/
  settled : e.engine.queue = [] → e.engine.tasks = [] → e.engine.events = [] → e.result?.isSome

section Ends

variable {preferred : String} {template : Option String} {document : String} {e : Errand σ}
  {listed further : List (UInt64 × Event)} {templates : List String} {asks : List Effect}
  {chosen : String}

/-- The summary is the log, and the line for the artifact. -/
theorem summary_lines (view : View) :
    OneShot.summary view = view.log ++ "\n" ++ artifactLine view.artifactRef := by
  cases hreference : view.artifactRef with
  | none => simp [OneShot.summary, Terminal.printed, hreference, artifactLine]
  | some reference =>
    simp [OneShot.summary, Terminal.printed, hreference, artifactLine, String.append_assoc]

/-- The summary is of the render only. -/
theorem summary_render {s t : State} (h : s.render = t.render) :
    OneShot.summary s.view = OneShot.summary t.view := by
  simp only [OneShot.summary, State.view, h]

theorem deliver_told (e : Errand σ) (store : Store σ) (now : UInt64) :
    (e.step store (.deliver now)).told = e.told ++ (e.engine.events.head?.map (now, ·)).toList
      ∧ (e.step store (.deliver now)).engine.events = e.engine.events.tail := by
  cases hevents : e.engine.events with
  | nil =>
    have htake : e.engine.take? = none := by simp only [Engine.take?, hevents]
    rw [step_deliver_none htake, hevents]
    exact ⟨(List.append_nil _).symm, rfl⟩
  | cons event events =>
    simp only [step, Engine.take?_event hevents, receive]
    cases Incoming.ofEvent now event with
    | none => exact ⟨rfl, rfl⟩
    | some i =>
      simp only [take_eq]
      exact ⟨rfl, rfl⟩

theorem take_over {e : Errand σ} (h : e.result?.isSome) (i : Incoming) : e.take i = e := by
  obtain ⟨r, hr⟩ := Option.isSome_iff_exists.1 h
  exact take_ended hr i

theorem result_rendering (h : e.shot.stage = .rendering) :
    e.result? = if e.shot.session.render.phase.inFlight then none
      else some (.ok (OneShot.summary e.shot.session.view,
        e.shot.session.render.phase = .succeeded)) := by
  simp only [result?, OneShot.result?, h]
  rfl

theorem printed_of_result {text : String} {success : Bool}
    (h : e.result? = some (.ok (text, success))) :
    e.shot.stage = .rendering ∧ text = OneShot.summary e.shot.session.view
      ∧ success = decide (e.shot.session.render.phase = .succeeded) := by
  cases hstage : e.shot.stage with
  | choosing => simp [result?, OneShot.result?, hstage] at h
  | failed reason => simp [result?, OneShot.result?, hstage] at h
  | rendering =>
    rw [result_rendering hstage] at h
    split at h
    · cases h
    · obtain ⟨htext, hsuccess⟩ := Prod.mk.inj (Except.ok.inj (Option.some.inj h))
      exact ⟨rfl, htext.symm, hsuccess.symm⟩

theorem Listed.listing (h : Listed none listed templates asks) (ht : e.told = listed ++ further) :
    e.listing? = some (.ok templates) := by
  cases h with
  | given htemplate => cases htemplate
  | loaded _ =>
    rw [listing?, ht]
    rfl

theorem Listed.picks (h : Listed template listed templates asks)
    (hpick : State.pick (template.getD preferred) templates = some chosen)
    (ht : e.told = listed ++ further) : e.chosen? preferred template = some chosen := by
  cases h with
  | given htemplate =>
    subst htemplate
    rw [← hpick, pick_single]
    rfl
  | loaded htemplate =>
    subst htemplate
    simp only [chosen?, (Listed.loaded rfl).listing ht]
    exact hpick

theorem Listed.completion (h : Listed template listed templates asks)
    (ht : e.told = listed ++ further) : e.completion? 1 = further.findSome? (completionOf 1) := by
  rw [completion?, ht]
  cases h with
  | given _ => rfl
  | loaded _ => rfl

theorem Listed.submits (h : Listed template listed templates asks) :
    asks.filterMap Effect.render? = [] := by
  cases h with
  | given _ => rfl
  | loaded _ => rfl

/-- Where a template is given, it is the only one that is heard of. -/
theorem OnCourse.only {name : String} (h : OnCourse preferred (some name) document e)
    {heard : List String} (hmem : .templatesLoaded heard ∈ e.heard (some name) document) :
    heard = [name] := by
  cases h.course with
  | choosing htemplate => cases htemplate
  | unlisted htemplate => cases htemplate
  | unsent hlisted =>
    cases hlisted with
    | loaded htemplate => cases htemplate
  | rendering hlisted _ htold _ _ hunderway =>
    rw [hlisted.heard htold] at hmem
    cases hlisted with
    | loaded htemplate => cases htemplate
    | given htemplate =>
      cases htemplate
      -- what is told of a render is no list
      cases hunderway <;> simpa [upToRequest, heardOf, Incoming.ofEvent] using hmem

/-- **What is printed** at the end is what a desk shows. -/
theorem OnCourse.printed (h : OnCourse preferred template document e) {text : String}
    {success : Bool} (hresult : e.result? = some (.ok (text, success))) {other : String}
    (hother : template = none → other = preferred) :
    let shown := (deskAfter other (e.heard template document)).shown
    text = shown.log ++ "\n" ++ artifactLine shown.artifactRef
      ∧ (success = true ↔ shown.phase = .succeeded) := by
  -- the two sessions may differ in what they prefer and in the mark of change only
  have hcore : e.shot.session.core = (deskAfter other (e.heard template document)).session.core := by
    rw [h.session, deskAfter_session]
    refine after_core fun templates hmem => ?_
    cases template with
    | none => rw [hother rfl]; rfl
    | some name =>
      rw [h.only hmem, pick_single, pick_single]
  have hrender : e.shot.session.render
      = (deskAfter other (e.heard template document)).session.render := by
    show e.shot.session.core.render = _
    rw [hcore]
    rfl
  intro shown
  have hshown : shown = (deskAfter other (e.heard template document)).session.view :=
    (deskAfter_current other (e.heard template document)).shown
  obtain ⟨-, rfl, rfl⟩ := printed_of_result hresult
  rw [← summary_lines, hshown, ← summary_render hrender, hrender]
  exact ⟨rfl, decide_eq_true_iff⟩

/-- Without a template to render with, what was told of the list decides. -/
theorem OnCourse.unchosen_agrees (h : OnCourse preferred none document e)
    (hchosen : e.chosen? preferred none = none) (hasked : e.asked.filterMap Effect.render? = [])
    (hcompletion : e.completion? 1 = none)
    (hresult : match e.listing? with
      | none => e.result? = none
          ∧ ¬(e.engine.queue = [] ∧ e.engine.tasks = [] ∧ e.engine.events = [])
      | some (.error f) => e.result? = some (.error ("Could not load templates: " ++ f.text))
      | some (.ok _) => e.result? = some (.ok (Terminal.printed [LogLine.noTemplate], false))) :
    Agrees preferred none document e where
  session := h.session
  submitted := by
    rw [hasked, hchosen]
    rfl
  waits := fun _ hlisting => by
    rw [hlisting] at hresult
    exact hresult.1
  unlisted := fun f _ hlisting => by
    rw [hlisting] at hresult
    exact hresult
  empty := fun _ hlisting => by
    rw [hlisting] at hresult
    exact hresult
  returns := fun hsome => by
    rw [hchosen] at hsome
    cases hsome
  verdict := fun result hended => by
    rw [hcompletion] at hended
    cases hended
  printed := fun _ _ hprinted _ => h.printed hprinted
  delivered := e.deliver_told
  finished := take_over
  settled := fun hqueue htasks hevents => by
    split at hresult
    · exact absurd ⟨hqueue, htasks, hevents⟩ hresult.2
    · rw [hresult]
      rfl
    · rw [hresult]
      rfl

/-- While the list is awaited, nothing is submitted and nothing has ended. -/
theorem OnCourse.choosing_agrees (h : OnCourse preferred none document e) (htold : e.told = [])
    (hasked : e.asked = [.fetchTemplates]) (hstage : e.shot.stage = .choosing)
    (hlists : e.engine.Lists) : Agrees preferred none document e := by
  have hlisting : e.listing? = none := by
    rw [listing?, htold]
    rfl
  refine h.unchosen_agrees (by simp only [chosen?, hlisting]) ?_ ?_ ?_
  · rw [hasked]
    rfl
  · rw [completion?, htold]
    rfl
  · rw [hlisting]
    exact ⟨by simp only [result?, OneShot.result?, hstage], hlists.busy⟩

/-- Without a list, nothing is submitted and there is an error. -/
theorem OnCourse.unlisted_agrees (h : OnCourse preferred none document e) {now : UInt64}
    {f : Failure} (htold : e.told = [(now, .templatesListed (.error f))])
    (hasked : e.asked = [.fetchTemplates])
    (hstage : e.shot.stage = .failed ("Could not load templates: " ++ f.text)) :
    Agrees preferred none document e := by
  have hlisting : e.listing? = some (.error f) := by
    rw [listing?, htold]
    rfl
  refine h.unchosen_agrees (by simp only [chosen?, hlisting]) ?_ ?_ ?_
  · rw [hasked]
    rfl
  · rw [completion?, htold]
    rfl
  · rw [hlisting]
    show e.result? = _
    simp only [result?, OneShot.result?, hstage]

/-- With nothing in the list, nothing is submitted, and this is said. -/
theorem OnCourse.unsent_agrees (h : OnCourse preferred none document e)
    (hlisted : Listed none listed [] asks) (htold : e.told = listed) (hasked : e.asked = asks)
    (hstage : e.shot.stage = .rendering) : Agrees preferred none document e := by
  have htold' : e.told = listed ++ [] := by rw [htold, List.append_nil]
  have hlisting : e.listing? = some (.ok []) := hlisted.listing htold'
  have hrender : e.shot.session.render
      = { phase := .failed, log := [LogLine.noTemplate], conclusion := some .failed } := by
    rw [h.session, hlisted.heard htold', List.flatMap_nil, List.append_nil, requested_render,
      pick_eq_none_iff.2 rfl]
  refine h.unchosen_agrees ?_ (by rw [hasked, hlisted.submits]) (hlisted.completion htold') ?_
  · simp only [chosen?, hlisting]
    exact pick_eq_none_iff.2 rfl
  · rw [hlisting]
    show e.result? = _
    rw [result_rendering hstage]
    simp only [OneShot.summary, State.view, hrender]
    rfl

/-- The phase in which a render ends is not one of a render in flight. -/
theorem phase_ended (o : Outcome) : o.phase.inFlight = false := by
  rcases conclusion_of_phase o with ⟨hphase, -⟩ | ⟨hphase, -⟩ <;>
  · rw [hphase]
    rfl

/-- **A run ends with its render**: until then the engine has something left, and
then the result is the render's. -/
theorem OnCourse.ends (h : OnCourse preferred template document e)
    (hlisted : Listed template listed templates asks)
    (hpick : State.pick (template.getD preferred) templates = some chosen)
    (htold : e.told = listed ++ further) (hstage : e.shot.stage = .rendering)
    (hunderway : Underway (renderOf document chosen) e.engine further) :
    (e.result? = none ∧ e.completion? 1 = none
        ∧ ¬(e.engine.queue = [] ∧ e.engine.tasks = [] ∧ e.engine.events = []))
      ∨ ∃ result text, e.completion? 1 = some result
        ∧ e.result? = some (.ok (text, (Outcome.ofResult result).phase = .succeeded)) := by
  have hcompletion := hlisted.completion htold
  have hresult := result_rendering hstage
  cases hunderway with
  | sent hrenders =>
    rw [h.sent hlisted hpick htold] at hresult
    exact .inl ⟨hresult, hcompletion, hrenders.busy⟩
  | dispatched hrenders =>
    rw [h.dispatched hlisted hpick htold] at hresult
    exact .inl ⟨hresult, hcompletion, hrenders.busy⟩
  | ended _ =>
    rw [h.ended hlisted hpick htold, phase_ended] at hresult
    exact .inr ⟨_, _, hcompletion, hresult⟩

/-- A render that was asked for decides what the run comes to. -/
theorem OnCourse.rendering_agrees (h : OnCourse preferred template document e)
    (hlisted : Listed template listed templates asks)
    (hpick : State.pick (template.getD preferred) templates = some chosen)
    (htold : e.told = listed ++ further)
    (hasked : e.asked = asks ++ [.submitRender 1 (renderOf document chosen)])
    (hstage : e.shot.stage = .rendering)
    (hunderway : Underway (renderOf document chosen) e.engine further) :
    Agrees preferred template document e := by
  have hchosen : e.chosen? preferred template = some chosen := hlisted.picks hpick htold
  have hlisting : template = none → e.listing? = some (.ok templates) := by
    rintro rfl
    exact hlisted.listing htold
  have hends := h.ends hlisted hpick htold hstage hunderway
  exact {
    session := h.session
    submitted := by
      rw [hasked, hchosen, List.filterMap_append, hlisted.submits]
      rfl
    waits := fun htemplate hnone => by
      rw [hlisting htemplate] at hnone
      cases hnone
    unlisted := fun f htemplate hf => by
      rw [hlisting htemplate] at hf
      cases hf
    empty := fun htemplate hempty => by
      -- there is something in the list, since a template was picked
      rw [hlisting htemplate] at hempty
      cases hempty
      rw [pick_eq_none_iff.2 rfl] at hpick
      cases hpick
    returns := fun _ => by
      rcases hends with ⟨hresult, hcompletion, -⟩ | ⟨result, text, hcompletion, hresult⟩ <;>
      · rw [hresult, hcompletion]
        rfl
    verdict := fun result hended => by
      rcases hends with ⟨-, hcompletion, -⟩ | ⟨other, text, hcompletion, hresult⟩
      · rw [hcompletion] at hended
        cases hended
      · rw [hcompletion] at hended
        cases hended
        exact ⟨text, _, hresult, decide_eq_true_iff.trans (phase_ofResult result)⟩
    printed := fun _ _ hprinted _ => h.printed hprinted
    delivered := e.deliver_told
    finished := take_over
    settled := fun hqueue htasks hevents => by
      rcases hends with ⟨-, -, hbusy⟩ | ⟨result, text, -, hresult⟩
      · exact absurd ⟨hqueue, htasks, hevents⟩ hbusy
      · rw [hresult]
        rfl }

/-- On its course, a run comes to what it should. -/
theorem OnCourse.agrees (h : OnCourse preferred template document e) :
    Agrees preferred template document e := by
  cases h.course with
  | choosing htemplate htold hasked hstage hlists =>
    subst htemplate
    exact h.choosing_agrees htold hasked hstage hlists
  | unlisted htemplate htold hasked hstage _ =>
    subst htemplate
    exact h.unlisted_agrees htold hasked hstage
  | unsent hlisted htold hasked hstage _ =>
    cases hlisted with
    | loaded htemplate =>
      subst htemplate
      exact h.unsent_agrees (.loaded rfl) htold hasked hstage
  | rendering hlisted hpick htold hasked hstage hunderway =>
    exact h.rendering_agrees hlisted hpick htold hasked hstage hunderway

/-- A run without a template to render with does not end well. -/
theorem Agrees.unchosen (h : Agrees preferred template document e)
    (hchosen : e.chosen? preferred template = none) {text : String} :
    e.result? ≠ some (.ok (text, true)) := by
  intro hresult
  cases template with
  | some name => cases hchosen
  | none =>
    cases hlisting : e.listing? with
    | none =>
      rw [h.waits rfl hlisting] at hresult
      cases hresult
    | some listing =>
      cases listing with
      | error f =>
        rw [h.unlisted f rfl hlisting] at hresult
        cases hresult
      | ok templates =>
        have hpick : State.pick preferred templates = none := by
          simp only [chosen?, hlisting] at hchosen
          exact hchosen
        rw [pick_eq_none_iff.1 hpick] at hlisting
        rw [h.empty rfl hlisting] at hresult
        simp at hresult

/-- **A run ends well** exactly if its render has ended, and the service has
reported success. -/
theorem Agrees.ends_well (h : Agrees preferred template document e) :
    (∃ text, e.result? = some (.ok (text, true)))
      ↔ ∃ result reply, e.completion? 1 = some result ∧ Succeeded result reply := by
  constructor
  · rintro ⟨text, hresult⟩
    have hchosen : (e.chosen? preferred template).isSome := by
      rw [Option.isSome_iff_ne_none]
      exact fun hnone => h.unchosen hnone hresult
    have hended : (e.completion? 1).isSome := (h.returns hchosen).1 (by rw [hresult]; rfl)
    obtain ⟨result, hcompletion⟩ := Option.isSome_iff_exists.1 hended
    obtain ⟨_, success, hsame, hverdict⟩ := h.verdict result hcompletion
    rw [hresult] at hsame
    cases hsame
    obtain ⟨reply, hreply⟩ := hverdict.1 rfl
    exact ⟨result, reply, hcompletion, hreply⟩
  · rintro ⟨result, reply, hcompletion, hreply⟩
    obtain ⟨text, success, hresult, hverdict⟩ := h.verdict result hcompletion
    obtain rfl := hverdict.2 ⟨reply, hreply⟩
    exact ⟨text, hresult⟩

end Ends

end Errand

/-- **Rendering once agrees** with the service and with a session at the desk:
whatever the document, the template, the store and the service's answers, and in
whatever order the engine's parts move and its events are taken in, at every point
of the run. -/
theorem errand_agrees (store : Store σ) (preferred : String) (template : Option String)
    (document : String) (delay : Duration) (stored : σ) (moves : List Errand.Move) :
    Errand.Agrees preferred template document
      ((Errand.begin preferred template document delay stored).run store moves) :=
  (Errand.run_course (Errand.begin_course preferred template document delay stored) store moves).agrees

/-- The preferred template is in the list, and the render ends well. -/
example :
    let e := (Errand.begin "b" none "text" .zero []).run memoryStore
      [.engine (.pickUp .zero), .engine (.finish 0 (.templates (.ok ["a", "b"]))), .deliver 0,
        .engine (.pickUp .zero), .engine (.dispatch 0), .engine (.finish 0 (.reply (.ok {}))),
        .deliver 0, .deliver 0]
    e.asked = [.fetchTemplates, .submitRender 1 (renderOf "text" "b")]
      ∧ e.result?.map (·.map (·.2)) = some (.ok true) := by
  decide

end RenderDesk.Program
