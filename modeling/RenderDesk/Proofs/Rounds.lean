/-
  RenderDesk.Proofs.Rounds
  ────────────────────────
  Rendering in two rounds is one of the runs beside an engine.

  The program asks for the list and then for the render, and each is done to its
  end before what comes of it is taken in.  An engine whose parts move in that
  order, and whose events are then taken in, comes to the same.

  Main statements:
    * `run_deliver` — taking in the events that wait, one move for each;
    * `round_render` — a round with a render, or with nothing to do, is a run;
    * `play_is_run` — and so are the two rounds;
    * `renderOnce_agrees` — so the program that renders once ends as the service
      and a session at the desk say.
-/
import RenderDesk.Program.Launch
import RenderDesk.Proofs.Errands

namespace RenderDesk.Engine

open RenderDesk.Service
open RenderDesk.Session
open RenderDesk.Storage

/-! ## §1. A world without a timer. -/

section Untimed

variable {x : Executor β} {w : World β}

/-- Without a timer nothing is saved while time passes. -/
theorem sleep_untimed (h : w.guard.timer = none) (store : Store Files.Tree) (d : Duration) :
    w.sleep store d = ([], { w with clock := w.clock + d }) := by
  simp only [World.sleep, World.guarded, Guard.advance, h, List.map_nil]

/-- What comes of a job is its end, if it has one. -/
theorem runTask_untimed (x : Executor β) (task : Task) (h : w.guard.timer = none) :
    (x.runTask task w).2.guard = w.guard
      ∧ ((x.runTask task w).1 = []
        ∨ ∃ finding event, task.finished? finding = some event
          ∧ (x.runTask task w).1 = [event]) := by
  unfold Executor.runTask
  generalize task.find x.toMeans w.beyond w.files = found
  obtain ⟨answer, beyond, files⟩ := found
  cases answer with
  | never => exact ⟨rfl, .inl rfl⟩
  | after elapsed finding =>
    have hslept := sleep_untimed (w := { w with beyond, files }) h x.store elapsed
    simp only [hslept, List.nil_append]
    refine ⟨trivial, ?_⟩
    cases hf : task.finished? finding with
    | none => exact .inl rfl
    | some event => exact .inr ⟨finding, event, hf, rfl⟩

end Untimed

/-! ## §2. An engine that does the same. -/

section Does

variable {e : Engine} {events : List Event}

theorem Holds.pickUp {command : Command} {task : Task} (h : e.Holds [command] [] events)
    (htask : Task.ofCommand command = some task) (store : Store σ) (s : σ) (now : Duration) :
    ∃ e', e.step store s (.pickUp now) = (e', s) ∧ e'.Holds [] [task] events := by
  refine ⟨{ e with queue := [], tasks := e.tasks ++ [task] }, ?_,
    rfl, by rw [h.tasks]; rfl, h.events, h.quiet⟩
  simp only [step, h.queue]
  cases command <;> cases htask <;> rfl

theorem Holds.dispatch {id : RenderId} {request : CompileRequest}
    (h : e.Holds [] [.rendering id request] events) (store : Store σ) (s : σ) :
    ∃ e', e.step store s (.dispatch 0) = (e', s)
      ∧ e'.Holds [] [.awaiting id request] (events ++ [.renderDispatched id]) := by
  refine ⟨{ e with tasks := [.awaiting id request], events := events ++ [.renderDispatched id] },
    ?_, h.queue, rfl, rfl, h.quiet⟩
  simp only [step, h.tasks, h.events, List.getElem?_cons_zero, List.set_cons_zero, emit]

theorem Holds.finish {task : Task} {finding : Finding} {event : Event}
    (h : e.Holds [] [task] events) (hf : task.finished? finding = some event) (store : Store σ)
    (s : σ) :
    ∃ e', e.step store s (.finish 0 finding) = (e', s) ∧ e'.Holds [] [] (events ++ [event]) := by
  refine ⟨{ e with tasks := [], events := events ++ [event] }, ?_, h.queue, rfl, rfl, h.quiet⟩
  simp only [step, h.tasks, h.events, List.getElem?_cons_zero, Option.bind_some, hf,
    List.eraseIdx_cons_zero, emit]

variable {x : Executor β} {w : World β}

/-- A list is told, or it never is. -/
theorem Holds.lists (h : e.Holds [.listTemplates] [] []) (hw : w.guard.timer = none)
    (store : Store σ) (s : σ) :
    ∃ moves,
      ((x.perform .listTemplates w).1 = [] ∧ (e.run store s moves).1.Holds [] [.listing] [])
        ∨ ∃ result, (x.perform .listTemplates w).1 = [.templatesListed result]
          ∧ (e.run store s moves).1.Holds [] [] [.templatesListed result] := by
  obtain ⟨picked, hpick, hpicked⟩ := h.pickUp rfl store s .zero
  rcases (runTask_untimed x .listing hw).2 with hnever | ⟨finding, event, hf, hevents⟩
  · refine ⟨[.pickUp .zero], .inl ⟨hnever, ?_⟩⟩
    simp only [run, hpick]
    exact hpicked
  · obtain ⟨finished, hfinish, hfinished⟩ := hpicked.finish hf store s
    refine ⟨[.pickUp .zero, .finish 0 finding], .inr ?_⟩
    simp only [run, hpick, hfinish]
    cases finding <;> cases hf
    exact ⟨_, hevents, hfinished⟩

/-- A render is told to be on its way, and its end is told, or never is. -/
theorem Holds.renders {id : RenderId} {request : CompileRequest}
    (h : e.Holds [.render id request] [] []) (hw : w.guard.timer = none) (store : Store σ) (s : σ) :
    ∃ moves tasks, (e.run store s moves).1.Holds [] tasks (x.perform (.render id request) w).1 := by
  have hperform : (x.perform (.render id request) w).1
      = .renderDispatched id :: (x.runTask (.awaiting id request) w).1 := rfl
  obtain ⟨picked, hpick, hpicked⟩ := h.pickUp rfl store s .zero
  obtain ⟨sent, hsend, hsent⟩ := hpicked.dispatch store s
  rw [hperform]
  rcases (runTask_untimed x (.awaiting id request) hw).2 with hnever | ⟨finding, event, hf, hevents⟩
  · refine ⟨[.pickUp .zero, .dispatch 0], [.awaiting id request], ?_⟩
    simp only [run, hpick, hsend, hnever]
    exact hsent
  · obtain ⟨finished, hfinish, hfinished⟩ := hsent.finish hf store s
    refine ⟨[.pickUp .zero, .dispatch 0, .finish 0 finding], [], ?_⟩
    simp only [run, hpick, hsend, hfinish, hevents]
    exact hfinished

end Does

end RenderDesk.Engine

namespace RenderDesk.Program

open RenderDesk.Engine (Event Executor World)
open RenderDesk.Service
open RenderDesk.Session
open RenderDesk.Storage
open RenderDesk.Terminal (Incoming)

/-! ## §3. Taking in what waits. -/

namespace OneShot

/-- What an event does. -/
def takeEvent (o : OneShot) (now : UInt64) (event : Event) : OneShot × Terminal.Reaction :=
  match Incoming.ofEvent now event with
  | some i => o.take i
  | none => (o, {})

theorem takeEvents_cons (o : OneShot) (now : UInt64) (event : Event) (events : List Event) :
    o.takeEvents now (event :: events)
      = (((o.takeEvent now event).1.takeEvents now events).1,
          ⟨(o.takeEvent now event).2.effects
              ++ ((o.takeEvent now event).1.takeEvents now events).2.effects,
            (o.takeEvent now event).2.output
              ++ ((o.takeEvent now event).1.takeEvents now events).2.output⟩) := rfl

/-- When the render was asked for, nothing more is. -/
theorem take_rendering {o : OneShot} (h : o.stage = .rendering) (i : Incoming) :
    (o.take i).1.stage = .rendering ∧ (o.take i).2.effects = [] := by
  obtain ⟨session, stage⟩ := o
  subst h
  cases i with
  | message m =>
    simp only [take]
    split <;> exact ⟨rfl, rfl⟩
  | notice text =>
    simp only [take]
    split <;> exact ⟨rfl, rfl⟩
  | command c => exact ⟨rfl, rfl⟩
  | inputClosed => exact ⟨rfl, rfl⟩

theorem takeEvents_rendering {o : OneShot} (h : o.stage = .rendering) (now : UInt64)
    (events : List Event) : (o.takeEvents now events).2.effects = [] := by
  induction events generalizing o with
  | nil => rfl
  | cons event events ih =>
    have htaken : (o.takeEvent now event).1.stage = .rendering
        ∧ (o.takeEvent now event).2.effects = [] := by
      unfold takeEvent
      cases Incoming.ofEvent now event with
      | none => exact ⟨h, rfl⟩
      | some i => exact take_rendering h i
    simp only [takeEvents_cons, htaken.2, ih htaken.1, List.append_nil]

/-- What a request asks for is one render, or nothing. -/
theorem request_effects (s : State) :
    (request s).2 = [] ∨ ∃ id r, (request s).2 = [.submitRender id r] := by
  simp only [request, update, State.requestRender]
  cases s.render.phase.inFlight <;> cases s.selected <;> simp

end OneShot

namespace Errand

theorem run_engine (store : Store σ) (e : Errand σ) (moves : List Engine.Move) :
    e.run store (moves.map .engine) = { e with
      engine := (e.engine.run store e.stored moves).1
      stored := (e.engine.run store e.stored moves).2 } := by
  induction moves generalizing e with
  | nil => rfl
  | cons m moves ih => exact ih (e.step store (.engine m))

/-- One event does to a run what it does to its state. -/
theorem step_deliver_event {e : Errand σ} {queue : List Engine.Command} {tasks : List Engine.Task}
    {event : Event} {events : List Event} (h : e.engine.Holds queue tasks (event :: events))
    (store : Store σ) (now : UInt64) :
    (e.step store (.deliver now)).shot = (e.shot.takeEvent now event).1
      ∧ (e.step store (.deliver now)).output = e.output ++ (e.shot.takeEvent now event).2.output
      ∧ (e.step store (.deliver now)).engine.Holds
        (queue ++ (e.shot.takeEvent now event).2.effects.map .ofEffect) tasks events := by
  obtain ⟨engine, htake, hafter⟩ := h.take
  unfold OneShot.takeEvent
  cases hi : Incoming.ofEvent now event with
  | none =>
    have hstep : e.step store (.deliver now)
        = { e with engine, told := e.told ++ [(now, event)] } := by
      simp only [step, htake, receive, hi]
    rw [hstep]
    exact ⟨rfl, String.append_empty.symm, (List.append_nil queue).symm ▸ hafter⟩
  | some i =>
    rw [step_deliver htake hi, take_eq]
    exact ⟨rfl, rfl, by rw [hafter.queue], hafter.tasks, hafter.events, hafter.quiet⟩

/-- **Taking in the events that wait** does to a run what it does to its state. -/
theorem run_deliver {e : Errand σ} {queue : List Engine.Command} {tasks : List Engine.Task}
    {events : List Event} (h : e.engine.Holds queue tasks events) (store : Store σ)
    (now : UInt64) :
    let taken := e.shot.takeEvents now events
    let e' := e.run store (events.map fun _ => .deliver now)
    e'.shot = taken.1 ∧ e'.output = e.output ++ taken.2.output
      ∧ e'.engine.Holds (queue ++ taken.2.effects.map .ofEffect) tasks [] := by
  -- what is asked for on the way waits behind what was asked for before
  induction events generalizing e queue with
  | nil => exact ⟨rfl, String.append_empty.symm, (List.append_nil queue).symm ▸ h⟩
  | cons event events ih =>
    obtain ⟨hshot, houtput, hholds⟩ := step_deliver_event h store now
    obtain ⟨hshots, houtputs, hends⟩ := ih hholds
    rw [hshot] at hshots houtputs hends
    rw [houtput] at houtputs
    refine ⟨hshots, ?_, ?_⟩
    · rw [OneShot.takeEvents_cons, ← String.append_assoc]
      exact houtputs
    · rw [OneShot.takeEvents_cons, List.map_append, ← List.append_assoc]
      exact hends

/-! ## §4. Rounds. -/

section Rounds

variable {x : Executor β} {w : World β} {e : Errand σ}

theorem perform_single (x : Executor β) (w : World β) (command : Engine.Command) :
    OneShot.perform x w [command] = x.perform command w := by
  show ((x.perform command w).1 ++ [], (x.perform command w).2) = _
  rw [List.append_nil]

/-- The events of a round are told while its engine moves. -/
theorem round_of_holds {tasks : List Engine.Task} {effects : List Effect} {moves : List Engine.Move}
    (h : (e.engine.run store e.stored moves).1.Holds [] tasks
      (OneShot.perform x w (effects.map .ofEffect)).1) (now : UInt64) :
    ∃ moves, (e.run store moves).shot = (OneShot.round x now e.shot effects w).1
      ∧ (e.run store moves).output
        = e.output ++ (OneShot.round x now e.shot effects w).2.1.output
      ∧ (e.run store moves).engine.Holds
        ((OneShot.round x now e.shot effects w).2.1.effects.map .ofEffect) tasks [] := by
  have hmoved := run_engine store e moves
  refine ⟨moves.map .engine
    ++ (OneShot.perform x w (effects.map .ofEffect)).1.map fun _ => .deliver now, ?_⟩
  rw [run_append, hmoved]
  exact run_deliver (e := { e with engine := _, stored := _ }) h store now

/-- What is asked for when the list comes is one render, or nothing. -/
theorem takeEvents_list {o : OneShot} (h : o.stage = .choosing) (now : UInt64)
    (result : Service.Result (List String)) :
    (o.takeEvents now [.templatesListed result]).2.effects = []
      ∨ ∃ id request,
        (o.takeEvents now [.templatesListed result]).2.effects = [.submitRender id request] := by
  rw [OneShot.takeEvents_cons]
  show _ ++ [] = [] ∨ ∃ id request, _ ++ [] = _
  simp only [List.append_nil, OneShot.takeEvent]
  cases result with
  | error f =>
    left
    show (o.take (.notice _)).2.effects = []
    rw [take_reason h]
  | ok templates =>
    show (o.take (.message _)).2.effects = []
      ∨ ∃ id request, (o.take (.message _)).2.effects = [.submitRender id request]
    rw [take_list h]
    exact OneShot.request_effects _

/-- Nothing is asked for, or a render, which the engine has to do and nothing else. -/
def Asks (e : Errand σ) (w : World β) (effects : List Effect) : Prop :=
  effects = [] ∨ ∃ id request, effects = [.submitRender id request]
    ∧ e.engine.Holds [.render id request] [] [] ∧ w.guard.timer = none

/-- **A round** with a render, or with nothing to do, is a run. -/
theorem round_render {effects : List Effect} (h : e.Asks w effects) (x : Executor β)
    (store : Store σ) (now : UInt64) :
    ∃ moves, (e.run store moves).shot = (OneShot.round x now e.shot effects w).1
      ∧ (e.run store moves).output
        = e.output ++ (OneShot.round x now e.shot effects w).2.1.output := by
  rcases h with rfl | ⟨id, request, rfl, hholds, hw⟩
  · exact ⟨[], rfl, String.append_empty.symm⟩
  · obtain ⟨moves, tasks, hdone⟩ := hholds.renders (x := x) hw store e.stored
    have hround : (e.engine.run store e.stored moves).1.Holds [] tasks
        (OneShot.perform x w ([Effect.submitRender id request].map .ofEffect)).1 := by
      rw [List.map_singleton, perform_single]
      exact hdone
    obtain ⟨all, hshot, houtput, -⟩ := round_of_holds hround now
    exact ⟨all, hshot, houtput⟩

/-- **A round** with the list is a run too, and what it leaves to ask for is one
render, or nothing. -/
theorem round_list (h : e.engine.Holds [.listTemplates] [] []) (hstage : e.shot.stage = .choosing)
    (hw : w.guard.timer = none) (x : Executor β) (store : Store σ) (now : UInt64) :
    let r := OneShot.round x now e.shot [.fetchTemplates] w
    ∃ moves, (e.run store moves).shot = r.1
      ∧ (e.run store moves).output = e.output ++ r.2.1.output
      ∧ (e.run store moves).Asks r.2.2 r.2.1.effects := by
  have hround : OneShot.round x now e.shot [.fetchTemplates] w
      = ((e.shot.takeEvents now (x.perform .listTemplates w).1).1,
        (e.shot.takeEvents now (x.perform .listTemplates w).1).2,
        (x.perform .listTemplates w).2) := by
    rw [← perform_single]
    rfl
  obtain ⟨moves, ⟨hnever, -⟩ | ⟨result, hevents, htold⟩⟩ := h.lists (x := x) hw store e.stored
  · -- an answer that never comes is no event, and the run waits like the round
    rw [hround, hnever]
    exact ⟨[], rfl, String.append_empty.symm, .inl rfl⟩
  · have htimer : (x.perform .listTemplates w).2.guard.timer = none :=
      (congrArg Guard.timer (Engine.runTask_untimed x .listing hw).1).trans hw
    have hfirst : (e.engine.run store e.stored moves).1.Holds [] []
        (OneShot.perform x w ([Effect.fetchTemplates].map .ofEffect)).1 := by
      show Engine.Holds _ [] [] (OneShot.perform x w [.listTemplates]).1
      rw [perform_single, hevents]
      exact htold
    obtain ⟨all, hshot, houtput, hholds⟩ := round_of_holds hfirst now
    refine ⟨all, hshot, houtput, ?_⟩
    rw [hround, hevents] at hholds ⊢
    rcases takeEvents_list hstage now result with hnothing | ⟨id, request, hrender⟩
    · exact .inl hnothing
    · refine .inr ⟨id, request, hrender, ?_, htimer⟩
      rw [hrender] at hholds
      exact hholds

/-- The first round is a run, and what it leaves to ask for is one render, or
nothing. -/
theorem first_round (x : Executor β) (now : UInt64) (preferred : String) (template : Option String)
    (document : String) (hw : w.guard.timer = none) (store : Store σ) (delay : Duration)
    (stored : σ) :
    let begun := OneShot.start preferred template document
    let r := OneShot.round x now begun.1 begun.2 w
    ∃ moves, ((begin preferred template document delay stored).run store moves).shot = r.1
      ∧ ((begin preferred template document delay stored).run store moves).output = r.2.1.output
      ∧ ((begin preferred template document delay stored).run store moves).Asks r.2.2
        r.2.1.effects := by
  intro begun r
  have hbegin := begin_eq preferred template document delay stored
  generalize begin preferred template document delay stored = e at hbegin ⊢
  have hshot : e.shot = begun.1 := by rw [hbegin]
  have houtput : e.output = "" := by rw [hbegin]
  have hholds : e.engine.Holds (begun.2.map .ofEffect) [] [] := by
    rw [hbegin]
    exact ⟨rfl, rfl, rfl, rfl⟩
  cases template with
  | some name =>
    -- the render is asked for at once, so that the second round has nothing to do
    have hasks : e.Asks w begun.2 := by
      rcases OneShot.request_effects _ with hnothing | ⟨id, request, hrender⟩
      · exact .inl hnothing
      · have hone : begun.2 = [.submitRender id request] := hrender
        rw [hone] at hholds
        exact .inr ⟨id, request, hone, hholds, hw⟩
    obtain ⟨moves, hround, hprinted⟩ := round_render hasks x store now
    rw [houtput, String.empty_append] at hprinted
    rw [hshot] at hround hprinted
    exact ⟨moves, hround, hprinted, .inl (OneShot.takeEvents_rendering rfl now _)⟩
  | none =>
    obtain ⟨moves, hround, hprinted, hasks⟩ := round_list hholds (by rw [hshot]; rfl) hw x store now
    rw [houtput, String.empty_append] at hprinted
    rw [hshot] at hround hprinted hasks
    exact ⟨moves, hround, hprinted, hasks⟩

end Rounds

end Errand

/-- **The two rounds are a run**: what they come to is what an engine and its
events bring about that move in this order. -/
theorem play_is_run (x : Executor β) (now : UInt64) (preferred : String) (template : Option String)
    (document : String) {w : World β} (hw : w.guard.timer = none) (store : Store σ)
    (delay : Duration) (stored : σ) :
    ∃ moves,
      ((Errand.begin preferred template document delay stored).run store moves).shot
          = (OneShot.play x now (OneShot.start preferred template document) w).1
        ∧ ((Errand.begin preferred template document delay stored).run store moves).output
          = (OneShot.play x now (OneShot.start preferred template document) w).2.1 := by
  obtain ⟨moves, hshot, houtput, hasks⟩ :=
    Errand.first_round x now preferred template document hw store delay stored
  obtain ⟨more, hlater, hprinted⟩ := Errand.round_render hasks x store now
  refine ⟨moves ++ more, ?_, ?_⟩
  · rw [Errand.run_append, hlater, hshot]
    rfl
  · rw [Errand.run_append, hprinted, houtput, hshot]
    rfl

/-! ## §5. The program. -/

section Once

variable (x : Executor β) (p : Settings.Preferences) (now : UInt64) (template : Option String)
  (document : String) (files : Files.Tree) (beyond : β)

/-- The exit code is that of a success exactly if the render was one. -/
theorem exit_ofRender {errors : String} {result? : Option (Except String (String × Bool))} :
    (result?.map (Ending.ofRender errors)).map Ending.exit = some 0
      ↔ ∃ text, result? = some (.ok (text, true)) := by
  cases result? with
  | none => simp
  | some result =>
    cases result with
    | error reason => simp [Ending.ofRender, failed]
    | ok ended =>
      obtain ⟨text, succeeded⟩ := ended
      cases succeeded <;> simp [Ending.ofRender]

/-- **The program that renders once** ends as a run does that agrees with the
service and with a session at the desk, and waits where that run waits.  Its exit
code is that of a success exactly if the service has reported one. -/
theorem renderOnce_agrees :
    ∃ moves,
      let e := (Errand.begin p.preferredTemplate template document p.service.saveDelay files).run
        x.store moves
      let ending := (renderOnce x p now template document files beyond).1
      Errand.Agrees p.preferredTemplate template document e
        ∧ ending = e.result?.map (.ofRender e.output)
        ∧ (ending.map Ending.exit = some 0
          ↔ ∃ result reply, e.completion? 1 = some result ∧ Succeeded result reply) := by
  obtain ⟨moves, hshot, houtput⟩ := play_is_run x now p.preferredTemplate template document
    (w := { beyond, files, guard := { delay := p.service.saveDelay } }) rfl x.store
    p.service.saveDelay files
  have hcourse := Errand.run_course
    (Errand.begin_course p.preferredTemplate template document p.service.saveDelay files) x.store
    moves
  refine ⟨moves, ?_⟩
  intro e ending
  have hending : ending = e.result?.map (.ofRender e.output) := by
    simp only [e, Errand.result?, hshot, houtput]
    rfl
  refine ⟨hcourse.agrees, hending, ?_⟩
  rw [hending, exit_ofRender]
  exact hcourse.agrees.ends_well

end Once

end RenderDesk.Program
