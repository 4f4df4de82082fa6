/-
  RenderDesk.Proofs.Jobs
  ──────────────────────
  No job is lost, and none runs that nobody waits for.

  A job is a command first, then a task, then an event, and the session that
  asked for it waits until the event is delivered.  The engine moves jobs
  from one place to the next and never makes or drops one, so it is enough to
  count them at the two ends: where a message asks for a job, and where a
  message brings its answer.

  Main statements:
    * `Moves.jobs_perm` — a move of the engine keeps the jobs;
    * `step_accounted` — a move of the circuit keeps the renders and exports
      that are under way in step with those that are awaited;
    * `step_numbered` — and the source requests in step with their numbers;
    * `jobs_accounted` — so it is in every run.
-/
import Mathlib.Algebra.Group.Nat.Defs
import Mathlib.Data.List.Nodup
import Mathlib.Data.List.Perm.Basic
import RenderDesk.Program.Circuit
import RenderDesk.Proofs.Coherence
import RenderDesk.Proofs.Transitions

namespace RenderDesk.Engine

open RenderDesk.Service
open RenderDesk.Session
open RenderDesk.Storage

/-! ## §1. Jobs. -/

/-- A job that a session waits for. -/
inductive Job where
  | render (id : RenderId)
  | extract (id : ExtractId)
  | exporting
  deriving Repr, DecidableEq

def Command.job? : Command → Option Job
  | .render id _ => some (.render id)
  | .extractSource id _ => some (.extract id)
  | .exportArtifact _ _ => some .exporting
  | .listTemplates | .scheduleSave _ | .flush => none

def Task.job? : Task → Option Job
  | .rendering id _ | .awaiting id _ => some (.render id)
  | .extracting id _ => some (.extract id)
  | .exporting _ _ => some .exporting
  | .listing => none

/-- The job that an event is the end of. -/
def Event.job? : Event → Option Job
  | .renderCompleted id _ => some (.render id)
  | .sourceExtracted id _ => some (.extract id)
  | .artifactExported _ => some .exporting
  | .renderDispatched _ | .templatesListed _ | .documentSaved _ | .documentSaveFailed _ _ => none

/-- The jobs that are under way, wherever they are. -/
def jobs (e : Engine) : List Job :=
  e.queue.filterMap Command.job? ++ e.tasks.filterMap Task.job? ++ e.events.filterMap Event.job?

def Job.render? : Job → Option RenderId
  | .render id => some id
  | _ => none

def Job.extract? : Job → Option ExtractId
  | .extract id => some id
  | _ => none

/-- The numbers of the renders among jobs. -/
def renders (jobs : List Job) : List RenderId := jobs.filterMap Job.render?

/-- The numbers of the source requests among jobs. -/
def extracts (jobs : List Job) : List ExtractId := jobs.filterMap Job.extract?

/-! ## §2. The engine keeps its jobs. -/

theorem ofCommand_job {command : Command} {task : Task} (h : Task.ofCommand command = some task) :
    command.job? = task.job? := by
  cases command <;> simp_all [Task.ofCommand, eq_comm, Command.job?, Task.job?]

theorem finished?_job {task : Task} {finding : Finding} {event : Event}
    (h : task.finished? finding = some event) : task.job? = event.job? := by
  rcases finished?_once h with ⟨_, _, _, rfl, rfl⟩ | ⟨_, _, _, rfl, rfl⟩ | ⟨_, rfl, rfl⟩
    | ⟨_, _, _, rfl, rfl⟩ <;> rfl

theorem ofSave_job (saves : List SaveEvent) :
    (saves.map Event.ofSave).filterMap Event.job? = [] := by
  rw [List.filterMap_map, List.filterMap_eq_nil_iff]
  intro save _
  cases save <;> rfl

/-- The first member of a list, and what the rest maps to. -/
theorem filterMap_first {α β : Type} (f : α → Option β) (first : α) (rest : List α) :
    (first :: rest).filterMap f = (f first).toList ++ rest.filterMap f := by
  rw [List.filterMap_cons]
  cases f first <;> rfl

/-- What comes last may as well come first. -/
theorem last_first {α : Type} (a b c : List α) : (a ++ (b ++ c)).Perm (c ++ a ++ b) := by
  rw [← List.append_assoc, List.append_assoc c]
  exact List.perm_append_comm

/-- To set a task to one of the same job changes no job. -/
theorem set_job {tasks : List Task} {place : Nat} {task other : Task}
    (ht : tasks[place]? = some task) (hj : other.job? = task.job?) :
    (tasks.set place other).filterMap Task.job? = tasks.filterMap Task.job? := by
  induction tasks generalizing place with
  | nil => rfl
  | cons first rest ih =>
    cases place with
    | zero =>
      obtain rfl : first = task := by simpa using ht
      rw [List.set_cons_zero, filterMap_first, filterMap_first, hj]
    | succ place =>
      have hrest := @ih place (by simpa using ht)
      rw [List.set_cons_succ, filterMap_first, filterMap_first, hrest]

/-- A task that is taken out leaves all other jobs behind. -/
theorem eraseIdx_job {tasks : List Task} {place : Nat} {task : Task}
    (ht : tasks[place]? = some task) :
    (tasks.filterMap Task.job?).Perm
      (task.job?.toList ++ (tasks.eraseIdx place).filterMap Task.job?) := by
  obtain ⟨hlt, rfl⟩ := List.getElem?_eq_some_iff.1 ht
  rw [← filterMap_first]
  exact (List.getElem_cons_eraseIdx_perm hlt).symm.filterMap Task.job?

/-- **A move of the engine keeps the jobs**: it only changes where they are. -/
theorem Moves.jobs_perm {store : Store σ} {e e' : Engine} {s s' : σ} {events : List Event}
    (h : Moves store e s e' s' events) : e'.jobs.Perm e.jobs := by
  unfold jobs
  cases h with
  | idle => exact .refl _
  | started hq htask =>
    rename_i command queue task
    -- the job leaves the head of the queue for the end of the tasks
    have hnew : [task].filterMap Task.job? = command.job?.toList := by
      rw [filterMap_first, ofCommand_job htask]
      exact List.append_nil _
    rw [hq, filterMap_first, List.filterMap_append, hnew]
    exact (last_first _ _ _).append_right _
  | dispatched ht =>
    rename_i place id request
    have hset : (e.tasks.set place (.awaiting id request)).filterMap Task.job?
        = e.tasks.filterMap Task.job? := set_job ht rfl
    have hnew : [Event.renderDispatched id].filterMap Event.job? = [] := rfl
    rw [hset, List.filterMap_append, hnew, List.append_nil]
  | finished ht hf =>
    rename_i place task finding event
    -- the job leaves the tasks, from wherever it is, for the end of the events
    have hnew : [event].filterMap Event.job? = task.job?.toList := by
      rw [filterMap_first, ← finished?_job hf]
      exact List.append_nil _
    rw [List.filterMap_append, hnew, List.append_assoc, List.append_assoc]
    have htasks := (eraseIdx_job ht).append_right (e.events.filterMap Event.job?)
    exact .append_left _ ((last_first _ _ _).trans htasks.symm)
  | scheduled hq _ =>
    rw [hq, filterMap_first, List.filterMap_append, ofSave_job, List.append_nil]
    exact .refl _
  | flushed hq _ _ =>
    rw [hq, filterMap_first, List.filterMap_append, ofSave_job, List.append_nil]
    exact .refl _
  | woken _ =>
    rw [List.filterMap_append, ofSave_job, List.append_nil]

end RenderDesk.Engine

namespace RenderDesk.Program

open RenderDesk.Engine (Command Event Job renders extracts)
open RenderDesk.Session
open RenderDesk.Storage
open RenderDesk.Terminal (Incoming)

/-! ## §3. What a move of the circuit does to its jobs. -/

/-- The job whose answer a message brings. -/
def answered? : Message → Option Job
  | .renderCompleted id _ _ => some (.render id)
  | .sourceExtracted id _ => some (.extract id)
  | .exportFinished _ => some .exporting
  | _ => none

/-- The jobs that effects ask for. -/
def asked (effects : List Effect) : List Job :=
  (effects.map Command.ofEffect).filterMap Command.job?

/-- Commands that are sent bring their jobs. -/
theorem jobs_sent (e : Engine) (commands : List Command) :
    ({ e with queue := e.queue ++ commands } : Engine).jobs.Perm
      (commands.filterMap Command.job? ++ e.jobs) := by
  unfold Engine.jobs
  rw [List.filterMap_append, ← List.append_assoc, ← List.append_assoc]
  exact (List.perm_append_comm.append_right _).append_right _

/-- An event that is taken out takes its job with it. -/
theorem jobs_taken {e : Engine} {event : Event} {events : List Event}
    (h : e.events = event :: events) :
    e.jobs.Perm (event.job?.toList ++ ({ e with events } : Engine).jobs) := by
  unfold Engine.jobs
  rw [h, Engine.filterMap_first, ← List.append_assoc]
  rw [← List.append_assoc event.job?.toList]
  exact List.perm_append_comm.append_right _

/-- What a move of the circuit comes to, for the session and for the jobs. -/
inductive Turns (c : Circuit σ) (move : Circuit.Move) (c' : Circuit σ) : Prop where
  /-- The session takes in a message, which is a wish only if the move is. -/
  | took {m : Message} {rest : List Job} :
      (m.isWish = true → move = .wish m) →
      c.engine.jobs.Perm ((answered? m).toList ++ rest) →
      c'.session = (update c.session m).1 →
      c'.engine.jobs.Perm (asked (update c.session m).2 ++ rest) → Turns c move c'
  | moved : c'.session = c.session → c'.engine.jobs.Perm c.engine.jobs → Turns c move c'
  | looked : c'.session = c.session.seen → c'.engine.jobs.Perm c.engine.jobs → Turns c move c'

/-- An event that becomes a message brings the answer of its own job. -/
theorem ofEvent_message {now : UInt64} {event : Event} {m : Message}
    (h : Incoming.ofEvent now event = some (.message m)) : answered? m = event.job? := by
  cases event with
  | templatesListed result =>
    cases result <;> simp only [Incoming.ofEvent, Option.some.injEq, reduceCtorEq] at h
    injection h with h
    rw [← h]
    rfl
  | documentSaveFailed revision message => simp [Incoming.ofEvent] at h
  | _ =>
    simp only [Incoming.ofEvent, Option.some.injEq, Incoming.message.injEq] at h
    rw [← h]
    rfl

/-- An event that becomes no message ends no job. -/
theorem ofEvent_other {now : UInt64} {event : Event}
    (h : ∀ m, Incoming.ofEvent now event ≠ some (.message m)) : event.job? = none := by
  cases event with
  | templatesListed result => rfl
  | documentSaveFailed revision message => rfl
  | _ => exact absurd rfl (h _)

theorem step_turns (store : Store σ) (c : Circuit σ) (move : Circuit.Move) :
    Turns c move (c.step store move) := by
  have hreact : ∀ (c₀ : Circuit σ) (m : Message), c₀.session = c.session →
      (m.isWish = true → move = .wish m) →
      c.engine.jobs.Perm ((answered? m).toList ++ c₀.engine.jobs) →
      Turns c move (c₀.react m) := by
    intro c₀ m hs hm hjobs
    refine .took hm hjobs ?_ ?_
    · rw [Circuit.react_eq, hs]
    · rw [Circuit.react_eq, hs]
      exact jobs_sent c₀.engine _
  cases move with
  | wish m =>
    by_cases hw : m.isWish = true
    · simp only [Circuit.step, hw, if_true]
      refine hreact c m rfl (fun _ => rfl) ?_
      have hn : answered? m = none := by cases m <;> first | rfl | cases hw
      rw [hn]
      exact .refl _
    · simp only [Circuit.step, hw]
      exact .moved rfl (.refl _)
  | flush =>
    refine .moved rfl ?_
    exact jobs_sent c.engine [.flush]
  | engine move => exact .moved rfl (Engine.step_moves c.engine store c.stored move).jobs_perm
  | deliver now =>
    simp only [Circuit.step]
    cases he : c.engine.events with
    | nil =>
      simp only [Engine.take?, he]
      exact .moved rfl (.refl _)
    | cons event events =>
      simp only [Engine.take?, he]
      have htaken := jobs_taken he
      unfold Circuit.receive
      split
      · next m hm =>
        refine hreact { c with engine := { c.engine with events } } m rfl ?_ ?_
        · intro hwish
          rw [Circuit.ofEvent_isWish hm] at hwish
          cases hwish
        · rw [ofEvent_message hm]
          exact htaken
      · next hother =>
        refine .moved rfl ?_
        rw [ofEvent_other hother] at htaken
        exact htaken.symm
  | look => exact .looked rfl (.refl _)

/-! ## §4. Renders and exports. -/

/-- The renders and exports that are under way are those that are awaited. -/
structure Accounted (s : State) (jobs : List Job) : Prop where
  render : (renders jobs).Perm s.render.inFlight.toList
  exported : jobs.count .exporting = if s.exported = .pending then 1 else 0

theorem Accounted.perm {s : State} {jobs jobs' : List Job} (h : Accounted s jobs)
    (hp : jobs'.Perm jobs) : Accounted s jobs' :=
  ⟨(hp.filterMap _).trans h.render, (hp.count_eq _).trans h.exported⟩

/-- Nothing but what is awaited matters. -/
theorem Accounted.keep {s s' : State} {jobs : List Job} (h : Accounted s jobs)
    (hr : s'.render.inFlight = s.render.inFlight) (he : s'.exported = s.exported) :
    Accounted s' jobs :=
  ⟨hr ▸ h.render, he ▸ h.exported⟩

/-- A job that is neither a render nor an export is not accounted for. -/
theorem accounted_extract {s : State} {id : ExtractId} {jobs : List Job} :
    Accounted s (.extract id :: jobs) ↔ Accounted s jobs := by
  have hr : renders (.extract id :: jobs) = renders jobs := rfl
  have hc : (Job.extract id :: jobs).count .exporting = jobs.count .exporting :=
    List.count_cons_of_ne (by simp)
  constructor
  · intro h
    exact ⟨hr ▸ h.render, hc ▸ h.exported⟩
  · intro h
    exact ⟨hr ▸ h.render, hc ▸ h.exported⟩

theorem Accounted.requestRender {s : State} {jobs : List Job} (hs : s.Coherent)
    (h : Accounted s jobs) : Accounted s.requestRender.1 (asked s.requestRender.2 ++ jobs) := by
  unfold State.requestRender
  by_cases hf : s.render.phase.inFlight = true
  · rw [if_pos hf]
    exact h
  · rw [if_neg hf]
    cases hsel : s.selected with
    | none => exact h.keep rfl rfl
    | some template =>
      -- no render was awaited, so none was under way
      have hnone : s.render.inFlight = none := by
        rw [hs.render.inFlight_eq_none]
        simpa using hf
      have hempty : renders jobs = [] := by
        have hr := h.render
        rw [hnone] at hr
        exact hr.eq_nil
      refine ⟨?_, ?_⟩
      · show (s.nextRender :: renders jobs).Perm [s.nextRender]
        rw [hempty]
      · show (Job.render s.nextRender :: jobs).count .exporting = _
        rw [List.count_cons_of_ne (by simp)]
        exact h.exported

theorem Accounted.complete {s : State} {id : RenderId} {jobs : List Job}
    (h : Accounted s (.render id :: jobs)) (o : Service.Outcome) (now : UInt64) :
    s.render.inFlight = some id ∧ Accounted (s.applyOutcome o now) jobs := by
  -- at most one render is under way, so it is the one that is awaited
  have hr : (id :: renders jobs).Perm s.render.inFlight.toList := h.render
  have he := h.exported
  rw [List.count_cons_of_ne (by simp)] at he
  cases hin : s.render.inFlight with
  | none =>
    rw [hin] at hr
    exact absurd hr.eq_nil (List.cons_ne_nil _ _)
  | some other =>
    rw [hin] at hr
    have heq : id :: renders jobs = [other] := hr.eq_singleton
    injection heq with hid hrest
    refine ⟨by rw [hid], ?_⟩
    rw [applyOutcome_eq]
    exact ⟨.of_eq hrest, he⟩

theorem Accounted.requestExport {s : State} {jobs : List Job} (h : Accounted s jobs) :
    Accounted s.requestExport.1 (asked s.requestExport.2 ++ jobs) := by
  unfold State.requestExport
  cases ha : s.render.artifactRef with
  | none => exact h
  | some reference =>
    by_cases hp : s.exported = .pending
    · simp only [hp, if_true]
      exact h
    · simp only [hp, if_false]
      refine ⟨h.render, ?_⟩
      have he := h.exported
      rw [if_neg hp] at he
      show (Job.exporting :: jobs).count .exporting = 1
      rw [List.count_cons_self, he]

theorem Accounted.noteExport {s : State} {jobs : List Job}
    (h : Accounted s (.exporting :: jobs)) (result : Except String String) :
    Accounted (s.noteExport result) jobs := by
  have he := h.exported
  rw [List.count_cons_self] at he
  by_cases hp : s.exported = .pending
  · rw [if_pos hp] at he
    unfold State.noteExport
    rw [if_pos hp]
    refine ⟨h.render, ?_⟩
    cases result <;> exact Nat.succ.inj he
  · -- an export that nobody awaits is not under way
    rw [if_neg hp] at he
    omega

theorem update_accounted {s : State} {m : Message} {jobs : List Job} (hs : s.Coherent)
    (h : Accounted s ((answered? m).toList ++ jobs)) :
    Accounted (update s m).1 (asked (update s m).2 ++ jobs) := by
  cases m with
  | sessionStarted document => exact h.keep rfl rfl
  | documentEdited text => exact h.keep rfl rfl
  | documentSaved revision =>
    refine Accounted.keep h ?_ ?_ <;>
      (simp only [update, State.noteSaved]; split <;> rfl)
  | templatesLoaded templates => exact h.keep rfl rfl
  | templateSelected name =>
    refine Accounted.keep h ?_ ?_ <;>
      (simp only [update, State.select]; split <;> rfl)
  | renderRequested => exact Accounted.requestRender hs h
  | renderDispatched id =>
    refine Accounted.keep h ?_ ?_ <;>
      (simp only [update, State.markCompiling]; split <;> rfl)
  | renderCompleted id outcome now =>
    obtain ⟨hid, hdone⟩ := Accounted.complete h outcome now
    simp only [update, hid, if_true]
    exact hdone
  | sourceExtractRequested =>
    show Accounted s.requestExtract.1 (asked s.requestExtract.2 ++ jobs)
    unfold State.requestExtract
    cases hsel : s.selected with
    | none => exact h
    | some template => exact accounted_extract.2 (h.keep rfl rfl)
  | sourceExtracted id result =>
    refine Accounted.keep (accounted_extract.1 h) ?_ ?_ <;>
      (simp only [update, State.noteExtract]; split <;> rfl)
  | logResetRequested =>
    refine Accounted.keep h ?_ ?_ <;>
      (simp only [update, State.clearLog]; split <;> rfl)
  | exportRequested => exact Accounted.requestExport h
  | exportFinished result => exact Accounted.noteExport h result

/-! ## §5. Source requests. -/

/-- The source requests that are under way have numbers of their own, and the
latest of `n` requests is under way while it is awaited. -/
structure Numbered (n : Nat) (s : State) (jobs : List Job) : Prop where
  next : s.nextExtract = UInt64.ofNat (n + 1)
  atMost : ∀ id ∈ extracts jobs, id.toNat ≤ n
  distinct : (extracts jobs).Nodup
  awaited : ∀ id, s.source = .pending id → id.toNat = n ∧ id ∈ extracts jobs

theorem Numbered.perm {n : Nat} {s : State} {jobs jobs' : List Job} (h : Numbered n s jobs)
    (hp : jobs'.Perm jobs) : Numbered n s jobs' := by
  have hx : (extracts jobs').Perm (extracts jobs) := hp.filterMap _
  refine ⟨h.next, ?_, hx.nodup_iff.2 h.distinct, ?_⟩
  · intro id hid
    exact h.atMost id (hx.mem_iff.1 hid)
  · intro id hs
    exact ⟨(h.awaited id hs).1, hx.mem_iff.2 (h.awaited id hs).2⟩

/-- Nothing but the source requests matters. -/
theorem Numbered.keep {n : Nat} {s s' : State} {jobs jobs' : List Job} (h : Numbered n s jobs)
    (hn : s'.nextExtract = s.nextExtract) (hs : s'.source = s.source)
    (hj : extracts jobs' = extracts jobs) : Numbered n s' jobs' :=
  ⟨hn ▸ h.next, hj ▸ h.atMost, hj ▸ h.distinct, by rw [hs, hj]; exact h.awaited⟩

theorem Numbered.requestExtract {n : Nat} {s : State} {jobs : List Job} (h : Numbered n s jobs)
    (hn : n + 1 < 2 ^ 64) :
    ∃ n', n' ≤ n + 1 ∧ Numbered n' s.requestExtract.1 (asked s.requestExtract.2 ++ jobs) := by
  unfold State.requestExtract
  cases hsel : s.selected with
  | none => exact ⟨n, by omega, h⟩
  | some template =>
    have hnext : s.nextExtract.toNat = n + 1 := by
      rw [h.next, UInt64.toNat_ofNat']
      exact Nat.mod_eq_of_lt hn
    -- the number of the new request is larger than all that are under way
    have hnew : s.nextExtract ∉ extracts jobs := by
      intro hmem
      have hle := h.atMost _ hmem
      omega
    refine ⟨n + 1, by omega, ?_, ?_, ?_, ?_⟩
    · show s.nextExtract + 1 = UInt64.ofNat (n + 1 + 1)
      rw [h.next, UInt64.ofNat_add (n + 1) 1]
      rfl
    · intro id hid
      rcases List.mem_cons.1 hid with rfl | hid
      · omega
      · have hle := h.atMost id hid
        omega
    · exact List.nodup_cons.2 ⟨hnew, h.distinct⟩
    · intro id hid
      obtain rfl : s.nextExtract = id := by
        simpa [State.beginExtract, State.touched] using hid
      exact ⟨hnext, List.mem_cons_self⟩

theorem Numbered.noteExtract {n : Nat} {s : State} {id : ExtractId} {jobs : List Job}
    (h : Numbered n s (.extract id :: jobs)) (result : Except String String) :
    Numbered n (s.noteExtract id result) jobs := by
  have hsub : ∀ other ∈ extracts jobs, other ∈ extracts (.extract id :: jobs) :=
    fun other ho => List.mem_cons_of_mem id ho
  have hdist : (extracts jobs).Nodup := (List.nodup_cons.1 h.distinct).2
  unfold State.noteExtract
  by_cases hs : s.source = .pending id
  · rw [if_pos hs]
    refine ⟨h.next, fun other ho => h.atMost other (hsub other ho), hdist, ?_⟩
    intro other ho
    cases result <;> cases ho
  · rw [if_neg hs]
    refine ⟨h.next, fun other ho => h.atMost other (hsub other ho), hdist, ?_⟩
    intro other ho
    obtain ⟨hn, hmem⟩ := h.awaited other ho
    rcases List.mem_cons.1 hmem with rfl | hmem
    · exact absurd ho hs
    · exact ⟨hn, hmem⟩

theorem update_numbered {n : Nat} {s : State} {m : Message} {jobs : List Job}
    (hm : m ≠ .sourceExtractRequested) (h : Numbered n s ((answered? m).toList ++ jobs)) :
    Numbered n (update s m).1 (asked (update s m).2 ++ jobs) := by
  cases m with
  | sourceExtractRequested => exact absurd rfl hm
  | sourceExtracted id result => exact Numbered.noteExtract h result
  | sessionStarted document => exact h.keep rfl rfl rfl
  | documentEdited text => exact h.keep rfl rfl rfl
  | templatesLoaded templates => exact h.keep rfl rfl rfl
  | renderCompleted id outcome now =>
    simp only [update]
    split
    · rw [applyOutcome_eq]
      exact h.keep rfl rfl rfl
    · exact h.keep rfl rfl rfl
  | _ =>
    refine Numbered.keep h ?_ ?_ ?_ <;>
      (simp only [update, State.noteSaved, State.select, State.requestRender, State.markCompiling,
        State.clearLog, State.requestExport, State.noteExport]
       repeat' split
       all_goals rfl)

/-! ## §6. Every run. -/

/-- Whether a move asks for the source. -/
def asksSource : Circuit.Move → Bool
  | .wish .sourceExtractRequested => true
  | _ => false

theorem step_accounted {c : Circuit σ} (hs : c.session.Coherent)
    (h : Accounted c.session c.engine.jobs) (store : Store σ) (move : Circuit.Move) :
    (c.step store move).session.Coherent
      ∧ Accounted (c.step store move).session (c.step store move).engine.jobs := by
  cases step_turns store c move with
  | took hm hbefore hsession hafter =>
    rw [hsession]
    exact ⟨update_coherent hs _, (update_accounted hs (h.perm hbefore.symm)).perm hafter⟩
  | moved hsession hafter =>
    rw [hsession]
    exact ⟨hs, h.perm hafter⟩
  | looked hsession hafter =>
    rw [hsession]
    have hseen : Accounted c.session.seen c.engine.jobs := h.keep rfl rfl
    exact ⟨act_coherent hs .look, hseen.perm hafter⟩

theorem step_numbered {c : Circuit σ} {n : Nat} (h : Numbered n c.session c.engine.jobs)
    (store : Store σ) (move : Circuit.Move)
    (hn : n + (if asksSource move then 1 else 0) < 2 ^ 64) :
    ∃ n', n' ≤ n + (if asksSource move then 1 else 0)
      ∧ Numbered n' (c.step store move).session (c.step store move).engine.jobs := by
  cases step_turns store c move with
  | took hm hbefore hsession hafter =>
    rename_i m rest
    rw [hsession]
    have hrest := h.perm hbefore.symm
    by_cases hask : m = .sourceExtractRequested
    · subst hask
      -- no answer asks for the source, so the move was a wish and is counted
      have hmove : asksSource move = true := by rw [hm rfl]; rfl
      rw [hmove] at hn ⊢
      have hrest : Numbered n c.session rest := hrest
      obtain ⟨n', hle, hn'⟩ := hrest.requestExtract hn
      exact ⟨n', hle, hn'.perm hafter⟩
    · exact ⟨n, Nat.le_add_right _ _, (update_numbered hask hrest).perm hafter⟩
  | moved hsession hafter =>
    rw [hsession]
    exact ⟨n, Nat.le_add_right _ _, h.perm hafter⟩
  | looked hsession hafter =>
    rw [hsession]
    have hseen : Numbered n c.session.seen c.engine.jobs := h.keep rfl rfl rfl
    exact ⟨n, Nat.le_add_right _ _, hseen.perm hafter⟩

theorem run_accounted {c : Circuit σ} (hs : c.session.Coherent)
    (h : Accounted c.session c.engine.jobs) (store : Store σ) (moves : List Circuit.Move) :
    (c.run store moves).session.Coherent
      ∧ Accounted (c.run store moves).session (c.run store moves).engine.jobs := by
  induction moves generalizing c with
  | nil => exact ⟨hs, h⟩
  | cons move moves ih =>
    obtain ⟨hs', h'⟩ := step_accounted hs h store move
    exact ih hs' h'

theorem run_numbered {c : Circuit σ} {n : Nat} (h : Numbered n c.session c.engine.jobs)
    (store : Store σ) (moves : List Circuit.Move) (hn : n + moves.countP asksSource < 2 ^ 64) :
    ∃ n', Numbered n' (c.run store moves).session (c.run store moves).engine.jobs := by
  induction moves generalizing c n with
  | nil => exact ⟨n, h⟩
  | cons move moves ih =>
    rw [List.countP_cons] at hn
    obtain ⟨n', hle, h'⟩ := step_numbered h store move (by omega)
    exact ih h' (by omega)

/-- What is awaited, and what is under way. -/
theorem Accounted.renders_eq {s : State} {jobs : List Job} (h : Accounted s jobs) :
    renders jobs = s.render.inFlight.toList := by
  have hr := h.render
  cases hin : s.render.inFlight with
  | none =>
    rw [hin] at hr
    exact hr.eq_nil
  | some id =>
    rw [hin] at hr
    exact hr.eq_singleton

/-- The latest request stands out among all that are under way. -/
theorem Numbered.latest {n : Nat} {s : State} {jobs : List Job} (h : Numbered n s jobs)
    {id : ExtractId} (hs : s.source = .pending id) :
    (extracts jobs).count id = 1 ∧ ∀ other ∈ extracts jobs, other ≠ id → other < id := by
  obtain ⟨hid, hmem⟩ := h.awaited id hs
  refine ⟨List.count_eq_one_of_mem h.distinct hmem, ?_⟩
  intro other ho hne
  have hle := h.atMost other ho
  have hneq : other.toNat ≠ id.toNat := fun heq => hne (UInt64.toNat_inj.1 heq)
  rw [UInt64.lt_iff_toNat_lt]
  omega

theorem mem_renders {id : RenderId} {jobs : List Job} :
    Job.render id ∈ jobs ↔ id ∈ renders jobs := by
  unfold renders
  rw [List.mem_filterMap]
  constructor
  · intro hmem
    exact ⟨_, hmem, rfl⟩
  · rintro ⟨job, hmem, hid⟩
    cases job <;> cases hid
    exact hmem

theorem mem_jobs_of_event {e : Engine} {event : Event} {job : Job} (he : event ∈ e.events)
    (hj : event.job? = some job) : job ∈ e.jobs :=
  List.mem_append_right _ (List.mem_filterMap.2 ⟨event, he, hj⟩)

/-- **No job is lost, and none is awaited that nobody runs**: the only render
under way is the one in flight, an export is under way exactly while it is
awaited, and of the source requests the awaited one is the latest, as long as
their numbers, of 64 bits each, have not run out.  So the answers of renders
and exports are awaited whenever they are there. -/
theorem jobs_accounted (store : Store σ) (template : String) (guard : Guard) (stored : σ)
    (moves : List Circuit.Move) :
    let c := (Circuit.begin template guard stored).run store moves
    renders c.engine.jobs = c.session.render.inFlight.toList
      ∧ c.engine.jobs.count .exporting = (if c.session.exported = .pending then 1 else 0)
      ∧ (moves.countP asksSource < 2 ^ 64 → ∀ id, c.session.source = .pending id →
          (extracts c.engine.jobs).count id = 1
            ∧ ∀ other ∈ extracts c.engine.jobs, other ≠ id → other < id)
      ∧ (c.session.render.phase.inFlight = true ↔ ∃ id, Job.render id ∈ c.engine.jobs)
      ∧ (∀ id result, .renderCompleted id result ∈ c.engine.events →
          c.session.render.inFlight = some id)
      ∧ (∀ result, .artifactExported result ∈ c.engine.events → c.session.exported = .pending) := by
  intro c
  have hstart : Accounted (State.preferring template) [] := ⟨.refl _, rfl⟩
  have hnumber : Numbered 0 (State.preferring template) [] :=
    ⟨rfl, by simp [extracts], by simp [extracts], by simp [State.preferring]⟩
  obtain ⟨hs, h⟩ := run_accounted (c := Circuit.begin template guard stored)
    (preferring_coherent template) hstart store moves
  have hr : renders c.engine.jobs = c.session.render.inFlight.toList := h.renders_eq
  have hmem : ∀ id, Job.render id ∈ c.engine.jobs ↔ c.session.render.inFlight = some id := by
    intro id
    rw [mem_renders, hr, Option.mem_toList]
  refine ⟨hr, h.exported, ?_, ?_, ?_, ?_⟩
  · intro hbound id hid
    obtain ⟨n, hn⟩ := run_numbered (c := Circuit.begin template guard stored) hnumber store moves
      (by omega)
    exact hn.latest hid
  · simp only [hmem]
    rw [← Option.ne_none_iff_exists', ne_eq, hs.render.inFlight_eq_none, Bool.not_eq_false]
  · intro id result he
    exact (hmem id).1 (mem_jobs_of_event he rfl)
  · intro result he
    have hjob : Job.exporting ∈ c.engine.jobs := mem_jobs_of_event he rfl
    -- if it were not awaited, no export would be under way
    have hcount := List.count_pos_iff.2 hjob
    rw [h.exported] at hcount
    by_contra hp
    rw [if_neg hp] at hcount
    exact absurd hcount (Nat.lt_irrefl 0)

/-- Some moves of a session: two source requests beside a render. -/
def someMoves : List Circuit.Move :=
  [.wish (.sessionStarted "a"), .engine (.pickUp .zero), .engine (.finish 0 (.templates (.ok ["t"]))),
    .deliver 0, .wish .renderRequested, .wish .sourceExtractRequested,
    .wish .sourceExtractRequested, .engine (.pickUp .zero), .engine (.dispatch 0)]

/-- Of two source requests the later one is awaited. -/
theorem second_extract_awaited :
    let c := (Circuit.begin "t" { delay := .zero } []).run memoryStore someMoves
    c.session.source = .pending 2 ∧ (extracts c.engine.jobs).count 2 = 1
      ∧ ∀ other ∈ extracts c.engine.jobs, other ≠ 2 → other < 2 := by
  have hpending : ((Circuit.begin "t" { delay := .zero } []).run memoryStore someMoves).session.source
      = .pending 2 := by decide
  exact ⟨hpending, (jobs_accounted memoryStore "t" { delay := .zero } [] someMoves).2.2.1
    (by decide) 2 hpending⟩

end RenderDesk.Program
