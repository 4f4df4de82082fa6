/-
  RenderDesk.Proofs.Attendance
  ────────────────────────────
  What the desk takes in of what is typed.

  Typed lines go through two queues, where events of the engine come between
  them, before the desk carries them out.  However the parts move, the desk
  takes in the lines in their order, each once, up to the line that quits or
  to the end of the input.

  Main statements:
    * `answer_heard` — whatever comes in, the session hears one message at
      most;
    * `step_attended` — the order of the lines is kept by every move;
    * `Attended.handled_eq` — when the desk was left, all lines up to the end
      were carried out.
-/
import RenderDesk.Program.System

namespace RenderDesk.Terminal

open RenderDesk.Session

/-! ## §1. What the session hears. -/

/-- The message that a command becomes, for a text. -/
def Command.message? (read : Reader) (text : String) (c : Command) : Option Message :=
  match c.edited? read text, c with
  | some edited, _ => some (.documentEdited edited)
  | none, .render => some .renderRequested
  | none, .source => some .sourceExtractRequested
  | none, .useTemplate name => some (.templateSelected name)
  | none, .clearLog => some .logResetRequested
  | none, .saveArtifact => some .exportRequested
  | none, _ => none

/-- The message that reaches the session when something comes in. -/
def Incoming.message? (read : Reader) (text : String) : Incoming → Option Message
  | .message m => some m
  | .command c => c.message? read text
  | .notice _ | .inputClosed => none

/-- A session after a message, if there is one, and what it asks for. -/
def heard (s : State) : Option Message → State × List Effect
  | some m => update s m
  | none => (s, [])

namespace Desk

theorem report_presence (d : Desk) : d.report.1.presence = d.presence := by
  unfold report
  split <;> rfl

theorem dispatch_heard (d : Desk) (m : Message) :
    (d.dispatch m).1.session.document = (heard d.session (some m)).1.document
      ∧ (d.dispatch m).2.effects = (heard d.session (some m)).2
      ∧ (d.dispatch m).1.presence = d.presence :=
  ⟨report_document _, rfl, report_presence _⟩

theorem dispatchWarned_heard (d : Desk) (futile : Bool) (why : String) (m : Message) :
    (d.dispatchWarned futile why m).1.session.document = (heard d.session (some m)).1.document
      ∧ (d.dispatchWarned futile why m).2.effects = (heard d.session (some m)).2
      ∧ (d.dispatchWarned futile why m).1.presence = d.presence :=
  dispatch_heard d m

/-- Where a desk is after something came in, before it is looked at whether
anything keeps it. -/
def heading (d : Desk) : Incoming → Presence
  | .command .quit => .left
  | .inputClosed => .leaving
  | _ => d.presence

/-- Whatever comes in, the session hears one message at most. -/
theorem answer_heard (read : Reader) (d : Desk) (i : Incoming) :
    (d.answer read i).1.session.document
        = (heard d.session (i.message? read d.session.document.text)).1.document
      ∧ (d.answer read i).2.effects
        = (heard d.session (i.message? read d.session.document.text)).2
      ∧ (d.answer read i).1.presence = d.heading i := by
  cases i with
  | message m => exact dispatch_heard d m
  | notice text => exact ⟨rfl, rfl, rfl⟩
  | inputClosed => exact ⟨rfl, rfl, rfl⟩
  | command c =>
    simp only [answer, command, Incoming.message?, Command.message?]
    cases c with
    | load path =>
      -- a file that cannot be read is no edit
      have he : (Command.load path).edited? read d.session.document.text = (read path).toOption :=
        rfl
      rw [he]
      cases hr : read path with
      | ok text => exact dispatch_heard d (.documentEdited text)
      | error e =>
        show (carryOut read d (.load path)).1.session.document = _ ∧ _
        simp only [carryOut, hr]
        exact ⟨rfl, rfl, rfl⟩
    | append line => exact dispatch_heard d _
    | pop => exact dispatch_heard d _
    | reset => exact dispatch_heard d _
    | render => exact dispatch_heard d _
    | source => exact dispatchWarned_heard d _ _ _
    | useTemplate name => exact dispatchWarned_heard d _ _ _
    | clearLog => exact dispatch_heard d _
    | saveArtifact => exact dispatchWarned_heard d _ _ _
    | _ => exact ⟨rfl, rfl, rfl⟩

/-- A desk that is on its way out is left as soon as no render is in flight. -/
theorem settled_presence (d : Desk) :
    d.settled.presence = d.presence
      ∨ (d.presence = .leaving ∧ d.settled.presence = .left
          ∧ d.settled.session.render.phase.inFlight = false) := by
  unfold settled
  by_cases h : d.presence = .leaving ∧ d.session.render.phase.inFlight = false
  · rw [if_pos h]
    exact Or.inr ⟨h.1, rfl, h.2⟩
  · rw [if_neg h]
    exact Or.inl rfl

theorem settled_session (d : Desk) : d.settled.session = d.session := by
  unfold settled
  split <;> rfl

end Desk

end RenderDesk.Terminal

namespace RenderDesk.Program

open RenderDesk.Session
open RenderDesk.Storage
open RenderDesk.Terminal

/-! ## §2. What is typed, and what is taken in. -/

/-- What the input brings: a command, or its end, which is `none`. -/
def input? : Incoming → Option (Option Command)
  | .command c => some (some c)
  | .inputClosed => some none
  | .message _ | .notice _ => none

/-- What the input has brought among other things. -/
def inputs (l : List Incoming) : List (Option Command) := l.filterMap input?

/-- The commands among what the input has brought. -/
def handled (l : List Incoming) : List Command := (inputs l).filterMap id

/-- Everything that the input brings. -/
def wholeInput (commands : List Command) : List (Option Command) := commands.map some ++ [none]

theorem inputs_append (l later : List Incoming) : inputs (l ++ later) = inputs l ++ inputs later :=
  List.filterMap_append

theorem handled_map (commands : List Command) : (commands.map some).filterMap id = commands := by
  rw [List.filterMap_map]
  exact List.filterMap_some

/-- A command of the input stands in its place among the commands. -/
theorem wholeInput_command {commands : List Command} {before after : List (Option Command)}
    {c : Command} (h : before ++ some c :: after = wholeInput commands) :
    ∃ earlier later, commands = earlier ++ c :: later ∧ before = earlier.map some := by
  induction before generalizing commands with
  | nil =>
    cases commands with
    | nil => cases h
    | cons first rest =>
      injection h with hc _
      injection hc with hc
      exact ⟨[], rest, by rw [hc]; rfl, rfl⟩
  | cons b before ih =>
    cases commands with
    | nil =>
      injection h with _ h
      exact absurd h (by simp)
    | cons first rest =>
      injection h with hb h
      obtain ⟨earlier, later, hrest, hbefore⟩ := ih h
      exact ⟨first :: earlier, later, by rw [hrest]; rfl, by rw [hb, hbefore]; rfl⟩

/-- The end of the input stands behind all commands. -/
theorem wholeInput_end {commands : List Command} {before after : List (Option Command)}
    (h : before ++ none :: after = wholeInput commands) :
    before = commands.map some ∧ after = [] := by
  induction before generalizing commands with
  | nil =>
    cases commands with
    | nil =>
      injection h with _ h
      exact ⟨rfl, h⟩
    | cons first rest =>
      injection h with hc _
      cases hc
  | cons b before ih =>
    cases commands with
    | nil =>
      injection h with _ h
      exact absurd h (by simp)
    | cons first rest =>
      injection h with hb h
      obtain ⟨hbefore, hafter⟩ := ih h
      exact ⟨by rw [hb, hbefore]; rfl, hafter⟩

namespace System

/-- What the desk takes in with a move, unless it was left before. -/
def takes (s : System σ) : Move → List Incoming
  | .take => if s.desk.presence = .left then [] else s.arrivals.take 1
  | _ => []

/-- What the desk takes in during a run. -/
def taken (x : Surroundings σ) (s : System σ) : List Move → List Incoming
  | [] => []
  | m :: moves => s.takes m ++ (s.step x m).taken x moves

/-- A desk that was left takes nothing in. -/
theorem taken_left {x : Surroundings σ} {s : System σ} (h : s.desk.presence = .left)
    (moves : List Move) : s.taken x moves = [] := by
  induction moves generalizing s with
  | nil => rfl
  | cons m moves ih =>
    have hdesk := step_left (x := x) h m
    have hnone : s.takes m = [] := by cases m <;> simp [takes, h]
    rw [taken, hnone, ih (hdesk ▸ h)]
    rfl

/-- What the input has not passed on yet. -/
def upcoming (s : System σ) : List (Option Command) :=
  s.typed.map (fun line => some (Command.parse line)) ++ if s.ended then [] else [none]

end System

/-! ## §3. The order of the input is kept. -/

/-- How far the desk is with the input: `done` is what it has taken in. -/
structure Attended (commands : List Command) (s : System σ) (done : List Incoming) : Prop where
  stream : s.desk.presence ≠ .left →
    inputs done ++ inputs s.arrivals ++ s.upcoming = wholeInput commands
  unquit : s.desk.presence ≠ .left → some .quit ∉ inputs done
  leaving : s.desk.presence = .leaving → inputs done = wholeInput commands
  /-- A desk is left for one of two reasons. -/
  left : s.desk.presence = .left →
    (∃ earlier later, commands = earlier ++ .quit :: later ∧ .quit ∉ earlier
      ∧ inputs done = (earlier ++ [.quit]).map some)
    ∨ (.quit ∉ commands ∧ inputs done = wholeInput commands
      ∧ s.desk.session.render.phase.inFlight = false)

variable {commands : List Command} {x : Surroundings σ} {s : System σ} {done : List Incoming}

/-- A command that comes next is the next of the commands. -/
theorem Attended.next (h : Attended commands s done) (hp : s.desk.presence ≠ .left) {c : Command}
    {rest : List Incoming} (ha : s.arrivals = .command c :: rest) :
    ∃ earlier later, commands = earlier ++ c :: later ∧ inputs done = earlier.map some := by
  have hs := h.stream hp
  rw [ha, List.append_assoc] at hs
  exact wholeInput_command hs

/-- What happens behind the desk does not matter. -/
theorem Attended.behind {s' : System σ} (h : Attended commands s done) (hd : s'.desk = s.desk)
    (hs : inputs s'.arrivals ++ s'.upcoming = inputs s.arrivals ++ s.upcoming) :
    Attended commands s' done := by
  refine ⟨?_, ?_, ?_, ?_⟩
  · intro hp
    rw [List.append_assoc, hs, ← List.append_assoc]
    exact h.stream (hd ▸ hp)
  · intro hp
    exact h.unquit (hd ▸ hp)
  · intro hp
    exact h.leaving (hd ▸ hp)
  · intro hp
    rw [hd] at hp ⊢
    exact h.left hp

theorem Attended.read (h : Attended commands s done) : Attended commands (s.step x .read) done := by
  simp only [System.step]
  cases ht : s.typed with
  | cons line typed =>
    refine h.behind rfl ?_
    show inputs (s.arrivals ++ [.command (.parse line)])
      ++ (typed.map _ ++ if s.ended then [] else [none]) = _
    rw [inputs_append, System.upcoming, ht]
    simp [inputs, input?]
  | nil =>
    cases he : s.ended with
    | true => exact h
    | false =>
      refine h.behind rfl ?_
      show inputs (s.arrivals ++ [.inputClosed]) ++ ([] ++ []) = _
      rw [inputs_append, System.upcoming, ht, he]
      simp [inputs, input?]

theorem Attended.relay (h : Attended commands s done) (now : UInt64) :
    Attended commands (s.step x (.relay now)) done := by
  simp only [System.step]
  cases ht : s.engine.take? with
  | none => exact h
  | some taken =>
    refine h.behind rfl ?_
    show inputs (s.arrivals ++ _) ++ _ = _
    -- the input brings no events
    have hnone : inputs (Incoming.ofEvent now taken.1).toList = [] := by
      cases taken.1 with
      | templatesListed result => cases result <;> rfl
      | _ => rfl
    rw [inputs_append, hnone, List.append_nil]
    rfl

/-! ## §4. The desk takes something in. -/

/-- What it comes to when the desk is to take something in. -/
inductive TakeTurns (x : Surroundings σ) (s : System σ) : Prop where
  /-- Nothing has arrived. -/
  | idle : s.step x .take = s → s.takes .take = [] → TakeTurns x s
  /-- The desk was left. -/
  | ignored {i : Incoming} {rest : List Incoming} :
      s.desk.presence = .left → s.arrivals = i :: rest →
      s.step x .take = { s with arrivals := rest } → s.takes .take = [] → TakeTurns x s
  | took {i : Incoming} {rest : List Incoming} :
      s.desk.presence ≠ .left → s.arrivals = i :: rest →
      s.step x .take
        = ({ s with arrivals := rest } : System σ).react (s.desk.take (x.read s.stored) i) →
      s.takes .take = [i] → TakeTurns x s

theorem take_turns (x : Surroundings σ) (s : System σ) : TakeTurns x s := by
  cases ha : s.arrivals with
  | nil => exact .idle (by simp only [System.step, ha]) (by simp [System.takes, ha])
  | cons i rest =>
    by_cases hp : s.desk.presence = .left
    · refine .ignored hp ha ?_ (by simp [System.takes, hp])
      simp only [System.step, ha, Desk.take_left hp, System.react, String.append_empty]
      rfl
    · exact .took hp ha (by simp only [System.step, ha]) (by simp [System.takes, hp, ha])

/-- The desk after it has taken something in. -/
theorem take_presence {d : Desk} (hp : d.presence ≠ .left) (read : Reader) (i : Incoming) :
    (d.take read i).1.presence = d.heading i
      ∨ (d.heading i = .leaving ∧ (d.take read i).1.presence = .left
          ∧ (d.take read i).1.session.render.phase.inFlight = false) := by
  have ha := (Desk.answer_heard read d i).2.2
  rw [Desk.take, if_neg hp]
  have hs := Desk.settled_presence (d.answer read i).1
  rw [ha] at hs
  exact hs

section Take

variable {s' : System σ} {rest : List Incoming}

/-- The end of the input does not come before a command. -/
theorem Attended.attending (h : Attended commands s done) (hp : s.desk.presence ≠ .left)
    {c : Command} (ha : s.arrivals = .command c :: rest) : s.desk.presence = .attending := by
  cases hd : s.desk.presence with
  | attending => rfl
  | leaving =>
    -- all of the input was taken in, and nothing stands behind its end
    obtain ⟨earlier, _, _, hbefore⟩ := h.next hp ha
    have hall := h.leaving hd
    rw [hbefore] at hall
    have hmem : none ∈ earlier.map some := by
      rw [hall]
      exact List.mem_append_right _ List.mem_cons_self
    simp at hmem
  | left => exact absurd hd hp

theorem Attended.takeQuit (h : Attended commands s done) (hp : s.desk.presence ≠ .left)
    (ha : s.arrivals = .command .quit :: rest) (hp' : s'.desk.presence = .left) :
    Attended commands s' (done ++ [.command .quit]) := by
  have hdone : inputs (done ++ [.command .quit]) = inputs done ++ [some .quit] :=
    inputs_append _ _
  obtain ⟨earlier, later, hcommands, hbefore⟩ := h.next hp ha
  -- the first one that quits, since the desk had not been left before
  have hearlier : Command.quit ∉ earlier := by
    intro hmem
    refine h.unquit hp ?_
    rw [hbefore]
    exact List.mem_map_of_mem hmem
  refine ⟨fun hn => absurd hp' hn, fun hn => absurd hp' hn, ?_, ?_⟩
  · intro hn
    rw [hp'] at hn
    cases hn
  · intro _
    refine Or.inl ⟨earlier, later, hcommands, hearlier, ?_⟩
    rw [hdone, hbefore, List.map_append]
    rfl

theorem Attended.takeCommand (h : Attended commands s done) (hp : s.desk.presence ≠ .left)
    {c : Command} (hq : c ≠ .quit) (ha : s.arrivals = .command c :: rest)
    (ha' : s'.arrivals = rest) (hu : s'.upcoming = s.upcoming)
    (hp' : s'.desk.presence = .attending) : Attended commands s' (done ++ [.command c]) := by
  have hdone : inputs (done ++ [.command c]) = inputs done ++ [some c] := inputs_append _ _
  refine ⟨?_, ?_, ?_, ?_⟩
  · intro _
    have hs := h.stream hp
    rw [ha] at hs
    rw [hdone, ha', hu, List.append_assoc, List.append_assoc]
    rwa [List.append_assoc] at hs
  · intro _ hmem
    rw [hdone, List.mem_append, List.mem_singleton] at hmem
    rcases hmem with hmem | hc
    · exact h.unquit hp hmem
    · exact hq (Option.some.inj hc).symm
  · intro hn
    rw [hp'] at hn
    cases hn
  · intro hn
    rw [hp'] at hn
    cases hn

theorem Attended.takeEnd (h : Attended commands s done) (hp : s.desk.presence ≠ .left)
    (ha : s.arrivals = .inputClosed :: rest) (ha' : s'.arrivals = rest)
    (hu : s'.upcoming = s.upcoming)
    (hp' : s'.desk.presence = .leaving
      ∨ (s'.desk.presence = .left ∧ s'.desk.session.render.phase.inFlight = false)) :
    Attended commands s' (done ++ [.inputClosed]) := by
  have hdone : inputs (done ++ [.inputClosed]) = inputs done ++ [none] := inputs_append _ _
  have hstream : inputs done ++ none :: (inputs rest ++ s.upcoming) = wholeInput commands := by
    have hs := h.stream hp
    rw [ha, List.append_assoc] at hs
    exact hs
  obtain ⟨hbefore, hafter⟩ := wholeInput_end hstream
  have hwhole : inputs (done ++ [.inputClosed]) = wholeInput commands := by
    rw [hdone, hbefore]
    rfl
  have hquit : Command.quit ∉ commands := by
    intro hmem
    refine h.unquit hp ?_
    rw [hbefore]
    exact List.mem_map_of_mem hmem
  refine ⟨?_, ?_, fun _ => hwhole, ?_⟩
  · intro _
    rw [hwhole, ha', hu, List.append_assoc, hafter, List.append_nil]
  · intro _ hmem
    rw [hwhole] at hmem
    simp [wholeInput, hquit] at hmem
  · intro hn
    rcases hp' with hl | ⟨_, hf⟩
    · rw [hn] at hl
      cases hl
    · exact Or.inr ⟨hquit, hwhole, hf⟩

theorem Attended.takeOther (h : Attended commands s done) (hp : s.desk.presence ≠ .left)
    {i : Incoming} (hi : input? i = none) (ha : s.arrivals = i :: rest) (ha' : s'.arrivals = rest)
    (hu : s'.upcoming = s.upcoming)
    (hp' : s'.desk.presence = s.desk.presence
      ∨ (s.desk.presence = .leaving ∧ s'.desk.session.render.phase.inFlight = false)) :
    Attended commands s' (done ++ [i]) := by
  have hnone : inputs [i] = [] := List.filterMap_cons_none hi
  have hdone : inputs (done ++ [i]) = inputs done := by
    rw [inputs_append, hnone, List.append_nil]
  have harrivals : inputs s.arrivals = inputs rest := by
    rw [ha]
    exact List.filterMap_cons_none hi
  refine ⟨?_, ?_, ?_, ?_⟩
  · intro _
    rw [hdone, ha', hu, ← harrivals]
    exact h.stream hp
  · intro _
    rw [hdone]
    exact h.unquit hp
  · intro hn
    rw [hdone]
    rcases hp' with hs | ⟨hl, _⟩
    · exact h.leaving (hs ▸ hn)
    · exact h.leaving hl
  · intro hn
    rcases hp' with hs | ⟨hl, hf⟩
    · exact absurd (hs ▸ hn) hp
    · -- an answer was all that had kept the desk
      have hwhole := h.leaving hl
      refine Or.inr ⟨?_, by rw [hdone, hwhole], hf⟩
      intro hmem
      refine h.unquit hp ?_
      rw [hwhole]
      exact List.mem_append_left _ (List.mem_map_of_mem hmem)

end Take

theorem Attended.take (h : Attended commands s done) :
    Attended commands (s.step x .take) (done ++ s.takes .take) := by
  cases take_turns x s with
  | idle hstep hnone =>
    rw [hstep, hnone, List.append_nil]
    exact h
  | ignored hp ha hstep hnone =>
    rw [hstep, hnone, List.append_nil]
    exact ⟨fun hn => absurd hp hn, fun hn => absurd hp hn, h.leaving, h.left⟩
  | took hp ha hstep hone =>
    rename_i i rest
    rw [hstep, hone]
    have hpresence := take_presence hp (x.read s.stored) i
    cases i with
    | command c =>
      have hattending := h.attending hp ha
      by_cases hq : c = .quit
      · subst hq
        exact h.takeQuit hp ha (hpresence.elim id fun hl => hl.2.1)
      · have hheading : s.desk.heading (.command c) = .attending := by
          rw [← hattending]
          cases c <;> first | rfl | exact absurd rfl hq
        rw [hheading] at hpresence
        exact h.takeCommand hp hq ha rfl rfl (hpresence.resolve_right (by simp))
    | inputClosed => exact h.takeEnd hp ha rfl rfl (hpresence.imp id And.right)
    | message m => exact h.takeOther hp rfl ha rfl rfl (hpresence.imp id fun h => ⟨h.1, h.2.2⟩)
    | notice text => exact h.takeOther hp rfl ha rfl rfl (hpresence.imp id fun h => ⟨h.1, h.2.2⟩)

theorem step_attended (h : Attended commands s done) (m : Move) :
    Attended commands (s.step x m) (done ++ s.takes m) := by
  cases m with
  | take => exact h.take
  | read =>
    show Attended commands _ (done ++ [])
    rw [List.append_nil]
    exact h.read
  | relay now =>
    show Attended commands _ (done ++ [])
    rw [List.append_nil]
    exact h.relay now
  | engine move =>
    show Attended commands _ (done ++ [])
    rw [List.append_nil]
    exact h.behind rfl rfl

theorem begin_attended (template document : String) (guard : Guard) (stored : σ)
    (typed : List String) :
    Attended (typed.map Command.parse) (System.begin template document guard stored typed) [] := by
  have hdesk : (System.begin template document guard stored typed).desk.presence = .attending :=
    (Desk.dispatch_heard (Desk.preferring template) (.sessionStarted document)).2.2
  refine ⟨?_, by simp [inputs], ?_, ?_⟩
  · intro _
    show [] ++ [] ++ (typed.map (fun line => some (Command.parse line)) ++ [none]) = _
    simp [wholeInput]
  · intro hl
    rw [hdesk] at hl
    cases hl
  · intro hl
    rw [hdesk] at hl
    cases hl

/-! ## §5. What was carried out. -/

/-- The commands up to the one that quits. -/
def untilQuit : List Command → List Command
  | [] => []
  | .quit :: _ => [.quit]
  | c :: commands => c :: untilQuit commands

theorem untilQuit_append {earlier later : List Command} (h : .quit ∉ earlier) :
    untilQuit (earlier ++ .quit :: later) = earlier ++ [.quit] := by
  induction earlier with
  | nil => rfl
  | cons c earlier ih =>
    obtain ⟨hc, hrest⟩ := List.ne_and_not_mem_of_not_mem_cons h
    rw [List.cons_append, List.cons_append, ← ih hrest]
    cases c <;> first | rfl | exact absurd rfl hc

theorem untilQuit_self {commands : List Command} (h : .quit ∉ commands) :
    untilQuit commands = commands := by
  induction commands with
  | nil => rfl
  | cons c rest ih =>
    obtain ⟨hc, hrest⟩ := List.ne_and_not_mem_of_not_mem_cons h
    have hrest := ih hrest
    cases c <;> first | exact congrArg _ hrest | exact absurd rfl hc

/-- When the desk was left, all commands up to the end were carried out. -/
theorem Attended.handled_eq (h : Attended commands s done) (hp : s.desk.presence = .left) :
    handled done = untilQuit commands := by
  rcases h.left hp with ⟨earlier, later, hcommands, hquit, hdone⟩ | ⟨hquit, hdone, _⟩
  · rw [handled, hdone, handled_map, hcommands, untilQuit_append hquit]
  · rw [handled, hdone, wholeInput, List.filterMap_append, handled_map, untilQuit_self hquit]
    exact List.append_nil _

/-- Without a command that quits, nothing is left when the desk is, and no
render is in flight. -/
theorem Attended.ended (h : Attended commands s done) (hp : s.desk.presence = .left)
    (hq : .quit ∉ handled done) :
    handled done = commands ∧ s.desk.session.render.phase.inFlight = false := by
  rcases h.left hp with ⟨earlier, later, _, _, hdone⟩ | ⟨hquit, hdone, hf⟩
  · rw [handled, hdone, handled_map] at hq
    exact absurd (List.mem_append_right _ List.mem_cons_self) hq
  · exact ⟨by rw [h.handled_eq hp, untilQuit_self hquit], hf⟩

end RenderDesk.Program
