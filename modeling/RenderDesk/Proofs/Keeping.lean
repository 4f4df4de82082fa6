/-
  RenderDesk.Proofs.Keeping
  ─────────────────────────
  What becomes of the text at the desk.

  The text of the document is made by the commands that were carried out and
  by nothing else, in whatever order the parts of a session move, as long as
  the files that commands name stay as they are.  Every command that edits
  counts one revision, and all revisions are on their way to the store.

  Main statements:
    * `edits_iff`, `textAfter_made` — which commands edit, and what each of them
      makes of the text;
    * `step_kept` — a move keeps text, edits and writes in step;
    * `run_kept` — so does every run;
    * `Kept.settled` — when nothing is on its way, the store holds the text.
-/
import RenderDesk.Program.Circuit
import RenderDesk.Proofs.Attendance
import RenderDesk.Proofs.Rows
import RenderDesk.Proofs.Saving

namespace RenderDesk.Terminal

open RenderDesk.Session
open RenderDesk.Text

/-! ## §1. Commands that edit. -/

/-- Whether a command edits the text, whatever it is. -/
def Command.edits (read : Reader) (c : Command) : Bool := (c.edited? read "").isSome

theorem edited?_isSome (read : Reader) (text : String) (c : Command) :
    (c.edited? read text).isSome = c.edits read := by
  cases c <;> rfl

theorem edits_of_edited? {read : Reader} {text : String} {c : Command} {edited? : Option String}
    (h : c.edited? read text = edited?) : c.edits read = edited?.isSome := by
  rw [← h]
  exact (edited?_isSome read text c).symm

/-- Only the file that a command names matters to it. -/
theorem edited?_congr {read other : Reader} {c : Command}
    (h : ∀ path, c = .load path → read path = other path) (text : String) :
    c.edited? read text = c.edited? other text := by
  cases c with
  | load path => exact congrArg Except.toOption (h path rfl)
  | _ => rfl

/-- The text that commands make of a text. -/
def textAfter (read : Reader) (text : String) (commands : List Command) : String :=
  commands.foldl (fun text c => (c.edited? read text).getD text) text

theorem textAfter_append (read : Reader) (text : String) (commands : List Command) (c : Command) :
    textAfter read text (commands ++ [c])
      = (c.edited? read (textAfter read text commands)).getD (textAfter read text commands) := by
  rw [textAfter, List.foldl_append]
  rfl

/-- **The commands that edit**: they add a line, drop one, begin anew with the
example, or bring in a file that can be read. -/
theorem edits_iff {read : Reader} {c : Command} :
    c.edits read = true ↔ (∃ line, c = .append line) ∨ c = .pop ∨ c = .reset
      ∨ ∃ path text, c = .load path ∧ read path = .ok text := by
  cases c with
  | load path => cases h : read path <;> simp [Command.edits, Command.edited?, h, Except.toOption]
  | _ => simp [Command.edits, Command.edited?]

/-- What a command makes of a text: a line stands behind the others, the last
line is dropped, or there is another text.  All other commands leave it as it
is. -/
def Command.made (read : Reader) (text : String) : Command → String
  | .append line => String.ofList (unrows (rows text.toList ++ [line.toList]))
  | .pop => String.ofList (unrows (rows text.toList).dropLast)
  | .reset => Document.exampleText
  | .load path =>
    match read path with
    | .ok loaded => loaded
    | .error _ => text
  | _ => text

theorem edited?_made (read : Reader) (text : String) (c : Command) :
    (c.edited? read text).getD text = c.made read text := by
  cases c with
  | append line => exact congrArg String.ofList (Document.appendRow_eq text.toList line.toList)
  | pop => exact congrArg String.ofList (Document.dropLastRow_eq text.toList)
  | load path => cases h : read path <;> simp [Command.edited?, Command.made, h, Except.toOption]
  | _ => rfl

/-- **The text after commands** is what each of them makes of it in turn. -/
theorem textAfter_made (read : Reader) (text : String) (commands : List Command) :
    textAfter read text commands = commands.foldl (Command.made read) text := by
  unfold textAfter
  refine congrArg (List.foldl · text commands) (funext fun text => funext fun c => ?_)
  exact edited?_made read text c

theorem message?_edited {read : Reader} {text edited : String} {c : Command}
    (h : c.edited? read text = some edited) :
    c.message? read text = some (.documentEdited edited) := by
  simp only [Command.message?, h]

/-- A command that edits nothing brings no text. -/
theorem message?_unedited {read : Reader} {text : String} {c : Command} {m : Message}
    (h : c.edited? read text = none) (hm : c.message? read text = some m) : m.newText? = none := by
  simp only [Command.message?, h] at hm
  cases c <;> cases hm <;> rfl

end RenderDesk.Terminal

namespace RenderDesk.Session

/-- An answer of the engine brings no text. -/
theorem answer_newText {m : Message} (h : m.isWish = false) : m.newText? = none := by
  cases m <;> first | rfl | cases h

/-- A message that brings no text leaves text and revision alone. -/
theorem after_newText {m : Message} (h : m.newText? = none) (d : Document) :
    (d.after m).text = d.text ∧ (d.after m).revision = d.revision := by
  cases m <;> first | exact ⟨rfl, rfl⟩ | cases h

end RenderDesk.Session

namespace RenderDesk.Program

open RenderDesk.Engine (Saving snapshots)
open RenderDesk.Session
open RenderDesk.Storage
open RenderDesk.Terminal

/-! ## §2. Text, edits and writes. -/

namespace System

/-- What the writes of a move come to. -/
def written (x : Surroundings σ) (s : System σ) : Move → List SaveEvent
  | .engine move => s.engine.written x.store s.stored move
  | _ => []

/-- What all writes of a run come to, in their order. -/
def writes (x : Surroundings σ) (s : System σ) : List Move → List SaveEvent
  | [] => []
  | m :: moves => s.written x m ++ (s.step x m).writes x moves

end System

/-- A system in step with the commands that were carried out: they have made
its text, every edit has a revision, and all of them reach the store. -/
structure Kept (holds : String → σ → Prop) (first : σ) (files : Reader) (document : String)
    (s : System σ) (done : List Incoming) (told : List SaveEvent) : Prop where
  saving : Saving holds first s.desk.session.document.text s.desk.session.document.revision
    s.engine.guard.committer (snapshots s.engine.queue) s.stored told
  text : s.desk.session.document.text = textAfter files document (handled done)
  counted : s.desk.session.document.revision.toNat = (handled done).countP (Command.edits files)
  answers : ∀ m, .message m ∈ s.arrivals → m.isWish = false

variable {holds : String → σ → Prop} {first : σ} {files : Reader} {document : String}
  {x : Surroundings σ} {s : System σ} {done : List Incoming} {told : List SaveEvent}
  {commands : List Command}

theorem handled_command (done : List Incoming) (c : Command) :
    handled (done ++ [.command c]) = handled done ++ [c] := by
  rw [handled, inputs_append, List.filterMap_append]
  rfl

theorem handled_other {i : Incoming} (hi : ∀ c, i ≠ .command c) (done : List Incoming) :
    handled (done ++ [i]) = handled done := by
  rw [handled, inputs_append, List.filterMap_append]
  cases i with
  | command c => exact absurd rfl (hi c)
  | _ => exact List.append_nil _

/-! ## §3. The desk takes something in. -/

/-- The desk and the engine after something was taken in, in terms of what the
session hears of it. -/
theorem take_heard (hp : s.desk.presence ≠ .left) {i : Incoming} {rest : List Incoming}
    (ha : s.arrivals = i :: rest) {m? : Option Message}
    (hm : i.message? (x.read s.stored) s.desk.session.document.text = m?) :
    (s.step x .take).desk.session.document = (heard s.desk.session m?).1.document
      ∧ (s.step x .take).engine = { s.engine with
          queue := s.engine.queue ++ (heard s.desk.session m?).2.map Engine.Command.ofEffect }
      ∧ (s.step x .take).stored = s.stored ∧ (s.step x .take).arrivals = rest := by
  obtain ⟨hdoc, heffects, _⟩ := Desk.answer_heard (x.read s.stored) s.desk i
  rw [hm] at hdoc heffects
  have htake : s.desk.take (x.read s.stored) i
      = ((s.desk.answer (x.read s.stored) i).1.settled, (s.desk.answer (x.read s.stored) i).2) := by
    rw [Desk.take, if_neg hp]
  have hstep : s.step x .take
      = ({ s with arrivals := rest } : System σ).react (s.desk.take (x.read s.stored) i) := by
    simp only [System.step, ha]
  rw [hstep, htake]
  refine ⟨?_, ?_, rfl, rfl⟩
  · show (s.desk.answer (x.read s.stored) i).1.settled.session.document = _
    rw [Desk.settled_session, hdoc]
  · show ((s.desk.answer (x.read s.stored) i).2.effects.map _).foldl Engine.send s.engine = _
    rw [Engine.foldl_send, heffects]

/-- What is taken in keeps the saving, with what the session asks for. -/
theorem Kept.saving_taken (h : Kept holds first files document s done told)
    (hp : s.desk.presence ≠ .left) {i : Incoming} {rest : List Incoming}
    (ha : s.arrivals = i :: rest) {m? : Option Message}
    (hm : i.message? (x.read s.stored) s.desk.session.document.text = m?)
    (hstart : ∀ text, m? ≠ some (.sessionStarted text))
    (hr : ∀ text, m? = some (.documentEdited text) →
      s.desk.session.document.revision.toNat + 1 < 2 ^ 64) :
    Saving holds first (s.step x .take).desk.session.document.text
      (s.step x .take).desk.session.document.revision (s.step x .take).engine.guard.committer
      (snapshots (s.step x .take).engine.queue) (s.step x .take).stored told := by
  obtain ⟨hdoc, hengine, hstored, _⟩ := take_heard hp ha hm
  rw [hdoc, hengine, hstored]
  show Saving holds first _ _ _ (snapshots (s.engine.queue ++ _)) _ _
  rw [Engine.snapshots_append]
  cases m? with
  | none =>
    show Saving holds first _ _ _ (_ ++ []) _ _
    rw [List.append_nil]
    exact h.saving
  | some m =>
    exact h.saving.update (fun text ht => hstart text (congrArg some ht))
      (fun text ht => hr text (congrArg some ht))

theorem Kept.answers_rest (h : Kept holds first files document s done told) {i : Incoming}
    {rest : List Incoming} (ha : s.arrivals = i :: rest) :
    ∀ m, .message m ∈ rest → m.isWish = false := by
  intro m hmem
  refine h.answers m ?_
  rw [ha]
  exact List.mem_cons_of_mem _ hmem

/-- Something that brings no text, and that counts as no edit. -/
theorem Kept.hear (h : Kept holds first files document s done told) (hp : s.desk.presence ≠ .left)
    {i : Incoming} {rest : List Incoming} (ha : s.arrivals = i :: rest)
    (hm : ∀ m, i.message? (x.read s.stored) s.desk.session.document.text = some m →
      m.newText? = none)
    (ht : textAfter files document (handled (done ++ [i])) = textAfter files document (handled done))
    (hc : (handled (done ++ [i])).countP (Command.edits files)
      = (handled done).countP (Command.edits files)) :
    Kept holds first files document (s.step x .take) (done ++ [i]) told := by
  obtain ⟨hdoc, _, _, harrivals⟩ := take_heard (x := x) hp ha rfl
  have hsame : (s.step x .take).desk.session.document.text = s.desk.session.document.text
      ∧ (s.step x .take).desk.session.document.revision = s.desk.session.document.revision := by
    rw [hdoc]
    cases hm? : i.message? (x.read s.stored) s.desk.session.document.text with
    | none => exact ⟨rfl, rfl⟩
    | some m =>
      have hafter : (heard s.desk.session (some m)).1.document = s.desk.session.document.after m :=
        update_document _ m
      rw [hafter]
      exact after_newText (hm m hm?) _
  refine ⟨h.saving_taken hp ha rfl ?_ ?_, ?_, ?_, ?_⟩
  · intro text hstart
    exact absurd (hm _ hstart) (by simp [Message.newText?])
  · intro text hedit
    exact absurd (hm _ hedit) (by simp [Message.newText?])
  · rw [hsame.1, ht]
    exact h.text
  · rw [hsame.2, hc]
    exact h.counted
  · rw [harrivals]
    exact h.answers_rest ha

/-- An edit makes a new text and a new revision. -/
theorem Kept.edit (h : Kept holds first files document s done told) (hp : s.desk.presence ≠ .left)
    {c : Command} {rest : List Incoming} (ha : s.arrivals = .command c :: rest) {edited : String}
    (hread : c.edited? (x.read s.stored) s.desk.session.document.text = some edited)
    (hfiles : c.edited? files s.desk.session.document.text = some edited)
    (hn : (handled done ++ [c]).countP (Command.edits files) < 2 ^ 64) :
    Kept holds first files document (s.step x .take) (done ++ [.command c]) told := by
  have hmessage := message?_edited hread
  obtain ⟨hdoc, _, _, harrivals⟩ := take_heard (x := x) hp ha hmessage
  have hcount : (handled done ++ [c]).countP (Command.edits files)
      = (handled done).countP (Command.edits files) + 1 := by
    rw [List.countP_append, List.countP_singleton, edits_of_edited? hfiles]
    rfl
  have hr : s.desk.session.document.revision.toNat + 1 < 2 ^ 64 := by
    rw [h.counted, ← hcount]
    exact hn
  refine ⟨h.saving_taken hp ha hmessage (by simp) (fun _ _ => hr), ?_, ?_, ?_⟩
  · rw [hdoc, handled_command, textAfter_append, ← h.text, hfiles]
    rfl
  · rw [hdoc, handled_command, hcount, ← h.counted]
    exact Engine.toNat_succ hr
  · rw [harrivals]
    exact h.answers_rest ha

/-- A command edits as the files say, since they stay as they are. -/
theorem Kept.takeCommand (h : Kept holds first files document s done told)
    (hat : Attended commands s done) (hp : s.desk.presence ≠ .left) {c : Command}
    {rest : List Incoming} (ha : s.arrivals = .command c :: rest)
    (hfiles : ∀ path, .load path ∈ commands → x.read s.stored path = files path)
    (hn : commands.countP (Command.edits files) < 2 ^ 64) :
    Kept holds first files document (s.step x .take) (done ++ [.command c]) told := by
  obtain ⟨earlier, later, hcommands, hearlier⟩ := hat.next hp ha
  have hread : c.edited? (x.read s.stored) s.desk.session.document.text
      = c.edited? files s.desk.session.document.text :=
    edited?_congr (fun path hc => hfiles path (by rw [hcommands, hc]; simp)) _
  cases he : c.edited? files s.desk.session.document.text with
  | some edited =>
    refine h.edit hp ha (hread.trans he) he ?_
    -- no more edits were carried out than there are
    have hdone : handled done = earlier := by rw [handled, hearlier, handled_map]
    have hfront : handled done ++ [c] <+: commands := ⟨later, by rw [hdone, hcommands]; simp⟩
    exact Nat.lt_of_le_of_lt hfront.sublist.countP_le hn
  | none =>
    refine h.hear hp ha ?_ ?_ ?_
    · intro m hm
      exact message?_unedited (hread.trans he) hm
    · rw [handled_command, textAfter_append, ← h.text, he]
      rfl
    · rw [handled_command, List.countP_append, List.countP_singleton, edits_of_edited? he]
      rfl

theorem Kept.take (h : Kept holds first files document s done told)
    (hat : Attended commands s done)
    (hfiles : s.desk.presence ≠ .left →
      ∀ path, .load path ∈ commands → x.read s.stored path = files path)
    (hn : commands.countP (Command.edits files) < 2 ^ 64) :
    Kept holds first files document (s.step x .take) (done ++ s.takes .take) told := by
  cases take_turns x s with
  | idle hstep hnone =>
    rw [hstep, hnone, List.append_nil]
    exact h
  | ignored hp ha hstep hnone =>
    rw [hstep, hnone, List.append_nil]
    exact ⟨h.saving, h.text, h.counted, h.answers_rest ha⟩
  | took hp ha hstep hone =>
    rename_i i rest
    rw [hone]
    cases i with
    | command c => exact h.takeCommand hat hp ha (hfiles hp) hn
    | message m =>
      have hsame := handled_other (i := .message m) (by simp) done
      refine h.hear hp ha ?_ (by rw [hsame]) (by rw [hsame])
      -- only answers reach the desk as messages
      intro m' hm
      rw [← Option.some.inj hm]
      exact answer_newText (h.answers m (by rw [ha]; exact List.mem_cons_self))
    | notice text =>
      have hsame := handled_other (i := .notice text) (by simp) done
      exact h.hear hp ha (by simp [Incoming.message?]) (by rw [hsame]) (by rw [hsame])
    | inputClosed =>
      have hsame := handled_other (i := .inputClosed) (by simp) done
      exact h.hear hp ha (by simp [Incoming.message?]) (by rw [hsame]) (by rw [hsame])

/-! ## §4. Every move. -/

/-- What reaches the desk is no wish either, when no wish is added. -/
theorem Kept.answers_append (h : Kept holds first files document s done told)
    {more : List Incoming} (hmore : ∀ m, .message m ∈ more → m.isWish = false) :
    ∀ m, .message m ∈ s.arrivals ++ more → m.isWish = false := by
  intro m hmem
  rcases List.mem_append.1 hmem with hold | hnew
  · exact h.answers m hold
  · exact hmore m hnew

theorem step_kept (h : Kept holds first files document s done told)
    (hput : ∀ v s s', x.store.put documentKey v s = (.ok (), s') → holds v s')
    (hat : Attended commands s done)
    (hfiles : s.desk.presence ≠ .left →
      ∀ path, .load path ∈ commands → x.read s.stored path = files path)
    (hn : commands.countP (Command.edits files) < 2 ^ 64) (m : Move) :
    Kept holds first files document (s.step x m) (done ++ s.takes m) (told ++ s.written x m) := by
  cases m with
  | take =>
    show Kept holds first files document _ _ (told ++ [])
    rw [List.append_nil]
    exact h.take hat hfiles hn
  | engine move =>
    show Kept holds first files document _ (done ++ []) _
    rw [List.append_nil]
    have hs := h.saving.moves hput (Engine.step_moves s.engine x.store s.stored move)
    exact ⟨hs, h.text, h.counted, h.answers⟩
  | read =>
    show Kept holds first files document _ (done ++ []) (told ++ [])
    rw [List.append_nil, List.append_nil]
    simp only [System.step]
    cases s.typed with
    | cons line typed =>
      exact ⟨h.saving, h.text, h.counted, h.answers_append (by simp)⟩
    | nil =>
      by_cases he : s.ended = true
      · simp only [he, if_true]
        exact h
      · simp only [he]
        exact ⟨h.saving, h.text, h.counted, h.answers_append (by simp)⟩
  | relay now =>
    show Kept holds first files document _ (done ++ []) (told ++ [])
    rw [List.append_nil, List.append_nil]
    simp only [System.step]
    cases he : s.engine.events with
    | nil =>
      simp only [Engine.take?, he]
      exact h
    | cons event events =>
      simp only [Engine.take?, he]
      refine ⟨h.saving, h.text, h.counted, h.answers_append ?_⟩
      intro m hmem
      rw [Option.mem_toList] at hmem
      exact Circuit.ofEvent_isWish hmem

/-- The files that commands name stay as they are during a run. -/
def Steady (x : Surroundings σ) (files : Reader) (commands : List Command) (s : System σ)
    (moves : List Move) : Prop :=
  ∀ before, before <+: moves → (s.run x before).desk.presence ≠ .left →
    ∀ path, .load path ∈ commands → x.read (s.run x before).stored path = files path

theorem run_kept {moves : List Move} (h : Kept holds first files document s done told)
    (hput : ∀ v s s', x.store.put documentKey v s = (.ok (), s') → holds v s')
    (hat : Attended commands s done) (hfiles : Steady x files commands s moves)
    (hn : commands.countP (Command.edits files) < 2 ^ 64) :
    Kept holds first files document (s.run x moves) (done ++ s.taken x moves)
        (told ++ s.writes x moves)
      ∧ Attended commands (s.run x moves) (done ++ s.taken x moves) := by
  induction moves generalizing s done told with
  | nil =>
    show Kept holds first files document s (done ++ []) (told ++ [])
      ∧ Attended commands s (done ++ [])
    rw [List.append_nil, List.append_nil]
    exact ⟨h, hat⟩
  | cons m moves ih =>
    -- what is steady for a run is steady now, and for the rest of it
    have hfirst := hfiles [] List.nil_prefix
    have hrest : Steady x files commands (s.step x m) moves := by
      intro before hb
      exact hfiles (m :: before) (List.cons_prefix_cons.2 ⟨rfl, hb⟩)
    have hrun := ih (step_kept h hput hat hfirst hn m) (step_attended hat m) hrest
    rw [List.append_assoc, List.append_assoc] at hrun
    exact hrun

/-- When nothing is on its way and no write has failed, the store holds the
text, unless there was no edit; then it is as it was. -/
theorem Kept.settled (h : Kept holds first files document s done told)
    (hq : s.engine.queue = []) (hp : s.engine.guard.hasPending = false)
    (hw : ∀ r message, .saveFailed r message ∉ told) :
    ((handled done).any (Command.edits files) = true → holds s.desk.session.document.text s.stored)
      ∧ ((handled done).any (Command.edits files) = false → s.stored = first) := by
  have hway : Engine.onTheWay s.engine.guard.committer (snapshots s.engine.queue) = [] :=
    Engine.onTheWay_nil (by rw [hq]; rfl) hp
  have hcount := h.counted
  refine ⟨?_, ?_⟩
  · intro hany
    have hr : s.desk.session.document.revision ≠ 0 := by
      intro h0
      rw [h0] at hcount
      obtain ⟨c, hmem, hc⟩ := List.any_eq_true.1 hany
      have hpos := List.countP_pos_iff.2 ⟨c, hmem, hc⟩
      rw [← hcount] at hpos
      exact absurd hpos (by decide)
    exact h.saving.stored_of_settled hway hr hw
  · intro hany
    have hzero : (handled done).countP (Command.edits files) = 0 := by
      rw [List.countP_eq_zero]
      exact List.any_eq_false.1 hany
    have hr : s.desk.session.document.revision = 0 := by
      rw [← UInt64.toNat_inj, hcount, hzero]
      rfl
    exact h.saving.untouched hr

theorem begin_kept (holds : String → σ → Prop) (files : Reader) (template document : String)
    (delay : Duration) (stored : σ) (typed : List String) :
    Kept holds stored files document (System.begin template document { delay } stored typed)
      [] [] := by
  have hdoc : (System.begin template document { delay } stored typed).desk.session.document
      = { text := document, revision := 0, saved := true } :=
    (Desk.dispatch_heard (Desk.preferring template) (.sessionStarted document)).1
  refine ⟨?_, ?_, ?_, ?_⟩
  · rw [hdoc]
    exact Saving.start holds stored document
  · rw [hdoc]
    rfl
  · rw [hdoc]
    rfl
  · intro m hm
    cases hm

end RenderDesk.Program
