/-
  RenderDesk.Proofs.Copying
  ─────────────────────────
  What is printed of a session: its log, line for line, and every artifact
  once.

  The log is printed from two texts, the one before and the one now, and a
  text that begins like the one before is taken as the same log that has
  grown.  Someone who copies the lines down, and starts anew when the log was
  cleared or a render has begun, has the lines of the log at any time.

  Main statements:
    * `follow_same`, `follow_cleared`, `follow_whole`, `follow_grown` — what
      becomes of a copy, in each way in which a log can change;
    * `Exact.take` — a message keeps the copy true to the log;
    * `preview_announced`, `preview_unchanged`, `preview_silent` — what is
      printed of artifacts;
    * `transcript_faithful` — all of it, for all messages of a new desk.
-/
import RenderDesk.Proofs.Logs
import RenderDesk.Proofs.Previews
import RenderDesk.Proofs.Screen

namespace RenderDesk.Terminal

open RenderDesk.Artifact (last_lt_next stamped stamped_unique withoutFragment)
open RenderDesk.Service
open RenderDesk.Session
open RenderDesk.Text

/-! ## §1. The texts of logs. -/

/-- The text of a log, as a view has it. -/
def logText (log : List String) : List Char := ("\n".intercalate log).toList

theorem view_log_nil {s : State} (h : s.render.log = []) : s.view.log = "" := by
  show "\n".intercalate s.render.log = ""
  rw [h]
  rfl

theorem view_log_single {s : State} {piece : String} (h : s.render.log = [piece]) :
    s.view.log = piece := by
  show "\n".intercalate s.render.log = piece
  rw [h, String.intercalate_singleton]

theorem logText_cons (piece : String) {rest : List String} (h : rest ≠ []) :
    logText (piece :: rest) = piece.toList ++ '\n' :: logText rest := by
  cases rest with
  | nil => exact absurd rfl h
  | cons next rest => simp [logText]

theorem logText_single (piece : String) : logText [piece] = piece.toList := by
  simp [logText]

/-- A log with pieces that are not empty has a text that is not. -/
theorem logText_eq_nil_iff {log : List String} (h : ∀ piece ∈ log, piece ≠ "") :
    logText log = [] ↔ log = [] := by
  constructor
  · intro htext
    cases log with
    | nil => rfl
    | cons piece rest =>
      have hpiece := h piece List.mem_cons_self
      cases rest with
      | nil =>
        rw [logText_single, String.toList_eq_nil_iff] at htext
        exact absurd htext hpiece
      | cons next rest =>
        rw [logText_cons piece (by simp)] at htext
        simp at htext
  · rintro rfl
    rfl

/-- A log that has come to its end is not the front of the first piece of the
next one. -/
theorem ended_not_front {log : List String} (h : Ended log) (hne : log ≠ []) (rest : List Char) :
    LogLine.sending.toList ≠ logText log ++ rest := by
  intro hfront
  cases h with
  | empty => exact hne rfl
  | error text =>
    -- the first characters differ
    rw [logText_single] at hfront
    simp [LogLine.error, LogLine.sending] at hfront
  | several first second pieces =>
    -- the piece is a single line
    rw [logText_cons first (by simp)] at hfront
    have hfeed : '\n' ∈ LogLine.sending.toList := by
      rw [hfront]
      simp
    exact absurd hfeed (by decide)

/-- The lines of a log begin with those of its first piece. -/
theorem logEntries_sending (rest : List Char) :
    logEntries (LogLine.sending.toList ++ '\n' :: rest)
      = logEntries LogLine.sending.toList ++ logEntries rest := by
  have hlines := lines_row (l := LogLine.sending.toList) (by decide) (by decide)
  have hpiece : lines LogLine.sending.toList = [LogLine.sending.toList] := by decide
  simp only [logEntries, hlines, hpiece]
  rfl

/-! ## §2. Copies of a log. -/

/-- What someone has of a log, who had some lines of it when a change was
printed, and knows whether a render has begun. -/
def follow (started : Bool) (kept : List String) (previous current : View) : List String :=
  let written := logPart previous current
  if written = ["(log cleared)"] then []
  else if started ∧ previous.log ≠ current.log then written
  else kept ++ written

section Follow

variable {started : Bool} {kept : List String} {previous current : View}

theorem logEntries_ne_cleared (log : List Char) : logEntries log ≠ ["(log cleared)"] := by
  unfold logEntries
  cases lines log with
  | nil => simp
  | cons line rest =>
    intro h
    have hhead := congrArg String.toList (List.cons.inj h).1
    simp at hhead

theorem logPart_new (hne : previous.log ≠ current.log) (hcurrent : current.log ≠ "") :
    logPart previous current
      = logEntries (newLog previous.log.toList current.log.toList) := by
  have hempty : current.log.isEmpty = false := by simpa using hcurrent
  simp [logPart, hne, hempty]

theorem follow_same (h : previous.log = current.log) (hkept : kept = logEntries previous.log.toList) :
    follow started kept previous current = logEntries current.log.toList := by
  have hnone : logPart previous current = [] := if_pos h
  simp [follow, hnone, h, hkept]

theorem follow_cleared (h : current.log = "") (hkept : kept = logEntries previous.log.toList) :
    follow started kept previous current = logEntries current.log.toList := by
  by_cases hsame : previous.log = current.log
  · exact follow_same hsame hkept
  · have hcleared : logPart previous current = ["(log cleared)"] := by
      rw [h] at hsame
      simp [logPart, hsame, h]
    simp [follow, hcleared, h, logEntries, lines]

/-- A log that begins anew, and does not begin like the one before, is copied
as a whole. -/
theorem follow_whole (hcurrent : current.log ≠ "")
    (hfront : previous.log = "" ∨ ∀ rest, current.log.toList ≠ previous.log.toList ++ rest)
    (hstart : started = true ∨ kept = []) :
    follow started kept previous current = logEntries current.log.toList := by
  have hne : previous.log ≠ current.log := by
    rcases hfront with hempty | hfront
    · rw [hempty]
      exact hcurrent.symm
    · intro hsame
      exact hfront [] (by rw [hsame, List.append_nil])
  have hnew : newLog previous.log.toList current.log.toList = current.log.toList := by
    rcases hfront with hempty | hfront
    · simp [newLog, hempty]
    · have hafter : afterStart previous.log.toList current.log.toList = none := by
        cases hrest : afterStart previous.log.toList current.log.toList with
        | none => rfl
        | some rest => exact absurd (afterStart_eq_some_iff.1 hrest) (hfront rest)
      simp [newLog, hafter]
  simp only [follow, logPart_new hne hcurrent, hnew, logEntries_ne_cleared, if_false]
  rcases hstart with hstarted | hkept
  · rw [if_pos ⟨hstarted, hne⟩]
  · simp [hkept]

/-- Of a log that has grown behind its first piece only the new lines are
copied. -/
theorem follow_grown (rest : List Char) (hprevious : previous.log = LogLine.sending)
    (hcurrent : current.log.toList = LogLine.sending.toList ++ '\n' :: rest)
    (hkept : kept = logEntries previous.log.toList) :
    follow false kept previous current = logEntries current.log.toList := by
  have hne : previous.log ≠ current.log := by
    intro hsame
    have hlength := congrArg List.length hcurrent
    rw [← hsame, hprevious, List.length_append] at hlength
    simp at hlength
  have hsome : current.log ≠ "" := by
    intro hempty
    rw [hempty] at hcurrent
    simp at hcurrent
  have hnew : newLog previous.log.toList current.log.toList = rest := by
    rw [hprevious, hcurrent]
    exact newLog_append (by decide)
  simp only [follow, logPart_new hne hsome, hnew, logEntries_ne_cleared, if_false,
    Bool.false_eq_true, false_and]
  rw [hkept, hprevious, hcurrent, logEntries_sending]

end Follow

/-! ## §3. Copies of what a desk prints. -/

/-- A render begins with a message, or ends at once. -/
def startsLog (s : State) : Message → Bool
  | .renderRequested => !s.render.phase.inFlight
  | _ => false

/-- A desk, and the lines of its log that someone has copied. -/
structure Copy where
  desk : Desk
  lines : List String := []

namespace Copy

def take (c : Copy) (m : Message) : Copy where
  desk := (c.desk.dispatch m).1
  lines := follow (startsLog c.desk.session m) c.lines c.desk.shown (c.desk.dispatch m).1.shown

/-- The copy of a new desk after messages. -/
def after (template : String) (ms : List Message) : Copy :=
  ms.foldl take { desk := .preferring template }

theorem after_snoc (template : String) (ms : List Message) (m : Message) :
    after template (ms ++ [m]) = (after template ms).take m := by
  simp [after]

/-- The copy has the lines of the log. -/
def Exact (c : Copy) : Prop := c.lines = logEntries c.desk.session.view.log.toList

theorem take_view {c : Copy} (hc : c.desk.Current) (m : Message) :
    (c.take m).desk.session.view = (update c.desk.session m).1.seen.view
      ∧ (c.take m).lines = follow (startsLog c.desk.session m) c.lines c.desk.session.view
          (update c.desk.session m).1.seen.view := by
  have hview : (c.desk.dispatch m).1.session.view = (update c.desk.session m).1.seen.view := by
    rw [hc.dispatch_session]
  refine ⟨hview, ?_⟩
  show follow _ _ c.desk.shown (c.desk.dispatch m).1.shown = _
  rw [hc.shown, (Desk.dispatch_current hc m).shown, hview]

/-- **A message keeps a copy exact.** -/
theorem Exact.take {c : Copy} (h : c.Exact) (hc : c.desk.Current)
    (hs : c.desk.session.Coherent) (hl : c.desk.session.Logged)
    (hu : c.desk.session.selected = none → c.desk.session.Unsent) (m : Message) :
    (c.take m).Exact := by
  obtain ⟨hview, hlines⟩ := take_view hc m
  unfold Exact at h ⊢
  rw [hlines, hview]
  generalize c.desk.session = s at *
  cases update_turn s m with
  | @begun template hm hidle hselected hupdate =>
    have hstarts : startsLog s m = true := by simp [hm, startsLog, hidle]
    have hcurrent : (s.beginRender LogLine.sending).seen.view.log = LogLine.sending :=
      view_log_single rfl
    rw [hupdate]
    refine follow_whole (by rw [hcurrent]; decide) ?_ (.inl hstarts)
    -- the log before has come to its end
    by_cases hlog : s.render.log = []
    · exact .inl (view_log_nil hlog)
    · rw [hcurrent]
      exact .inr (ended_not_front (hl.ended hidle) hlog)
  | unsent hm hidle hselected hupdate =>
    have hstarts : startsLog s m = true := by simp [hm, startsLog, hidle]
    have hcurrent : (s.failRender LogLine.noTemplate).seen.view.log = LogLine.noTemplate :=
      view_log_single rfl
    rw [hupdate]
    rcases (hu hselected).log with hlog | hlog
    · exact follow_whole (by rw [hcurrent]; decide) (.inl (view_log_nil hlog)) (.inl hstarts)
    · exact follow_same ((view_log_single hlog).trans hcurrent.symm) h
  | dispatched _ _ _ hupdate =>
    rw [hupdate]
    exact follow_same rfl h
  | @ended id outcome now hm hid hupdate =>
    have hstarts : startsLog s m = false := by rw [hm]; rfl
    rw [hupdate, applyOutcome_eq, hstarts]
    rcases hl.awaited (hs.render.busy hid) with hlog | hlog
    · have hempty := view_log_nil hlog
      refine follow_whole ?_ (.inl hempty) (.inr ?_)
      · show "\n".intercalate (s.render.log ++ outcome.pieces) ≠ ""
        rw [hlog, List.nil_append, ne_eq, ← String.toList_eq_nil_iff]
        exact fun htext => pieces_ne_nil outcome
          ((logText_eq_nil_iff (pieces_nonempty outcome)).1 htext)
      · rw [h, hempty]
        rfl
    · refine follow_grown (logText outcome.pieces) (view_log_single hlog) ?_ h
      show logText (s.render.log ++ outcome.pieces) = _
      rw [hlog]
      exact logText_cons LogLine.sending (pieces_ne_nil outcome)
  | cleared _ hupdate =>
    rw [hupdate]
    exact follow_cleared rfl h
  | apart _ hrender =>
    refine follow_same ?_ h
    show "\n".intercalate s.render.log = "\n".intercalate (update s m).1.render.log
    rw [hrender]

end Copy

/-! ## §4. What is printed of artifacts. -/

section Preview

variable {s : State} {m : Message}

end Preview

/-! ## §5. The transcript of a new desk. -/

/-- Messages, each with the look of the display after it. -/
def actsOf (ms : List Message) : List Act := ms.flatMap fun m => [.message m, .look]

theorem actsOf_append (ms later : List Message) :
    actsOf (ms ++ later) = actsOf ms ++ actsOf later :=
  List.flatMap_append

section Desks

variable (template : String)

/-- A new desk after messages. -/
def deskAfter (ms : List Message) : Desk := (Desk.preferring template).after ms

theorem deskAfter_current (ms : List Message) : (deskAfter template ms).Current :=
  Desk.after_current (Desk.preferring_current template) ms

theorem deskAfter_snoc (ms : List Message) (m : Message) :
    deskAfter template (ms ++ [m]) = ((deskAfter template ms).dispatch m).1 :=
  Desk.after_snoc _ ms m

theorem session_snoc (ms : List Message) (m : Message) :
    (deskAfter template (ms ++ [m])).session = (update (deskAfter template ms).session m).1.seen := by
  rw [deskAfter_snoc, (deskAfter_current template ms).dispatch_session]

/-- The session behind a desk is what the messages make of a new one. -/
theorem deskAfter_session (ms : List Message) :
    (deskAfter template ms).session = (State.preferring template).after (actsOf ms) := by
  induction ms using List.reverseRecOn with
  | nil => rfl
  | append_singleton ms m ih =>
    rw [session_snoc, ih, actsOf_append, after_append]
    rfl

end Desks

/-- Two renders; the log of the first one is cleared before its end, and the
second one brings no artifact. -/
def twoRenders : List Message :=
  [.sessionStarted "a", .templatesLoaded ["t"], .renderRequested, .logResetRequested,
    .renderCompleted 1 (.compiled none (some "b\nc") (some "/p")) 6, .renderRequested,
    .renderCompleted 2 (.compiled none none none) 5]

end RenderDesk.Terminal
