/-
  RenderDesk.Terminal.Desk
  ────────────────────────
  The desk at which a session is held: it takes in one thing after another,
  prints what has changed, and asks the engine for what is needed.

  When nothing more will be typed the desk is left, as soon as no render is
  in flight.

  Main statements:
    * `take_left` — a desk that was left takes nothing in;
    * `dispatch_text` — the text changes by edits only;
    * `command_text` — a command changes the text as `Command.edited?` says.
-/
import RenderDesk.Document.Edit
import RenderDesk.Document.Example
import RenderDesk.Files.IoError
import RenderDesk.Session.Update
import RenderDesk.Terminal.Incoming
import RenderDesk.Terminal.Transcript

namespace RenderDesk.Terminal

open RenderDesk.Session

/-! ## §1. The desk and its reactions. -/

/-- Whether a desk is still sat at. -/
inductive Presence where
  | attending
  /-- Nothing more will be typed. -/
  | leaving
  | left
  deriving Repr, DecidableEq, Inhabited

structure Desk where
  session : State := {}
  /-- The view whose changes have been printed. -/
  shown : View := ({} : State).view
  presence : Presence := .attending
  deriving Repr, DecidableEq, Inhabited

/-- What the desk does in answer to something. -/
structure Reaction where
  effects : List Effect := []
  output : String := ""
  deriving Repr, DecidableEq, Inhabited

/-- A line that tells the user something. -/
def note (text : String) : String := printed ["! " ++ text]

/-- Reads the files that are named at the desk. -/
abbrev Reader := Files.Path → Except Files.IoError String

/-! ## §2. Messages. -/

namespace Desk

/-- A desk with a new session that prefers a template. -/
def preferring (template : String) : Desk where
  session := .preferring template
  shown := (State.preferring template).view

/-- Whether a message asks for a render while one is in flight. -/
def refuses (d : Desk) : Message → Bool
  | .renderRequested => d.session.render.phase.inFlight
  | _ => false

/-- Prints what has changed, if anything has. -/
def report (d : Desk) : Desk × String :=
  if d.session.dirty then
    let view := d.session.seen.view
    ({ d with session := d.session.seen, shown := view }, printed (changes d.shown view))
  else (d, "")

/-- Takes in a message. -/
def dispatch (d : Desk) (m : Message) : Desk × Reaction :=
  let refusal := if d.refuses m then note "a render is already running" else ""
  let (session, effects) := update d.session m
  let (d, output) := { d with session }.report
  (d, { effects, output := refusal ++ output })

/-- Takes in a message; if it cannot come to much, tells the user why before. -/
def dispatchWarned (d : Desk) (futile : Bool) (why : String) (m : Message) : Desk × Reaction :=
  let (d, r) := d.dispatch m
  (d, { r with output := (if futile then note why else "") ++ r.output })

end Desk

/-! ## §3. Commands. -/

/-- The text that a command makes of a text, if it edits it. -/
def Command.edited? (read : Reader) (text : String) : Command → Option String
  | .append line => some (Document.appendLine text line)
  | .pop => some (Document.dropLastLine text)
  | .reset => some Document.exampleText
  | .load path => (read path).toOption
  | _ => none

/-- A template in a list, with a star if it is the one that is marked. -/
def templateEntry (marked : Option String) (name : String) : String :=
  (if marked = some name then "* " else "  ") ++ name

namespace Desk

/-- The list of templates. -/
def templateList (d : Desk) : String :=
  printed (d.session.templates.map (templateEntry d.session.selected)) ++
    (if d.session.templates.isEmpty then note "no templates loaded" else "")

/-- Carries out a command that edits nothing. -/
def carryOut (read : Reader) (d : Desk) : Command → Desk × Reaction
  | .render => d.dispatch .renderRequested
  | .source =>
    d.dispatchWarned d.session.selected.isNone "no template selected" .sourceExtractRequested
  | .useTemplate name =>
    d.dispatchWarned (name ∉ d.session.templates) ("unknown template " ++ name)
      (.templateSelected name)
  | .clearLog => d.dispatch .logResetRequested
  | .saveArtifact =>
    d.dispatchWarned d.session.render.artifactRef.isNone "nothing to export yet; render first"
      .exportRequested
  | .templates => (d, { output := d.templateList })
  | .status => (d, { output := status d.session.view d.session.document.text })
  | .help => (d, { output := printed [helpText] })
  | .load path =>
    match read path with
    | .ok _ => (d, {})
    | .error e => (d, { output := note ("cannot read " ++ path ++ ": " ++ e.text) })
  | .unknown line =>
    (d, { output := note ("unknown command " ++ Text.quoted line ++ "; :help lists commands") })
  | .append _ | .pop | .reset => (d, {})
  | .quit => ({ d with presence := .left }, {})

/-- Carries out a command. -/
def command (read : Reader) (d : Desk) (c : Command) : Desk × Reaction :=
  match c.edited? read d.session.document.text with
  | some text => d.dispatch (.documentEdited text)
  | none => d.carryOut read c

/-! ## §4. Everything that comes in. -/

/-- Answers what comes in. -/
def answer (read : Reader) (d : Desk) : Incoming → Desk × Reaction
  | .message m => d.dispatch m
  | .notice text => (d, { output := note text })
  | .command c => d.command read c
  | .inputClosed => ({ d with presence := .leaving }, {})

/-- Leaves the desk when nothing keeps it. -/
def settled (d : Desk) : Desk :=
  if d.presence = .leaving ∧ d.session.render.phase.inFlight = false then
    { d with presence := .left }
  else d

/-- Takes in what comes in. -/
def take (read : Reader) (d : Desk) (i : Incoming) : Desk × Reaction :=
  if d.presence = .left then (d, {})
  else
    let (d, r) := d.answer read i
    (d.settled, r)

end Desk

/-! ## §5. Laws. -/

namespace Desk

theorem take_left {d : Desk} (h : d.presence = .left) (read : Reader) (i : Incoming) :
    d.take read i = (d, {}) := by
  simp [take, h]

@[simp] theorem report_document (d : Desk) : d.report.1.session.document = d.session.document := by
  unfold report
  split <;> rfl

theorem dispatch_text (d : Desk) (m : Message) :
    (d.dispatch m).1.session.document.text = m.newText?.getD d.session.document.text := by
  simp [dispatch, update_text]

theorem carryOut_text (read : Reader) (d : Desk) (c : Command) :
    (d.carryOut read c).1.session.document.text = d.session.document.text := by
  cases c with
  | load path =>
    simp only [carryOut]
    split <;> rfl
  | _ => simp [carryOut, dispatchWarned, dispatch_text, Message.newText?]

theorem command_text (read : Reader) (d : Desk) (c : Command) :
    (d.command read c).1.session.document.text
      = (c.edited? read d.session.document.text).getD d.session.document.text := by
  unfold command
  split
  · next text h => simp [dispatch_text, Message.newText?, h]
  · next h => simp [carryOut_text, h]

end Desk

end RenderDesk.Terminal
