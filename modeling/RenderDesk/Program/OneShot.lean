/-
  RenderDesk.Program.OneShot
  ──────────────────────────
  Rendering one document and no more: a template is given or chosen from the
  service's list, one render is asked for, and its end is awaited.

  Main statement: `take_finished` — after the end nothing more is taken in.
-/
import RenderDesk.Engine.Executor
import RenderDesk.Terminal.Desk

namespace RenderDesk.Program

open RenderDesk.Engine (Command Event Executor World)
open RenderDesk.Session
open RenderDesk.Terminal (Incoming Reaction note)

/-! ## §1. Stages. -/

inductive Stage where
  /-- The list of templates is awaited. -/
  | choosing
  /-- The render has been asked for. -/
  | rendering
  /-- There is no list of templates. -/
  | failed (reason : String)
  deriving Repr, DecidableEq

/-- A document that is rendered once. -/
structure OneShot where
  session : State
  stage : Stage
  deriving Repr, DecidableEq

namespace OneShot

/-- Asks for the render. -/
def request (session : State) : OneShot × List Effect :=
  let (session, effects) := update session .renderRequested
  (⟨session, .rendering⟩, effects)

/-- Begins with a document, for a template that is given or preferred. -/
def start (preferred : String) (template : Option String) (document : String) :
    OneShot × List Effect :=
  let (session, effects) :=
    update (.preferring (template.getD preferred)) (.sessionStarted document)
  match template with
  | some name => request (update session (.templatesLoaded [name])).1
  | none => (⟨session, .choosing⟩, effects)

/-- Takes in what comes from the engine. -/
def take (o : OneShot) (i : Incoming) : OneShot × Reaction :=
  match o.stage, i with
  | .choosing, .message (.templatesLoaded templates) =>
    let (o, effects) := request (update o.session (.templatesLoaded templates)).1
    (o, { effects })
  | .choosing, .notice reason => ({ o with stage := .failed reason }, {})
  | .rendering, .message m =>
    if o.session.render.phase.inFlight then ({ o with session := (update o.session m).1 }, {})
    else (o, {})
  | .rendering, .notice text =>
    if o.session.render.phase.inFlight then (o, { output := note text }) else (o, {})
  | _, _ => (o, {})

/-! ## §2. The end. -/

/-- What is printed at the end: the log, and the artifact if there is one. -/
def summary (view : View) : String :=
  Terminal.printed
    (view.log :: (view.artifactRef.map ("artifact: " ++ ·)).toList)

/-- What it has come to, once it is at its end: what is printed and whether
the render succeeded, or why there was none. -/
def result? (o : OneShot) : Option (Except String (String × Bool)) :=
  match o.stage with
  | .choosing => none
  | .failed reason => some (.error reason)
  | .rendering =>
    if o.session.render.phase.inFlight then none
    else
      let view := o.session.view
      some (.ok (summary view, view.phase = .succeeded))

/-! ## §3. Carrying it through. -/

/-- Performs commands one after another. -/
def perform (x : Executor σ) (w : World σ) : List Command → List Event × World σ
  | [] => ([], w)
  | command :: rest =>
    let (events, w) := x.perform command w
    let (later, w) := perform x w rest
    (events ++ later, w)

/-- Takes in what events become; the effects and the output of all. -/
def takeEvents (o : OneShot) (now : UInt64) : List Event → OneShot × Reaction
  | [] => (o, {})
  | event :: rest =>
    let (o, r) := match Incoming.ofEvent now event with
      | some i => o.take i
      | none => (o, {})
    let (o, later) := o.takeEvents now rest
    (o, ⟨r.effects ++ later.effects, r.output ++ later.output⟩)

/-- One round: what is asked for is done, and what comes of it is taken in. -/
def round (x : Executor σ) (now : UInt64) (o : OneShot) (effects : List Effect) (w : World σ) :
    OneShot × Reaction × World σ :=
  let (events, w) := perform x w (effects.map .ofEffect)
  let (o, r) := o.takeEvents now events
  (o, r, w)

/-- The list of templates and the render: two rounds are all there is. -/
def play (x : Executor σ) (now : UInt64) (begun : OneShot × List Effect) (w : World σ) :
    OneShot × String × World σ :=
  let (o, first, w) := round x now begun.1 begun.2 w
  let (o, second, w) := round x now o first.effects w
  (o, first.output ++ second.output, w)

/-! ## §4. Laws. -/

theorem take_finished {o : OneShot} {r : Except String (String × Bool)} (h : o.result? = some r)
    (i : Incoming) : o.take i = (o, {}) := by
  unfold result? at h
  unfold take
  split at h
  · simp at h
  · next hs => simp [hs]
  · next hs =>
    split at h
    · simp at h
    · next hf => cases i <;> simp [hs, hf]

end OneShot

end RenderDesk.Program
