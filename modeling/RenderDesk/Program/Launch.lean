/-
  RenderDesk.Program.Launch
  ─────────────────────────
  The program from its arguments on: settings, log, and then a session, one
  render or the list of templates.

  The network is a link; everything else that the program meets is a tree of
  files.
-/
import RenderDesk.Document.Example
import RenderDesk.Engine.StartError
import RenderDesk.Http.Client
import RenderDesk.Program.OneShot
import RenderDesk.Program.Schedule
import RenderDesk.Service.Remote
import RenderDesk.Settings.CommandLine
import RenderDesk.Settings.Load

namespace RenderDesk.Program

open RenderDesk.Engine (Executor StartError World)
open RenderDesk.Files
open RenderDesk.Settings
open RenderDesk.Storage
open RenderDesk.Terminal (printed helpText templateEntry)

/-! ## §1. How a program ends. -/

/-- The end of a program: its exit code, and what it has printed. -/
structure Ending where
  exit : Nat
  output : String := ""
  errors : String := ""
  deriving Repr, DecidableEq, Inhabited

/-- An end with an error. -/
def failed (text : String) : Ending := { exit := 1, errors := printed ["error: " ++ text] }

def versionText : String := "docrender 0.1.0"

def usageText : String :=
  "Edit a document and render it to PDF through a compile service\n\n" ++
  "Usage: docrender [OPTIONS] [COMMAND]\n\n" ++
  "Commands:\n" ++
  "  session    Interactive editing session (the default)\n" ++
  "  render     Render a file once, print the log and exit non-zero on failure\n" ++
  "  templates  List the templates offered by the compile service\n" ++
  "  help       Print this message or the help of the given subcommand(s)\n\n" ++
  "Options:\n" ++
  "      --config <PATH>           Optional path to a RON configuration file\n" ++
  "      --base-url <URL>          Base URL of the compile service\n" ++
  "      --render-deadline <SECS>  Give up on a render locally after this many seconds\n" ++
  "      --log <LOG>               Where log output goes\n" ++
  "  -h, --help                    Print help\n" ++
  "  -V, --version                 Print version"

/-- What is wrong with arguments. -/
def mistakeText : UsageError → String
  | .unknownArgument => "unexpected argument"
  | .invalidValue => "a value is missing or not one of those that are possible"
  | .valueValidation => "a value is no number"
  | .invalidSubcommand => "unrecognized subcommand"
  | .missingArgument => "a required argument was not provided"
  | .argumentConflict => "an argument cannot be used multiple times"
  | .tooManyValues => "unexpected value"
  | .help | .version => ""

/-- The end to which arguments alone lead. -/
def Ending.ofUsage : UsageError → Ending
  | .help => { exit := 0, output := printed [usageText] }
  | .version => { exit := 0, output := printed [versionText] }
  | e => { exit := 2, errors := printed ["error: " ++ mistakeText e, "", usageText] }

/-! ## §2. Settings and log. -/

/-- What a program is started with. -/
structure Invocation where
  /-- The arguments behind the program's name. -/
  args : List String := []
  environment : Environment := {}
  files : Tree := {}

def logFile : Path := "./docrender.log"

/-- Begins the log anew, if there is to be one in a file; tells when that
cannot be done. -/
def openLog (d : LogDestination) (t : Tree) : String × Tree :=
  match d with
  | .file | .both =>
    match t.overwrite logFile .empty with
    | .ok t => ("", t)
    | .error e =>
      (printed ["Warning: Could not create log file at " ++ Text.quoted logFile ++ ": " ++ e.text], t)
  | .terminal | .off => ("", t)

/-- A program that knows what to do. -/
structure Prepared where
  preferences : Preferences
  command : Subcommand
  files : Tree
  errors : String := ""

def prepare (i : Invocation) : Except Ending Prepared :=
  match readArgs i.args i.environment with
  | .error e => .error (.ofUsage e)
  | .ok line =>
    match load i.files line.config with
    | .error e => .error (failed e.text)
    | .ok p =>
      let preferences := p.override line
      let (errors, files) := openLog preferences.logDestination i.files
      .ok { preferences, command := line.command.getD .session, files, errors }

/-! ## §3. The engine. -/

/-- What jobs and saves need, for some preferences; some writes may go wrong. -/
def equip (service : Service.CompileService β) (p : Preferences) (faults : Faults) :
    Executor β where
  service := service
  deadline := p.service.renderDeadline
  output := { dir := p.outputDir, faults }
  store := fileStore { dir := p.stateDir, faults }

/-- The engine for some preferences, over a link. -/
def startEngine (link : Http.Link β) (p : Preferences) : Except StartError (Executor β) :=
  match Service.openBase p.service with
  | .error f => .error (.service f)
  | .ok base => .ok (equip (Service.remote link p.service base) p {})

/-- The end when the engine cannot be started: why, and what lies behind it. -/
def notStarted (e : StartError) : Ending :=
  let cause := match e with
    | .runtime error => error.text
    | .service failure => failure.text
  failed ("starting render engine: " ++ e.text ++ ": " ++ cause)

/-! ## §4. The commands. -/

/-- What is printed at the start of a session. -/
def greeting (p : Preferences) (restored : Bool) : String :=
  printed (["docrender: " ++ p.baseUrl, helpText]
    ++ if restored then [] else ["(starting from the example document)"])

/-- A session at its start. -/
def openSession (x : Executor β) (p : Preferences) (files : Tree) (beyond : β) : Running β :=
  let (document, restored) := x.store.initialText files Document.exampleText
  let system :=
    System.begin p.preferredTemplate document { delay := p.service.saveDelay } files []
  { system := { system with output := greeting p restored ++ system.output }, beyond }

/-- The end to which a render of one document leads, with what was said on the
way. -/
def Ending.ofRender (errors : String) : Except String (String × Bool) → Ending
  | .error reason => { failed reason with errors := errors ++ (failed reason).errors }
  | .ok (output, succeeded) => { exit := if succeeded then 0 else 1, output, errors }

/-- The end of a render of one document, if it has one. -/
def renderOnce (x : Executor β) (p : Preferences) (now : UInt64) (template : Option String)
    (document : String) (files : Tree) (beyond : β) : Option Ending × World β :=
  let w : World β := { beyond, files, guard := { delay := p.service.saveDelay } }
  let (shot, errors, w) :=
    OneShot.play x now (OneShot.start p.preferredTemplate template document) w
  (shot.result?.map (.ofRender errors), w)

/-- How long the list of templates is waited for. -/
def listingLimit (p : Preferences) : Duration :=
  .ofSeconds (min (p.requestTimeoutSecs + 5) (UInt64.size - 1))

/-- The end of listing the templates. -/
def listing (p : Preferences) (answer : Timed (Service.Result (List String))) : Ending :=
  match ((answer.map some).within (listingLimit p) none).value? with
  | some (some (.ok templates)) =>
    { exit := 0, output := printed (templates.map (templateEntry (some p.preferredTemplate))) }
  | some (some (.error f)) => failed ("could not list templates: " ++ f.text)
  | _ => failed ("no answer from " ++ p.baseUrl)

/-! ## §5. The program. -/

/-- What a program that was started comes to. -/
inductive Course (β : Type) where
  | ended (ending : Ending) (files : Tree) (beyond : β)
  /-- An answer is awaited that never comes. -/
  | waiting (files : Tree) (beyond : β)
  /-- A session has begun. -/
  | session (executor : Executor β) (running : Running β) (errors : String)

/-- What lies beyond the service in the end. -/
def Course.beyond : Course β → β
  | .ended _ _ beyond | .waiting _ beyond => beyond
  | .session _ running _ => running.beyond

/-- Carries a command out, or begins a session. -/
def Prepared.proceed (r : Prepared) (link : Http.Link β) (now : UInt64) (beyond : β) : Course β :=
  let p := r.preferences
  let ended (e : Ending) (files : Tree) (beyond : β) : Course β :=
    .ended { e with errors := r.errors ++ e.errors } files beyond
  match r.command with
  | .session =>
    match startEngine link p with
    | .error e => ended (notStarted e) r.files beyond
    | .ok x => .session x (openSession x p r.files beyond) r.errors
  | .render path template =>
    match r.files.readText path with
    | .error e => ended (failed ("reading " ++ path ++ ": " ++ e.text)) r.files beyond
    | .ok document =>
      match startEngine link p with
      | .error e => ended (notStarted e) r.files beyond
      | .ok x =>
        match renderOnce x p now template document r.files beyond with
        | (some e, w) => ended e w.files w.beyond
        | (none, w) => .waiting w.files w.beyond
  | .templates =>
    match startEngine link p with
    | .error e => ended (notStarted e) r.files beyond
    | .ok x =>
      let (answer, beyond) := x.service.listTemplates beyond
      ended (listing p answer) r.files beyond

/-- Starts the program. -/
def launch (link : Http.Link β) (now : UInt64) (i : Invocation) (beyond : β) : Course β :=
  match prepare i with
  | .error e => .ended e i.files beyond
  | .ok r => r.proceed link now beyond

end RenderDesk.Program
