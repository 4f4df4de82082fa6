/-
  RenderDesk.Main
  ───────────────
  The program on a real terminal, with real files, a network and clocks.

  Nothing is decided here.  The files that matter are read into a tree, and
  what has changed in it is written back; typed lines, answers from the
  network and due times are handed in one by one, and what is printed is
  passed on.
-/
import RenderDesk.Http.Tape
import RenderDesk.Http.Wire
import RenderDesk.Program.Launch
import Std.Async.DNS
import Std.Async.TCP
import Std.Time.DateTime.Timestamp

namespace RenderDesk.Main

open RenderDesk.Files (Tree Location IoError names)
open RenderDesk.Http (Request Answer Tape tape)
open RenderDesk.Program
open RenderDesk.Settings (Preferences)
open RenderDesk.Storage (Faults)

/-! ## §1. Clocks. -/

/-- A time that only grows. -/
def elapsedTime : IO Duration := return ⟨← IO.monoNanosNow⟩

/-- Milliseconds by the calendar. -/
def calendarTime : IO UInt64 := do
  let t ← Std.Time.Timestamp.now
  return UInt64.ofNat t.toMillisecondsSinceUnixEpoch.val.toNat

/-! ## §2. Files. -/

def pathOf (l : Location) : String := "/" ++ "/".intercalate l

/-- The place that a path names. -/
def locate (t : Tree) (path : Files.Path) : Location :=
  (names path).foldl (fun l name =>
    if name = "." then l else if name = ".." then l.dropLast else l ++ [name]) (t.start path)

/-- Reads what is at a place into the tree. -/
def captureNode (t : Tree) (l : Location) : IO Tree := do
  let path := (← IO.currentDir).join (pathOf l)
  if ← path.isDir then return t.put l .directory
  try return t.put l (.file (← IO.FS.readBinFile path))
  catch _ => return t.erase l

/-- Reads what a path names into the tree, with everything above it. -/
def capture (t : Tree) (path : Files.Path) : IO Tree :=
  let l := locate t path
  (List.range l.length).foldlM (fun t n => captureNode t (l.take (n + 1))) t

/-- Why an operation of the system failed. -/
def ioErrorOf : IO.Error → IoError
  | .noFileOrDirectory .. => .notFound
  | .alreadyExists .. => .alreadyExists
  | .permissionDenied _ code _ => .system code.toNat "Permission denied"
  | .resourceExhausted _ code details => .system code.toNat details
  | .inappropriateType _ code details =>
    if code = 20 then .notADirectory
    else if code = 21 then .isADirectory
    else .system code.toNat details
  | e => .system 5 (toString e)

/-- Writes a node to its place, a file by way of another one beside it. -/
def writeNode : Location × Files.Node → IO Unit
  | (l, .directory) => IO.FS.createDirAll (pathOf l)
  | (l, .file content) => do
    let beside := pathOf l ++ ".new"
    IO.FS.writeBinFile beside content
    IO.FS.rename beside (pathOf l)

/-- Writes back what has changed since an earlier tree. -/
def writeBack (t old : Tree) : IO Unit := (t.changedSince old).forM writeNode

/-- Does something to the tree for which nothing goes wrong; if it cannot be
written back, does it once more with that going wrong. -/
def bringAbout (before : Tree) (files : α → Tree) (play : Faults → α) : IO α := do
  let a := play {}
  try
    writeBack (files a) before
    return a
  catch e => return play { create := some (ioErrorOf e) }

/-! ## §3. The network. -/

def v4Address (address : Nat) : Std.Net.IPAddr :=
  let part (n : Nat) : UInt8 := UInt8.ofNat (address / n)
  .v4 (.ofParts (part 16777216) (part 65536) (part 256) (part 1))

def portOf (url : Url) : UInt16 :=
  UInt16.ofNat ((url.authority.bind (·.port)).getD 80)

/-- The addresses of the host of a URL. -/
def addressesOf (url : Url) : IO (List Std.Net.IPAddr) := do
  match url.authority.map Url.Authority.host with
  | some (.v4 address) => return [v4Address address]
  | some host =>
    let name := String.ofList (host.text.filter fun c => c ≠ '[' && c ≠ ']')
    return (← (Std.Async.DNS.getAddrInfo name (toString (portOf url))).block).toList
  | none => return []

def socketAddress (port : UInt16) : Std.Net.IPAddr → Std.Net.SocketAddress
  | .v4 addr => .v4 { addr, port }
  | .v6 addr => .v6 { addr, port }

/-- Everything that comes over a connection until it ends. -/
partial def receiveAll (client : Std.Async.TCP.Socket.Client) (received : ByteArray) :
    IO ByteArray := do
  match ← (client.recv? 65536).block with
  | some bytes => receiveAll client (received ++ bytes)
  | none => return received

/-- One exchange over a connection of its own. -/
def exchange (request : Request) : IO Answer := do
  try
    if request.url.scheme ≠ "http".toList then return .error .unreachable
    match ← addressesOf request.url with
    | [] => return .error .unreachable
    | address :: _ =>
      let client ← Std.Async.TCP.Socket.Client.mk
      (client.connect (socketAddress (portOf request.url) address)).block
      (client.send request.bytes).block
      match Http.readResponse (← receiveAll client .empty) with
      | some response => return .ok response
      | none => return .error .unreachable
  catch _ => return .error .unreachable

/-- The answer to a request, with the time that it took. -/
def timedExchange (request : Request) : IO (Timed Answer) := do
  let begun ← elapsedTime
  let answer ← exchange request
  return .after ⟨(← elapsedTime).nanoseconds - begun.nanoseconds⟩ answer

/-! ## §4. Waiting. -/

/-- Something that is going on by itself. -/
abbrev Ongoing (α : Type) := Task (Except IO.Error α)

/-- What has come of it, if it has come to its end. -/
def outcome? (ongoing : Ongoing α) : IO (Option (Option α)) := do
  if ← IO.hasFinished ongoing then return some ongoing.get.toOption else return none

/-- A pause between two looks at what is going on. -/
def pause : IO Unit := IO.sleep 10

/-- How long an answer can matter. -/
def patience (p : Preferences) : Duration :=
  let limit := p.service.requestTimeout
  match p.service.renderDeadline with
  | some deadline => if deadline ≤ limit then deadline else limit
  | none => limit

/-- Waits for an answer up to a moment. -/
partial def answerBy (moment : Duration) (answer : Ongoing (Timed Answer)) : IO (Timed Answer) := do
  if let some a ← outcome? answer then return a.getD .never
  if moment ≤ (← elapsedTime) then return .never
  pause
  answerBy moment answer

/-- The answer to a request; none when it comes too late to matter. -/
def answerWithin (limit : Duration) (request : Request) : IO (Timed Answer) := do
  let moment := (← elapsedTime) + limit
  answerBy moment (← IO.asTask (timedExchange request) .dedicated)

/-! ## §5. Commands that are carried out once. -/

/-- Plays what needs a network again and again, with one more answer each
time, until it needs no more. -/
partial def playThrough (limit : Duration) (play : Tape → Course Tape)
    (recorded : List (Timed Answer)) : IO (Course Tape) := do
  let course := play { recorded }
  match course.beyond.wanted with
  | some request => playThrough limit play (recorded ++ [← answerWithin limit request])
  | none => return course

def finish (e : Ending) : IO UInt32 := do
  IO.print e.output
  IO.eprint e.errors
  return UInt32.ofNat e.exit

/-! ## §6. Sessions. -/

inductive Happening where
  /-- A line was typed; none when no more can be. -/
  | typed (line : Option String)
  | answered (answer : Timed Answer)
  /-- A save is due. -/
  | due

/-- A session between two happenings. -/
structure Live where
  running : Running Tape
  /-- The answers for the job that comes first. -/
  recorded : List (Timed Answer) := []
  line : Option (Ongoing String) := none
  answer : Option (Ongoing (Timed Answer)) := none
  /-- How much has been printed. -/
  printed : Nat := 0

/-- Prints what is new. -/
def printNew (output : IO.FS.Stream) (live : Live) : IO Live := do
  let text := live.running.system.output
  output.putStr (String.ofList (text.toList.drop live.printed))
  output.flush
  return { live with printed := text.length }

/-- Goes on with a session; `play` says how for given faults. -/
def proceed (live : Live) (play : Faults → Running Tape) : IO Live := do
  let running ← bringAbout live.running.system.stored (·.system.stored) play
  return { live with running }

/-- Does the job that comes first, as far as the answers go. -/
def tryJob (service : Service.CompileService Tape) (p : Preferences) (live : Live) : IO Live := do
  match live.running.system.engine.tasks.head?, live.answer with
  | some job, none =>
    let now ← calendarTime
    let tape : Tape := { recorded := live.recorded }
    let r := { live.running with beyond := tape }
    let play (faults : Faults) := r.settle (equip service p faults) now (· = job)
    match (play {}).beyond.wanted with
    | some request =>
      let answer ← IO.asTask (answerWithin (patience p) request) .dedicated
      return { live with answer := some answer }
    | none =>
      let live ← proceed live play
      return { live with recorded := [] }
  | _, _ => return live

/-- Whether a save is due. -/
def isDue (live : Live) : IO Bool := do
  let now ← elapsedTime
  return live.running.system.engine.guard.timer.any fun timer => timer.due ≤ now

/-- Waits for whatever happens next. -/
partial def awaitNext (live : Live) (line : Ongoing String) : IO (Happening × Live) := do
  if let some answer := live.answer then
    if let some a ← outcome? answer then
      return (.answered (a.getD .never), { live with line := some line, answer := none })
  if ← isDue live then return (.due, { live with line := some line })
  if let some typed ← outcome? line then
    match typed.filter (!·.isEmpty) with
    | some text => return (.typed (some text), { live with line := none })
    | none =>
      if live.running.system.desk.presence = .attending then
        return (.typed none, { live with line := some line })
  pause
  awaitNext live line

/-- Takes in what has happened. -/
def takeIn (service : Service.CompileService Tape) (p : Preferences) (live : Live) :
    Happening → IO Live
  | .typed line => do
    let now ← calendarTime
    let r ← match line.map Terminal.Command.parse with
      | some (.load path) =>
        let stored ← capture live.running.system.stored path
        pure { live.running with system := { live.running.system with stored } }
      | _ => pure live.running
    let live := { live with running := r }
    proceed live fun faults =>
      (match line with
        | some line => r.typeLine line
        | none => r.bring .inputClosed).settle (equip service p faults) now fun _ => false
  | .answered answer => return { live with recorded := live.recorded ++ [answer] }
  | .due => return live

/-- Lets the session's clock catch up. -/
def catchUp (service : Service.CompileService Tape) (p : Preferences) (live : Live) : IO Live := do
  let now ← elapsedTime
  let calendar ← calendarTime
  let passed : Duration := ⟨now.nanoseconds - live.running.clock.nanoseconds⟩
  proceed live fun faults => live.running.wait (equip service p faults) calendar passed

/-- Holds a session until its desk is left. -/
partial def hold (service : Service.CompileService Tape) (p : Preferences) (live : Live) :
    IO UInt32 := do
  let live ← printNew (← IO.getStdout) live
  if live.running.isLeft then
    let _ ← proceed live fun faults => live.running.leave (equip service p faults)
    return 0
  let jobs := live.running.system.engine.tasks.length
  let live ← tryJob service p live
  if live.running.system.engine.tasks.length < jobs then hold service p live
  else
    let line ← match live.line with
      | some line => pure line
      | none => IO.asTask (← IO.getStdin).getLine .dedicated
    let (happening, live) ← awaitNext live line
    let live ← catchUp service p live
    hold service p (← takeIn service p live happening)

/-! ## §7. The program. -/

def run (args : List String) : IO UInt32 := do
  let environment : Settings.Environment :=
    ⟨← IO.getEnv "DOCRENDER_CONFIG", ← IO.getEnv "DOCRENDER_BASE_URL"⟩
  let settingsFile := match Settings.readArgs args environment with
    | .ok line => line.config.getD Settings.usualFile
    | .error _ => Settings.usualFile
  let empty : Tree := { working := names (← IO.currentDir).toString }
  let files ← capture (← capture empty settingsFile) logFile
  match prepare { args, environment, files } with
  | .error e => finish e
  | .ok r =>
    writeBack r.files files
    let p := r.preferences
    let files ← capture r.files (Files.join p.stateDir Storage.documentKey)
    let files ← capture files p.outputDir
    let files ← match r.command with
      | .render path _ => capture files path
      | _ => pure files
    let now ← calendarTime
    let course ← playThrough (patience p) ({ r with files }.proceed tape now) []
    match course with
    | .ended e _ _ => finish e
    | .waiting .. => return 1
    | .session x running errors =>
      IO.eprint errors
      let running := { running with clock := ← elapsedTime }
      let running := running.settle x now fun _ => false
      hold x.service p { running }

end RenderDesk.Main

/-- Runs the program with the arguments behind its name. -/
def main (args : List String) : IO UInt32 := RenderDesk.Main.run args
