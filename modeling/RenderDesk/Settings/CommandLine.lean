/-
  RenderDesk.Settings.CommandLine
  ───────────────────────────────
  Reading the arguments of the program.

  Options stand in front of the subcommand; `render` has a path and an option
  of its own.  An option's value is attached with an equals sign or is the
  next argument, unless that looks like an option.  Behind two hyphens
  nothing is an option.  A value is looked at only when the next option, the
  next path or the end comes, so that an unknown option in between is
  reported first.

  Main statement: `settle_twice` — no option may be given twice.
-/
import RenderDesk.Files.Tree
import RenderDesk.Settings.Preferences
import RenderDesk.Text.Cut
import RenderDesk.Text.Digits

namespace RenderDesk.Settings

/-! ## §1. What arguments say. -/

inductive Subcommand where
  | session
  /-- Renders a file, with a template of its own if one is given. -/
  | render (path : Files.Path) (template : Option String)
  | templates
  deriving Repr, DecidableEq

structure CommandLine where
  config : Option Files.Path := none
  baseUrl : Option String := none
  renderDeadline : Option Nat := none
  log : Option LogDestination := none
  command : Option Subcommand := none
  deriving Repr, DecidableEq, Inhabited

/-- Why arguments are not carried out: a mistake, or a wish for help. -/
inductive UsageError where
  | unknownArgument
  | invalidValue
  | valueValidation
  | invalidSubcommand
  | missingArgument
  | argumentConflict
  | tooManyValues
  | help
  | version
  deriving Repr, DecidableEq

/-! ## §2. Options. -/

/-- Where arguments are read: before the subcommand or behind it. -/
inductive Level where
  | program
  | render
  /-- A subcommand without arguments. -/
  | plain
  deriving Repr, DecidableEq

inductive Opt where
  | config
  | baseUrl
  | renderDeadline
  | log
  | template
  deriving Repr, DecidableEq

/-- What a long name asks for. -/
inductive LongName where
  | option (o : Opt)
  | help
  | version
  deriving Repr, DecidableEq

def longName? (level : Level) (name : String) : Option LongName :=
  match level, name with
  | _, "help" => some .help
  | .program, "version" => some .version
  | .program, "config" => some (.option .config)
  | .program, "base-url" => some (.option .baseUrl)
  | .program, "render-deadline" => some (.option .renderDeadline)
  | .program, "log" => some (.option .log)
  | .render, "template" => some (.option .template)
  | _, _ => none

/-- What has been read at a level. -/
structure Draft where
  line : CommandLine := {}
  template : Option String := none
  path : Option Files.Path := none
  deriving Repr, DecidableEq, Inhabited

/-! ## §3. Values. -/

/-- The largest number that can be given. -/
def wordLimit : Nat := UInt64.size

/-- A number in digits, with a plus sign or none. -/
def readNumber (text : String) : Option Nat :=
  let digits := match text.toList with
    | '+' :: rest => rest
    | cs => cs
  if digits.isEmpty then none else (Text.digitsValue? 10 digits).filter (· < wordLimit)

def readDestination (text : String) : Option LogDestination :=
  match text with
  | "file" => some .file
  | "terminal" => some .terminal
  | "both" => some .both
  | "off" => some .off
  | _ => none

/-- Puts a value in a place that is free. -/
def setOnce (place : Option α) (value : Except UsageError α) : Except UsageError (Option α) :=
  match place with
  | some _ => .error .argumentConflict
  | none => value.map some

/-- A path that is not empty. -/
def readPathValue (text : String) : Except UsageError Files.Path :=
  if text.isEmpty then .error .invalidValue else .ok text

/-- Takes in the value of an option. -/
def Draft.set (d : Draft) (value : String) : Opt → Except UsageError Draft
  | .config => do
    let config ← setOnce d.line.config (readPathValue value)
    return { d with line := { d.line with config } }
  | .baseUrl => do
    let baseUrl ← setOnce d.line.baseUrl (.ok value)
    return { d with line := { d.line with baseUrl } }
  | .renderDeadline => do
    let number := match readNumber value with
      | some n => .ok n
      | none => .error .valueValidation
    let renderDeadline ← setOnce d.line.renderDeadline number
    return { d with line := { d.line with renderDeadline } }
  | .log => do
    let destination := match readDestination value with
      | some destination => .ok destination
      | none => .error .invalidValue
    let log ← setOnce d.line.log destination
    return { d with line := { d.line with log } }
  | .template => do
    let template ← setOnce d.template (.ok value)
    return { d with template }

/-! ## §4. Values that wait. -/

/-- What has been read but not looked at yet. -/
inductive Pending where
  | nothing
  /-- An option, with its value if that has come. -/
  | option (o : Opt) (value : Option String)
  | path (value : String)
  deriving Repr, DecidableEq

/-- Whether an option waits for its value. -/
def Pending.wantsValue : Pending → Option Opt
  | .option o none => some o
  | _ => none

/-- Looks at what waits. -/
def Draft.settle (d : Draft) : Pending → Except UsageError Draft
  | .nothing => .ok d
  | .option _ none => .error .invalidValue
  | .option o (some value) => d.set value o
  | .path value => do
    let path ← readPathValue value
    return { d with path := some path }

/-! ## §5. Arguments. -/

/-- How an argument looks. -/
inductive Look where
  /-- Two hyphens alone. -/
  | escape
  | long (name : String) (value : Option String)
  | short (letter : Char)
  | word
  deriving Repr, DecidableEq

def lookOf (arg : String) : Look :=
  match arg.toList with
  | ['-', '-'] => .escape
  | '-' :: '-' :: rest =>
    match Text.cutAt '=' rest with
    | some (name, value) => .long (String.ofList name) (some (String.ofList value))
    | none => .long (String.ofList rest) none
  | '-' :: letter :: _ => .short letter
  | _ => .word

def subcommandNames : List String := ["session", "render", "templates", "help"]

/-- How far the reading of a level has come. -/
structure Reading where
  draft : Draft := {}
  pending : Pending := .nothing
  /-- Whether two hyphens have come. -/
  escaped : Bool := false
  /-- Whether a path has come. -/
  hasPath : Bool := false
  deriving Repr, DecidableEq, Inhabited

def Reading.settled (r : Reading) : Except UsageError Reading := do
  return { r with draft := ← r.draft.settle r.pending, pending := .nothing }

/-- The error of a word that has no place. -/
def strayWord (level : Level) (escaped : Bool) (arg : String) : UsageError :=
  if level = .program && !(escaped && subcommandNames.contains arg) then .invalidSubcommand
  else .unknownArgument

/-- Takes in a word that is no value of an option. -/
def Reading.word (r : Reading) (level : Level) (arg : String) : Except UsageError Reading :=
  if level = .render && !r.hasPath then do
    let r ← r.settled
    return { r with pending := .path arg, hasPath := true }
  else .error (strayWord level r.escaped arg)

/-- Takes in a long option. -/
def Reading.long (r : Reading) (level : Level) (name : String) (value : Option String) :
    Except UsageError Reading :=
  match longName? level name, value with
  | none, _ => .error .unknownArgument
  | some (.option o), some value => do
    let r ← r.settled
    return { r with draft := ← r.draft.set value o }
  | some (.option o), none => do
    let r ← r.settled
    return { r with pending := .option o none }
  | some _, some _ => .error .tooManyValues
  | some .help, none => do
    let _ ← r.settled
    .error .help
  | some .version, none => do
    let _ ← r.settled
    .error .version

/-- Takes in a short option. -/
def Reading.short (r : Reading) (level : Level) (letter : Char) : Except UsageError Reading := do
  if letter = 'h' then
    let _ ← r.settled
    .error .help
  else if letter = 'V' && level = .program then
    let _ ← r.settled
    .error .version
  else .error .unknownArgument

/-- Takes in one argument. -/
def Reading.take (r : Reading) (level : Level) (arg : String) : Except UsageError Reading :=
  if r.escaped then r.word level arg
  else
    match lookOf arg with
    | .escape => .ok { r with escaped := true }
    | .long name value => r.long level name value
    | .short letter => r.short level letter
    | .word =>
      match r.pending.wantsValue with
      | some o => .ok { r with pending := .option o (some arg) }
      | none => r.word level arg

/-! ## §6. Subcommands. -/

/-- Reads the arguments of a subcommand. -/
def readLevel (level : Level) (r : Reading) : List String → Except UsageError Draft
  | [] => r.draft.settle r.pending
  | arg :: rest => do readLevel level (← r.take level arg) rest

/-- What `help` shows: the program, or a subcommand that is named. -/
def readHelp : List String → UsageError
  | [] => .help
  | [name] | ["help", name] => if subcommandNames.contains name then .help else .invalidSubcommand
  | _ => .invalidSubcommand

def readSubcommand (name : String) (args : List String) : Except UsageError Subcommand :=
  match name with
  | "session" => do
    let _ ← readLevel .plain {} args
    return .session
  | "templates" => do
    let _ ← readLevel .plain {} args
    return .templates
  | "render" => do
    let d ← readLevel .render {} args
    match d.path with
    | some path => return .render path d.template
    | none => .error .missingArgument
  | _ => .error (readHelp args)

/-- Reads the arguments before the subcommand, and the subcommand. -/
def readProgram (r : Reading) : List String → Except UsageError CommandLine
  | [] => do return (← r.draft.settle r.pending).line
  | arg :: rest =>
    if !r.escaped && r.pending.wantsValue.isNone && subcommandNames.contains arg then do
      let command ← readSubcommand arg rest
      let d ← r.draft.settle r.pending
      return { d.line with command := some command }
    else do readProgram (← r.take .program arg) rest

/-! ## §7. The environment. -/

/-- The variables of the environment that are read. -/
structure Environment where
  config : Option String := none
  baseUrl : Option String := none
  deriving Repr, DecidableEq, Inhabited

/-- Takes values from the environment where no option is given. -/
def CommandLine.withEnvironment (c : CommandLine) (e : Environment) :
    Except UsageError CommandLine := do
  let config ← match c.config, e.config with
    | none, some path => some <$> readPathValue path
    | given, _ => pure given
  return { c with config, baseUrl := c.baseUrl <|> e.baseUrl }

/-- Reads the arguments behind the program's name. -/
def readArgs (args : List String) (e : Environment) : Except UsageError CommandLine := do
  (← readProgram {} args).withEnvironment e

/-- The preferences with what the arguments say in their place. -/
def Preferences.override (p : Preferences) (c : CommandLine) : Preferences :=
  { p with
    baseUrl := c.baseUrl.getD p.baseUrl
    renderDeadlineSecs := c.renderDeadline <|> p.renderDeadlineSecs
    logDestination := c.log.getD p.logDestination }

/-! ## §8. Laws. -/

theorem setOnce_ok {place given : Option α} {value : Except UsageError α}
    (h : setOnce place value = .ok given) (other : Except UsageError α) :
    setOnce given other = .error .argumentConflict := by
  cases place with
  | some _ => cases h
  | none =>
    cases value with
    | error e => cases h
    | ok a =>
      cases h
      rfl

/-- An option that has been set is not set again, to whatever value. -/
theorem Draft.set_twice {d d' : Draft} {o : Opt} {value : String} (h : d.set value o = .ok d')
    (other : String) : d'.set other o = .error .argumentConflict := by
  cases o
  all_goals
    unfold Draft.set at h
    obtain ⟨given, hgiven, hd⟩ := Files.Tree.bind_eq_ok h
    cases hd
    show setOnce given _ >>= _ = _
    rw [setOnce_ok hgiven]
    rfl

/-- **No option may be given twice.** -/
theorem settle_twice {d d' : Draft} {o : Opt} {value : Option String}
    (h : d.settle (.option o value) = .ok d') (other : String) :
    d'.settle (.option o (some other)) = .error .argumentConflict := by
  cases value with
  | none => cases h
  | some value => exact Draft.set_twice h other

end RenderDesk.Settings
