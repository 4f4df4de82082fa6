/-
  RenderDesk.Settings.File
  ────────────────────────
  Reading the preferences from a settings file: a record in round brackets,
  with a name in front or none, whose fields may be missing and come in any
  order, each of them once.

  In front of the record the file may choose how it is written: with values
  that need no `Some`, or with the record's name.

  Main statement: `Fields.set_twice` — a field that has been set is not set
  again.
-/
import RenderDesk.Settings.Preferences
import RenderDesk.Settings.Token

namespace RenderDesk.Settings

/-! ## §1. Entries. -/

/-- A value as it is written. -/
inductive Entry where
  | text (s : String)
  | number (n : Nat)
  /-- `None`. -/
  | absent
  /-- A number within `Some`. -/
  | present (n : Nat)
  | name (name : String)
  deriving Repr, DecidableEq

/-- The value that one token is. -/
def Entry.ofToken? : Token → Option Entry
  | .text s => some (.text s)
  | .number n => some (.number n)
  | .word "None" => some .absent
  | .word w | .rawWord w => some (.name w)
  | _ => none

def Entry.text? : Entry → Option String
  | .text s => some s
  | _ => none

def Entry.number? : Entry → Option Nat
  | .number n => some n
  | _ => none

def Entry.destination? : Entry → Option LogDestination
  | .name "File" => some .file
  | .name "Terminal" => some .terminal
  | .name "Both" => some .both
  | .name "Off" => some .off
  | _ => none

/-! ## §2. How a file is written. -/

/-- What a file may choose. -/
structure Manner where
  /-- A value that may be missing needs no `Some`. -/
  implicitSome : Bool := false
  /-- The record must have its name. -/
  named : Bool := false
  deriving Repr, DecidableEq, Inhabited

/-- Takes in the name of a choice; two of them make no difference here. -/
def Manner.choose (m : Manner) (name : String) : Option Manner :=
  match name with
  | "implicit_some" => some { m with implicitSome := true }
  | "explicit_struct_names" => some { m with named := true }
  | "unwrap_newtypes" | "unwrap_variant_newtypes" => some m
  | _ => none

def Entry.optional? (m : Manner) : Entry → Option (Option Nat)
  | .absent => some none
  | .present n => some (some n)
  | .number n => if m.implicitSome then some (some n) else none
  | _ => none

/-! ## §3. The fields. -/

/-- The fields that have been set. -/
structure Fields where
  baseUrl : Option String := none
  preferredTemplate : Option String := none
  saveDelayMs : Option Nat := none
  requestTimeoutSecs : Option Nat := none
  renderDeadlineSecs : Option (Option Nat) := none
  stateDir : Option Files.Path := none
  outputDir : Option Files.Path := none
  logDestination : Option LogDestination := none
  deriving Repr, DecidableEq, Inhabited

/-- Puts a value in a place that is free. -/
def put (place value : Option α) : Option (Option α) :=
  match place with
  | some _ => none
  | none => value.map some

/-- Sets a field. -/
def Fields.set (f : Fields) (m : Manner) (name : String) (e : Entry) : Option Fields :=
  match name with
  | "base_url" => do return { f with baseUrl := ← put f.baseUrl e.text? }
  | "preferred_template" => do
    return { f with preferredTemplate := ← put f.preferredTemplate e.text? }
  | "save_delay_ms" => do return { f with saveDelayMs := ← put f.saveDelayMs e.number? }
  | "request_timeout_secs" => do
    return { f with requestTimeoutSecs := ← put f.requestTimeoutSecs e.number? }
  | "render_deadline_secs" => do
    return { f with renderDeadlineSecs := ← put f.renderDeadlineSecs (e.optional? m) }
  | "state_dir" => do return { f with stateDir := ← put f.stateDir e.text? }
  | "output_dir" => do return { f with outputDir := ← put f.outputDir e.text? }
  | "log_destination" => do
    return { f with logDestination := ← put f.logDestination e.destination? }
  | _ => none

/-- The preferences with these fields, and the rest as they are. -/
def Fields.preferences (f : Fields) : Preferences :=
  let p : Preferences := {}
  { baseUrl := f.baseUrl.getD p.baseUrl
    preferredTemplate := f.preferredTemplate.getD p.preferredTemplate
    saveDelayMs := f.saveDelayMs.getD p.saveDelayMs
    requestTimeoutSecs := f.requestTimeoutSecs.getD p.requestTimeoutSecs
    renderDeadlineSecs := f.renderDeadlineSecs.getD p.renderDeadlineSecs
    stateDir := f.stateDir.getD p.stateDir
    outputDir := f.outputDir.getD p.outputDir
    logDestination := f.logDestination.getD p.logDestination }

/-! ## §4. Reading. -/

/-- What may come next in a list that commas separate. -/
inductive Expect where
  /-- A member, but not the end. -/
  | member
  /-- A member or the end. -/
  | memberOrEnd
  /-- A comma or the end. -/
  | commaOrEnd
  deriving Repr, DecidableEq

/-- Reads the choices of a file, behind their opening bracket, and those that
follow; what comes after them begins the record. -/
def readChoices (m : Manner) : Expect → List Token → Option (Manner × List Token)
  | .memberOrEnd, .closeRound :: .closeSquare :: .numberSign :: .exclamation :: .openSquare
      :: .word "enable" :: .openRound :: rest
  | .commaOrEnd, .closeRound :: .closeSquare :: .numberSign :: .exclamation :: .openSquare
      :: .word "enable" :: .openRound :: rest => readChoices m .member rest
  | .memberOrEnd, .closeRound :: .closeSquare :: rest
  | .commaOrEnd, .closeRound :: .closeSquare :: rest => some (m, rest)
  | .commaOrEnd, .comma :: rest => readChoices m .memberOrEnd rest
  | .member, t :: rest | .memberOrEnd, t :: rest => do
    readChoices (← m.choose (← t.name?)) .commaOrEnd rest
  | _, _ => none

/-- Reads how a file is written. -/
def readManner : List Token → Option (Manner × List Token)
  | .numberSign :: .exclamation :: .openSquare :: .word "enable" :: .openRound :: rest =>
    readChoices {} .member rest
  | ts => some ({}, ts)

/-- Reads the fields of a record up to its end, behind which nothing may
stand. -/
def readFields (m : Manner) (f : Fields) : Expect → List Token → Option Fields
  | .commaOrEnd, .comma :: rest => readFields m f .memberOrEnd rest
  | .commaOrEnd, [.closeRound] | .memberOrEnd, [.closeRound] => some f
  | .memberOrEnd, t :: .colon :: .word "Some" :: .openRound :: .number n :: .closeRound :: rest
  | .memberOrEnd, t :: .colon :: .word "Some" :: .openRound :: .number n :: .comma :: .closeRound
      :: rest => do
    readFields m (← f.set m (← t.name?) (.present n)) .commaOrEnd rest
  | .memberOrEnd, t :: .colon :: v :: rest => do
    readFields m (← f.set m (← t.name?) (← Entry.ofToken? v)) .commaOrEnd rest
  | _, _ => none

/-- The name of the record. -/
def recordName : String := "AppConfig"

/-- Reads a record. -/
def readRecord (m : Manner) : List Token → Option Fields
  | .openRound :: rest => if m.named then none else readFields m {} .memberOrEnd rest
  | t :: .openRound :: rest =>
    if t.name? = some recordName then readFields m {} .memberOrEnd rest else none
  | _ => none

/-- Reads the preferences that a file sets. -/
def readPreferences (content : String) : Option Preferences := do
  let ts ← tokens content.toList.length content.toList
  let (manner, ts) ← readManner ts
  return (← readRecord manner ts).preferences

/-! ## §5. Laws. -/

theorem put_twice {place value given : Option α} (h : put place value = some given)
    (other : Option α) : put given other = none := by
  cases place with
  | some _ => cases h
  | none =>
    obtain ⟨a, _, rfl⟩ := Option.map_eq_some_iff.1 h
    rfl

/-- **A field that has been set is not set again**, to whatever value. -/
theorem Fields.set_twice {f f' : Fields} {m : Manner} {name : String} {e : Entry}
    (h : f.set m name e = some f') (other : Entry) : f'.set m name other = none := by
  unfold Fields.set at h
  split at h
  case h_9 => cases h
  all_goals
    obtain ⟨given, hgiven, hf⟩ := Option.bind_eq_some_iff.1 h
    cases hf
    show (put given _).bind _ = none
    rw [put_twice hgiven]
    rfl

end RenderDesk.Settings
