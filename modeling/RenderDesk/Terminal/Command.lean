/-
  RenderDesk.Terminal.Command
  ───────────────────────────
  Reading a typed line: text for the document, or a command.

  A line that begins with a colon is a command; two colons begin a line of
  text that begins with one.

  Main statement: `parseChars_escape` — every line of text can be typed, by
  doubling its leading colon.
-/
import RenderDesk.Text.Blank
import RenderDesk.Text.Cut

namespace RenderDesk.Terminal

open RenderDesk.Text

/-! ## §1. Commands. -/

/-- What a typed line asks for. -/
inductive Command where
  /-- Adds a line to the document. -/
  | append (line : String)
  | render
  | source
  | templates
  | useTemplate (name : String)
  | clearLog
  | saveArtifact
  | status
  /-- Replaces the document with a file's content. -/
  | load (path : String)
  /-- Replaces the document with the example. -/
  | reset
  /-- Drops the last line of the document. -/
  | pop
  | help
  | quit
  | unknown (line : String)
  deriving Repr, DecidableEq

/-- The text shown for `:help` and at the start. -/
def helpText : String :=
  "Type text to append it to the document. Commands:\n" ++
  "  :render            compile the document to PDF\n" ++
  "  :source            fetch the intermediate source for inspection\n" ++
  "  :templates         list templates\n" ++
  "  :template NAME     select a template\n" ++
  "  :clear-log         clear the log\n" ++
  "  :export            save the current PDF into the output directory\n" ++
  "  :show              print the document and session status\n" ++
  "  :load PATH         replace the document with a file's content\n" ++
  "  :pop               delete the last line\n" ++
  "  :reset             replace the document with the example\n" ++
  "  :help              this text\n" ++
  "  :quit              save and exit\n" ++
  "Start a line with '::' to append a line beginning with ':'."

/-! ## §2. Reading a line. -/

/-- Whether a character ends a typed line. -/
def isLineEnd (c : Char) : Bool := c == '\r' || c == '\n'

/-- The name and the trimmed argument of what follows the colon. -/
def nameAndArgument (cs : List Char) : List Char × List Char :=
  match cut isBlank cs with
  | some (name, argument) => (name, trim argument)
  | none => (trim cs, [])

/-- The command with a name and an argument, if there is one. -/
def named? (name argument : String) : Option Command :=
  match name, argument with
  | "render", "" | "r", "" => some .render
  | "source", "" => some .source
  | "templates", "" => some .templates
  | "template", "" => none
  | "template", argument => some (.useTemplate argument)
  | "clear-log", "" => some .clearLog
  | "export", "" => some .saveArtifact
  | "show", "" => some .status
  | "load", "" => none
  | "load", argument => some (.load argument)
  | "reset", "" => some .reset
  | "pop", "" => some .pop
  | "help", "" | "h", "" => some .help
  | "quit", "" | "q", "" => some .quit
  | _, _ => none

/-- Reads a line without its line end. -/
def parseChars (line : List Char) : Command :=
  match line with
  | ':' :: ':' :: rest => .append (String.ofList (':' :: rest))
  | ':' :: rest =>
    let (name, argument) := nameAndArgument rest
    (named? (String.ofList name) (String.ofList argument)).getD (.unknown (String.ofList line))
  | _ => .append (String.ofList line)

/-- Reads a typed line. -/
def Command.parse (line : String) : Command :=
  parseChars (dropEndWhile isLineEnd line.toList)

/-! ## §3. Typing text. -/

/-- How a line of text is typed: a leading colon is doubled. -/
def escape : List Char → List Char
  | ':' :: rest => ':' :: ':' :: rest
  | line => line

theorem parseChars_escape (line : List Char) :
    parseChars (escape line) = .append (String.ofList line) := by
  unfold escape
  split
  · rfl
  · next h =>
    unfold parseChars
    split
    · next rest => exact absurd rfl (h _)
    · next rest _ => exact absurd rfl (h _)
    · rfl

end RenderDesk.Terminal
