/-
  RenderDesk.Settings.Load
  ────────────────────────
  Where the preferences come from: a file that is asked for, else the usual
  file if there is one, else nothing is set.
-/
import RenderDesk.Files.Operations
import RenderDesk.Settings.File
import RenderDesk.Text.Quoted

namespace RenderDesk.Settings

open RenderDesk.Files

/-! ## §1. Failures. -/

inductive LoadError where
  | unreadable (path : Path) (error : IoError)
  | invalid (path : Path)
  deriving Repr, DecidableEq

def LoadError.text : LoadError → String
  | .unreadable path error => "cannot read config " ++ Text.quoted path ++ ": " ++ error.text
  | .invalid path => "invalid config " ++ Text.quoted path ++ ": not a record of settings"

/-! ## §2. Loading. -/

/-- The usual file. -/
def usualFile : Path := "docrender.ron"

/-- Reads the preferences from a file. -/
def loadFrom (t : Tree) (path : Path) : Except LoadError Preferences :=
  match t.readText path with
  | .error e => .error (.unreadable path e)
  | .ok content =>
    match readPreferences content with
    | some p => .ok p
    | none => .error (.invalid path)

/-- The preferences, from the file that is asked for or the usual one. -/
def load (t : Tree) (asked : Option Path) : Except LoadError Preferences :=
  match asked with
  | some path => loadFrom t path
  | none => if t.contains usualFile then loadFrom t usualFile else .ok {}

end RenderDesk.Settings
