/-
  RenderDesk.Files.Operations
  ───────────────────────────
  What programs do with files: look, read, make directories, create, write,
  rename and remove.

  A directory is made with the directories above it: first directly, and if
  there is nothing to make it in, after the one above it.  Renaming puts a
  file in the place of another in one step.
-/
import RenderDesk.Files.Tree
import RenderDesk.Text.Utf8

namespace RenderDesk.Files.Tree

/-! ## §1. Looking and reading. -/

/-- Whether a path names something. -/
def contains (t : Tree) (path : Path) : Bool := (t.lookup path).toBool

/-- Whether a path names a directory. -/
def hasDirectory (t : Tree) (path : Path) : Bool :=
  match t.lookup path with
  | .ok (_, .directory) => true
  | _ => false

def readBytes (t : Tree) (path : Path) : Except IoError ByteArray := do
  match ← t.lookup path with
  | (_, .file content) => return content
  | (_, .directory) => .error .isADirectory

def readText (t : Tree) (path : Path) : Except IoError String := do
  match Text.Utf8.decode? (← t.readBytes path) with
  | some text => return text
  | none => .error .notUtf8

/-! ## §2. Directories. -/

/-- Makes one directory in a directory that is there. -/
def makeDirectory (t : Tree) (path : Path) : Except IoError Tree := do
  let (dir, last) ← t.parentOf path
  match last with
  | .special => .error .alreadyExists
  | .plain name =>
    match ← t.slot dir name with
    | (_, some _) => .error .alreadyExists
    | (place, none) => return t.put place .directory

/-- Directories that cannot be made though the tree has room for them, and
why. -/
abbrev Refusals := List (Path × IoError)

/-- Makes one directory, unless it is refused. -/
def makeAllowed (t : Tree) (refused : Refusals) (path : Path) : Except IoError Tree :=
  match refused.lookup path with
  | some e => .error e
  | none => t.makeDirectory path

/-- Makes a directory after `above` has been called for when there was nothing
to make it in; a directory that is there already is as good. -/
def makeAfter (t : Tree) (refused : Refusals) (path : Path)
    (above : Unit → Except IoError Unit × Tree) : Except IoError Unit × Tree :=
  match t.makeAllowed refused path with
  | .ok t => (.ok (), t)
  | .error .notFound =>
    match above () with
    | (.error e, t) => (.error e, t)
    | (.ok (), t) =>
      match t.makeAllowed refused path with
      | .ok t => (.ok (), t)
      | .error e => (if t.hasDirectory path then .ok () else .error e, t)
  | .error e => (if t.hasDirectory path then .ok () else .error e, t)

/-- Makes a directory whose ancestors are given, the nearest first. -/
def makeUnder (t : Tree) (refused : Refusals) (path : Path) :
    List Path → Except IoError Unit × Tree
  | [] => t.makeAfter refused path fun _ => (.error .notFound, t)
  | parent :: above =>
    t.makeAfter refused path fun _ =>
      if parent.isEmpty then (.ok (), t) else t.makeUnder refused parent above

/-- Makes a directory and those above it that are missing. -/
def makeDirectories (t : Tree) (path : Path) (refused : Refusals := []) :
    Except IoError Unit × Tree :=
  if path.isEmpty then (.ok (), t) else t.makeUnder refused path (ancestors path)

/-! ## §3. Files. -/

/-- Creates an empty file where nothing is yet. -/
def createNew (t : Tree) (path : Path) : Except IoError (Location × Tree) := do
  let (dir, last) ← t.parentOf path
  match last with
  | .special => .error .alreadyExists
  | .plain name =>
    match ← t.slot dir name with
    | (_, some _) => .error .alreadyExists
    | (place, none) =>
      if endsInSlash path then .error .isADirectory
      else return (place, t.put place (.file .empty))

/-- Writes a file, created or emptied before. -/
def overwrite (t : Tree) (path : Path) (content : ByteArray) : Except IoError Tree := do
  let (dir, last) ← t.parentOf path
  match last with
  | .special => .error .isADirectory
  | .plain name =>
    if endsInSlash path then .error .isADirectory
    else
      match ← t.slot dir name with
      | (_, some .directory) => .error .isADirectory
      | (place, _) => return t.put place (.file content)

/-- Moves a file, given by its place, to a path; a file there is replaced. -/
def rename (t : Tree) (source : Location) (content : ByteArray) (path : Path) :
    Except IoError Tree := do
  let (dir, last) ← t.parentOf path
  match last with
  | .special => .error .busy
  | .plain name =>
    let (place, target) ← t.slot dir name
    if endsInSlash path then .error .notADirectory
    else if place.isPrefixOf source && place ≠ source then .error .notEmpty
    else if target = some .directory then .error .isADirectory
    else return (t.erase source).put place (.file content)

end RenderDesk.Files.Tree
