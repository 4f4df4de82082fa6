/-
  RenderDesk.Files.Path
  ─────────────────────
  Paths as they are written: names between slashes.

  Main statement: `join_of_relative` — a plain name joined to a directory
  stands behind it and one slash.
-/
import RenderDesk.Text.Cut

namespace RenderDesk.Files

/-- A path as it is written. -/
abbrev Path := String

/-! ## §1. The parts of a path. -/

/-- The names in a path; slashes at an end or in a row count once. -/
def names (path : Path) : List String :=
  ((Text.parts '/' path.toList).filter (· ≠ [])).map String.ofList

def isAbsolute (path : Path) : Bool := path.toList.head? == some '/'

def endsInSlash (path : Path) : Bool := path.toList.getLast? == some '/'

/-! ## §2. Putting paths together. -/

/-- A path seen from a directory. -/
def join (dir path : Path) : Path :=
  if isAbsolute path || dir.isEmpty then path
  else if endsInSlash dir then dir ++ path
  else dir ++ "/" ++ path

/-- A path from its start and its names. -/
def assemble (absolute : Bool) (names : List String) : Path :=
  (if absolute then "/" else "") ++ "/".intercalate names

/-- The names that matter for what a path contains: a dot counts only at the
start of a relative path. -/
def properNames (absolute : Bool) : List String → List String
  | [] => []
  | name :: rest =>
    let rest := rest.filter (· ≠ ".")
    if name = "." && absolute then rest else name :: rest

/-- The lists that remain of a list when names are taken off its end, the
longest first. -/
def initsDown : List String → List (List String)
  | [] => []
  | name :: rest => (initsDown rest).map (name :: ·) ++ [[]]

/-- The directories that contain a path, the nearest first. -/
def ancestors (path : Path) : List Path :=
  let absolute := isAbsolute path
  (initsDown (properNames absolute (names path))).map (assemble absolute)

/-! ## §3. Laws. -/

theorem join_of_relative {dir path : Path} (hp : isAbsolute path = false)
    (hd : dir.isEmpty = false) (hs : endsInSlash dir = false) :
    join dir path = dir ++ "/" ++ path := by
  simp [join, hp, hd, hs]

end RenderDesk.Files
