/-
  RenderDesk.Files.IoError
  ────────────────────────
  How a file operation fails, and the text shown for it.
-/

namespace RenderDesk.Files

/-- Why a file operation failed. -/
inductive IoError where
  | notFound
  | notADirectory
  | isADirectory
  | alreadyExists
  | notEmpty
  | busy
  | nameTooLong
  /-- A path holds the character that ends names in the system's calls. -/
  | nulInName
  /-- A file that was to be read as text is not valid UTF-8. -/
  | notUtf8
  /-- Another of the system's errors, with its number. -/
  | system (code : Nat) (description : String)
  deriving Repr, DecidableEq

namespace IoError

/-- A description followed by the system's number for it. -/
def numbered (description : String) (code : Nat) : String :=
  description ++ " (os error " ++ toString code ++ ")"

def text : IoError → String
  | .notFound => numbered "No such file or directory" 2
  | .notADirectory => numbered "Not a directory" 20
  | .isADirectory => numbered "Is a directory" 21
  | .alreadyExists => numbered "File exists" 17
  | .notEmpty => numbered "Directory not empty" 39
  | .busy => numbered "Device or resource busy" 16
  | .nameTooLong => numbered "File name too long" 36
  | .nulInName => "file name contained an unexpected NUL byte"
  | .notUtf8 => "stream did not contain valid UTF-8"
  | .system code description => numbered description code

end IoError

end RenderDesk.Files
