/-!
# File errors

Why a file could not be read or opened, in the words of the system.

## Main definitions

* `FileError` — the reasons, with `FileError.message` for their wording.
-/

namespace Scrollback

/-- Why a file could not be read or opened. -/
inductive FileError where
  /-- There is no such file or directory. -/
  | notFound
  /-- The path leads to a directory. -/
  | isDirectory
  /-- The path goes on below something that is not a directory. -/
  | notADirectory
  /-- Any other reason, in the words of the system. -/
  | other (reason : String)
deriving DecidableEq, Repr

/-- The wording of a file error. -/
def FileError.message : FileError → String
  | .notFound => "No such file or directory (os error 2)"
  | .isDirectory => "Is a directory (os error 21)"
  | .notADirectory => "Not a directory (os error 20)"
  | .other reason => reason

end Scrollback
