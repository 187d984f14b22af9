/-!
# Failures of files

Why a file could not be read or written, and the words in which the system says so.
-/

namespace ScriptLint

/-- The reason why a file or a directory could not be used. -/
inductive FileError where
  | notFound
  | alreadyExists
  | notADirectory
  | isADirectory
  /-- The file does not hold text. -/
  | invalidText
  | linkLoop
  /-- Any other reason, in its own words. -/
  | other (reason : String)
deriving DecidableEq, Repr

namespace FileError

def message : FileError → String
  | notFound => "No such file or directory (os error 2)"
  | alreadyExists => "File exists (os error 17)"
  | notADirectory => "Not a directory (os error 20)"
  | isADirectory => "Is a directory (os error 21)"
  | invalidText => "stream did not contain valid UTF-8"
  | linkLoop => "Too many levels of symbolic links (os error 40)"
  | other reason => reason

end FileError

end ScriptLint
