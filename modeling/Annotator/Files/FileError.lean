/-! File errors are the reasons for which a file cannot be read or written. -/

namespace Annotator

/-- Why a file cannot be read or written. -/
inductive FileError
  /-- Nothing has the name. -/
  | notFound
  /-- A name on the way is not that of a directory. -/
  | notDirectory
  /-- The name is that of a directory. -/
  | isDirectory
  /-- The name is taken. -/
  | taken
  /-- A name or the whole path is longer than the system admits. -/
  | nameTooLong
  /-- Another reason, in the words of the system. -/
  | other (reason : String)
  deriving DecidableEq, Repr

namespace FileError

/-- The wording of a file error. -/
def message : FileError → String
  -- The number of the error follows its description.
  | .notFound => "No such file or directory (os error 2)"
  | .notDirectory => "Not a directory (os error 20)"
  | .isDirectory => "Is a directory (os error 21)"
  | .taken => "File exists (os error 17)"
  | .nameTooLong => "File name too long (os error 36)"
  | .other reason => reason

/-- The file error that a system reports by number and description. -/
def ofNumber (number : Nat) (description : String) : FileError :=
  -- Numbers without a meaning of their own are shown with their description.
  match number with
  | 2 => .notFound
  | 17 => .taken
  | 20 => .notDirectory
  | 21 => .isDirectory
  | 36 => .nameTooLong
  | _ => .other (description ++ " (os error " ++ toString number ++ ")")

end FileError

end Annotator
