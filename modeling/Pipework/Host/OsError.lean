/-! Errors that the operating system reports when a file is opened, created or executed, with the
text it gives for each. -/

namespace Pipework.Host

/-- An operating-system error, by its cause. -/
inductive OsError where
  | noEntry
  | permissionDenied
  | alreadyExists
  | notDirectory
  | isDirectory
  | execFormat
  | badDescriptor
  | noSuchProcess
  | notEmpty
  | invalidArgument
  deriving Repr, DecidableEq, Inhabited

namespace OsError

def code : OsError → Nat
  | .noEntry => 2
  | .permissionDenied => 13
  | .alreadyExists => 17
  | .notDirectory => 20
  | .isDirectory => 21
  | .execFormat => 8
  | .badDescriptor => 9
  | .noSuchProcess => 3
  | .notEmpty => 39
  | .invalidArgument => 22

def description : OsError → String
  | .noEntry => "No such file or directory"
  | .permissionDenied => "Permission denied"
  | .alreadyExists => "File exists"
  | .notDirectory => "Not a directory"
  | .isDirectory => "Is a directory"
  | .execFormat => "Exec format error"
  | .badDescriptor => "Bad file descriptor"
  | .noSuchProcess => "No such process"
  | .notEmpty => "Directory not empty"
  | .invalidArgument => "Invalid argument"

def message (e : OsError) : String :=
  e.description ++ " (os error " ++ toString e.code ++ ")"

end OsError

end Pipework.Host
