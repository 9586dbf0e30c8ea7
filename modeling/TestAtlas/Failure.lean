import TestAtlas.Files.Error
import TestAtlas.Pdb.Error

/-!
Why a part of a search did not come to its end.
-/

namespace TestAtlas

inductive Failure where
  | database (error : Pdb.Error)
  | file (error : FileError) (path : String)
  /-- Something else, by the name of its kind and its text. -/
  | other (kind text : String)
  deriving DecidableEq, Repr

namespace Failure

/-- The kind under which the failure is reported. -/
def kind : Failure → String
  | database error =>
      if error.isTruncation then "EOFError"
      else if error.isUnreachable then "ValueError"
      else "testlocator.errors.PdbFormatError"
  | file error _ =>
      match error with
      | .missing => "FileNotFoundError"
      | .denied => "PermissionError"
      | .notDirectory => "NotADirectoryError"
      | .isDirectory => "IsADirectoryError"
      | .nameTooLong => "OSError"
      | .nullInPath => "ValueError"
  | other kind _ => kind

def message : Failure → String
  | database error => error.message
  | file error path => error.message path
  | other _ text => text

/-- The kind and the message, if there is one, on a line below a heading. -/
def report (failure : Failure) : String :=
  let line := if failure.message.isEmpty then failure.kind
    else failure.kind ++ ": " ++ failure.message
  "Traceback (most recent call last):\n" ++ line ++ "\n"

end Failure
end TestAtlas
