import TestAtlas.Text.Quoted

/-!
Why a file or a directory cannot be used.
-/

namespace TestAtlas

inductive FileError where
  | missing
  | denied
  | notDirectory
  | isDirectory
  | nameTooLong
  /-- The path holds a null character, so it cannot name anything. -/
  | nullInPath
  deriving DecidableEq, Repr

namespace FileError

/-- The number that the operating system gives the error, if it has seen the path at all. -/
def number? : FileError → Option Nat
  | missing => some 2
  | denied => some 13
  | notDirectory => some 20
  | isDirectory => some 21
  | nameTooLong => some 36
  | nullInPath => none

/-- The error with a number. -/
def ofNumber? : Nat → Option FileError
  | 2 => some missing
  | 13 => some denied
  | 20 => some notDirectory
  | 21 => some isDirectory
  | 36 => some nameTooLong
  | _ => none

theorem ofNumber?_number? (error : FileError) (n : Nat) (h : error.number? = some n) :
    ofNumber? n = some error := by
  cases error <;> cases h <;> rfl

def reason : FileError → String
  | missing => "No such file or directory"
  | denied => "Permission denied"
  | notDirectory => "Not a directory"
  | isDirectory => "Is a directory"
  | nameTooLong => "File name too long"
  | nullInPath => "embedded null byte"

def message (error : FileError) (path : String) : String :=
  match error.number? with
  | some n => s!"[Errno {n}] {error.reason}: {Quoted.quote path}"
  | none => error.reason

end FileError
end TestAtlas
