import AudioPlan.File.Path
import AudioPlan.Text.Quoted

/-!
# Failures of file operations

Why an operation on a file fails, with the path it was asked for.
-/

namespace AudioPlan

/-- The cause for which an operation on a file fails. -/
inductive FileCause where
  | missing
  | denied
  | exists
  | notFolder
  | isFolder
  | nameTooLong
  /-- The path holds a null character, which no name can. -/
  | nullCharacter
  /-- Another cause, with its number and wording. -/
  | other (number : Nat) (wording : String)
  deriving Repr, DecidableEq

namespace FileCause

/-- The number of a cause. -/
def number : FileCause → Nat
  | .missing => 2
  | .denied => 13
  | .exists => 17
  | .notFolder => 20
  | .isFolder => 21
  | .nameTooLong => 36
  | .nullCharacter => 22
  | .other number _ => number

/-- The wording of a cause. -/
def wording : FileCause → String
  | .missing => "No such file or directory"
  | .denied => "Permission denied"
  | .exists => "File exists"
  | .notFolder => "Not a directory"
  | .isFolder => "Is a directory"
  | .nameTooLong => "File name too long"
  | .nullCharacter => "embedded null byte"
  | .other _ wording => wording

/-- The causes with a name of their own. -/
def named : List FileCause :=
  [.missing, .denied, .exists, .notFolder, .isFolder, .nameTooLong]

/-- The cause with a number, which another wording may come with. -/
def ofNumber (number : Nat) (wording : String) : FileCause :=
  (named.find? fun cause => cause.number == number).getD (.other number wording)

end FileCause

/-- The failure of an operation on a file. -/
structure FileFailure where
  cause : FileCause
  /-- The path as the operation was given it. -/
  path : String
  deriving Repr, DecidableEq

/-- The wording of a failure. -/
def FileFailure.message (f : FileFailure) : String :=
  s!"[Errno {f.cause.number}] {f.cause.wording}: {Text.quoted f.path}"

end AudioPlan
