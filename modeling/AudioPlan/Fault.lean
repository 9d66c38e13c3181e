/-!
# Faults

What can go wrong when an operation meets a value that it was not made for.  A fault carries no
text: only its cause is reported.
-/

namespace AudioPlan

/-- The cause for which an operation cannot go on. -/
inductive Fault where
  /-- A value is of a kind that the operation does not take. -/
  | wrongKind
  /-- A value has no such part. -/
  | noSuchPart
  /-- A number is beyond what can be represented. -/
  | outOfRange
  /-- A value is of the right kind and makes no sense. -/
  | badValue
  /-- A key is not in a table. -/
  | missingKey
  /-- A position is beyond the end of a list. -/
  | missingItem
  /-- A path names a user that is not known. -/
  | unknownUser
  /-- Bytes are no text. -/
  | notUtf8
  /-- The system that the program runs on cannot do it. -/
  | beyondSystem
  /-- A title pattern is no regular expression. -/
  | badPattern
  deriving Repr, DecidableEq

end AudioPlan
