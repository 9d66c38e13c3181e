import AudioPlan.Fault
import AudioPlan.File.Path

/-!
# Log records and computations that write them

A record has a level, the name of the part that wrote it, and a message.  `Logged` is a computation
that writes records and may end in a fault; the records written before a fault are kept.  Leaving
the records out gives a plain computation, step by step (`outcome_bind`).
-/

namespace AudioPlan

/-- How serious a record is. -/
inductive Level where
  | debug
  | info
  | warning
  | error
  | critical
  deriving Repr, DecidableEq

namespace Level

/-- Levels as numbers, the more serious the higher. -/
def rank : Level → Nat
  | .debug => 10
  | .info => 20
  | .warning => 30
  | .error => 40
  | .critical => 50

/-- The name of a level in log lines. -/
def name : Level → String
  | .debug => "DEBUG"
  | .info => "INFO"
  | .warning => "WARNING"
  | .error => "ERROR"
  | .critical => "CRITICAL"

end Level

/-- One log record. -/
structure Record where
  logger : String
  level : Level
  message : String
  /-- The file that was being processed, if any. -/
  file : Option String := none
  deriving Repr, DecidableEq

/-- The mark of records about a file: the last name of its path. -/
def fileTag : Option String → String
  | none => ""
  | some path => if path.isEmpty then "" else "[" ++ (Path.ofText path).name ++ "] "

/-- A computation that writes records and may end in a fault. -/
structure Logged (α : Type) where
  records : List Record
  outcome : Except Fault α

namespace Logged

variable {α β : Type}

/-- A result without records. -/
def ofExcept (outcome : Except Fault α) : Logged α := ⟨[], outcome⟩

/-- Goes on with a result, behind the records written so far. -/
def andThen (x : Logged α) (f : α → Logged β) : Logged β :=
  match x.outcome with
  | .ok a => ⟨x.records ++ (f a).records, (f a).outcome⟩
  | .error fault => ⟨x.records, .error fault⟩

instance : Monad Logged where
  pure a := ⟨[], .ok a⟩
  bind := andThen

instance : MonadLift (Except Fault) Logged where
  monadLift := ofExcept

@[simp] theorem outcome_pure (a : α) : (pure a : Logged α).outcome = .ok a := rfl

@[simp] theorem outcome_bind (x : Logged α) (f : α → Logged β) :
    (x >>= f).outcome = x.outcome >>= fun a => (f a).outcome := by
  simp only [bind, andThen, Except.bind]
  split <;> simp_all

@[simp] theorem outcome_ofExcept (x : Except Fault α) : (ofExcept x).outcome = x := rfl

/-- Writes a record. -/
def write (logger : String) (level : Level) (message : String) : Logged Unit :=
  ⟨[{ logger, level, message }], .ok ()⟩

@[simp] theorem outcome_write (logger : String) (level : Level) (message : String) :
    (write logger level message).outcome = .ok () := rfl

/-- Marks every record that is not yet marked with the file being processed. -/
def inFile (file : Option String) (x : Logged α) : Logged α :=
  ⟨x.records.map fun r => { r with file := r.file.or file }, x.outcome⟩

@[simp] theorem outcome_inFile (file : Option String) (x : Logged α) :
    (inFile file x).outcome = x.outcome := rfl

end Logged

end AudioPlan
