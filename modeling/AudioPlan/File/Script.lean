import AudioPlan.File.Disk
import AudioPlan.Value.Basic

/-!
# Scripts

What a command does, step by step.  A step reads or changes files, reads what is given to the
command or writes its two outputs; the script says how to go on with the answer.  Scripts are data,
so the same script is carried out on a scene, a disk with inputs and outputs that is an ordinary
value, or on the files of a machine.

* `Script.run` carries out a script on a scene;
* `run_bind` says that one script after the other does to a scene what both do in turn.
-/

namespace AudioPlan

/-- The two outputs of a command. -/
inductive Channel where
  | results
  | errors
  deriving Repr, DecidableEq

/-- What is known of a place without reading it. -/
inductive FileKind where
  | file (size : Nat)
  | folder
  deriving Repr, DecidableEq

/-- One step of a command. -/
inductive CommandStep where
  | read (p : Path)
  | kind (p : Path)
  | append (p : Path) (bytes : List UInt8)
  | makeFolder (p : Path)
  | move (source target : Path)
  | remove (p : Path)
  /-- Asks for the working folder. -/
  | here
  /-- Reads all that is given to the command. -/
  | input
  | print (channel : Channel) (text : String)
  /-- Asks for the time in seconds since 1970. -/
  | clock
  deriving Repr

/-- The answer to a step. -/
def CommandStep.Answer : CommandStep → Type
  | .read _ => Except FileCause (List UInt8)
  | .kind _ => Except FileCause FileKind
  | .append _ _ | .makeFolder _ | .move _ _ | .remove _ => Except FileCause Unit
  | .here => Path
  | .input => List UInt8
  | .print _ _ => Unit
  | .clock => Value

/-- A computation that takes steps. -/
inductive Script (α : Type) where
  | done (result : α)
  | take (step : CommandStep) (next : step.Answer → Script α)

namespace Script

variable {α β : Type}

/-- One script after another. -/
def andThen : Script α → (α → Script β) → Script β
  | .done a, f => f a
  | .take step next, f => .take step fun answer => (next answer).andThen f

instance : Monad Script where
  pure := .done
  bind := andThen

/-- The bytes of a file. -/
def read (p : Path) : Script (Except FileCause (List UInt8)) := .take (.read p) .done

/-- What is known of a place. -/
def kind (p : Path) : Script (Except FileCause FileKind) := .take (.kind p) .done

/-- Adds bytes to a file, which is made if it is not there. -/
def append (p : Path) (bytes : List UInt8) : Script (Except FileCause Unit) :=
  .take (.append p bytes) .done

/-- Makes a folder. -/
def makeFolder (p : Path) : Script (Except FileCause Unit) := .take (.makeFolder p) .done

/-- Moves a file. -/
def move (source target : Path) : Script (Except FileCause Unit) :=
  .take (.move source target) .done

/-- Removes a file. -/
def remove (p : Path) : Script (Except FileCause Unit) := .take (.remove p) .done

/-- The working folder. -/
def here : Script Path := .take .here .done

/-- All that is given to the command. -/
def input : Script (List UInt8) := .take .input .done

/-- Writes a text. -/
def print (channel : Channel) (text : String) : Script Unit := .take (.print channel text) .done

/-- The time in seconds since 1970. -/
def clock : Script Value := .take .clock .done

/-- Whether something stands where a path leads. -/
def exists? (p : Path) : Script Bool := do
  return (← kind p) matches .ok _

/-- Whether a folder stands where a path leads. -/
def isFolder (p : Path) : Script Bool := do
  return (← kind p) matches .ok .folder

end Script

/-- What a command works on: files, what is given to it, and what it has written. -/
structure Scene where
  disk : Disk
  input : List UInt8 := []
  results : String := ""
  errors : String := ""
  clock : Value := .int 0
  deriving Repr

namespace Scene

/-- What is known of something that is stored. -/
def kindOf : Stored → FileKind
  | .file bytes => .file bytes.length
  | .folder => .folder

/-- A change of the disk that may fail. -/
def change (s : Scene) (disk : Except FileCause Disk) : Except FileCause Unit × Scene :=
  match disk with
  | .ok disk => (.ok (), { s with disk := disk })
  | .error cause => (.error cause, s)

/-- The answer to a step and the scene behind it. -/
def answer (s : Scene) : (step : CommandStep) → step.Answer × Scene
  | .read p => (s.disk.read p, s)
  | .kind p => ((s.disk.kind p).map kindOf, s)
  | .append p bytes => s.change (s.disk.append p bytes)
  | .makeFolder p => s.change (s.disk.makeFolder p)
  | .move source target => s.change (s.disk.move source target)
  | .remove p => s.change (s.disk.remove p)
  | .here => ({ root := .top, names := s.disk.here }, s)
  | .input => (s.input, { s with input := [] })
  | .print .results text => ((), { s with results := s.results ++ text })
  | .print .errors text => ((), { s with errors := s.errors ++ text })
  | .clock => (s.clock, s)

end Scene

/-- Carries out a script on a scene. -/
def Script.run {α : Type} : Script α → Scene → α × Scene
  | .done a, s => (a, s)
  | .take step next, s => (next (s.answer step).1).run (s.answer step).2

@[simp] theorem Script.run_pure {α : Type} (a : α) (s : Scene) :
    (pure a : Script α).run s = (a, s) := rfl

@[simp] theorem Script.run_bind {α β : Type} (x : Script α) (f : α → Script β) (s : Scene) :
    (x >>= f).run s = (f (x.run s).1).run (x.run s).2 := by
  show (x.andThen f).run s = _
  induction x generalizing s with
  | done a => rfl
  | take step next ih => exact ih _ _

end AudioPlan
