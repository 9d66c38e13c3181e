import AudioPlan.File.Failure
import AudioPlan.Text.Utf8

/-!
# Files and folders

A disk says for every place, a list of names from the top on, what stands there: nothing, a folder
or a file with its bytes.  The top is always a folder.  A path is followed step by step from the top
or from the working folder; two dots lead to the folder that holds the present one.

* `find` says where a path leads, `kind` what stands there;
* `read`, `append`, `makeFolder`, `move` and `remove` are the operations.
-/

namespace AudioPlan

/-- A place on a disk. -/
abbrev Place := List String

/-- What can stand at a place. -/
inductive Stored where
  | file (bytes : List UInt8)
  | folder
  deriving Repr, DecidableEq, Inhabited

/-- Files and folders by place, with the folder that relative paths start from. -/
structure Disk where
  stored : List (Place × Stored)
  here : Place
  deriving Repr

namespace Disk

/-- What stands at a place. -/
def at? (d : Disk) (place : Place) : Option Stored :=
  if place.isEmpty then some .folder else d.stored.lookup place

/-- The disk with something at a place. -/
def set (d : Disk) (place : Place) (what : Stored) : Disk :=
  { d with stored := (place, what) :: d.stored.filter fun (p, _) => p != place }

/-- The disk with nothing at a place. -/
def clear (d : Disk) (place : Place) : Disk :=
  { d with stored := d.stored.filter fun (p, _) => p != place }

/-- The greatest length of a name in bytes. -/
def longestName : Nat := 255

/-- One step from a place. -/
def step (d : Disk) (place : Place) (name : String) : Except FileCause Place :=
  match d.at? place with
  | none => .error .missing
  | some (.file _) => .error .notFolder
  | some .folder =>
    if name = ".." then .ok place.dropLast
    else if longestName < name.utf8ByteSize then .error .nameTooLong
    else .ok (place ++ [name])

/-- The greatest length of a path in bytes. -/
def longestPath : Nat := 4095

/-- Where a path leads. -/
def find (d : Disk) (p : Path) : Except FileCause Place :=
  if p.text.contains '\x00' then .error .nullCharacter
  else if longestPath < p.text.utf8ByteSize then .error .nameTooLong
  else p.names.foldlM d.step (if p.isAbsolute then [] else d.here)

/-- What stands where a path leads. -/
def kind (d : Disk) (p : Path) : Except FileCause Stored := do
  match d.at? (← d.find p) with
  | some what => return what
  | none => throw .missing

/-- The bytes of a file. -/
def read (d : Disk) (p : Path) : Except FileCause (List UInt8) := do
  match ← d.kind p with
  | .file bytes => return bytes
  | .folder => throw .isFolder

/-- Adds bytes to the end of a file, which is made if it is not there. -/
def append (d : Disk) (p : Path) (bytes : List UInt8) : Except FileCause Disk := do
  let place ← d.find p
  match d.at? place with
  | some (.file present) => return d.set place (.file (present ++ bytes))
  | some .folder => throw .isFolder
  | none => return d.set place (.file bytes)

/-- Makes a folder. -/
def makeFolder (d : Disk) (p : Path) : Except FileCause Disk := do
  let place ← d.find p
  match d.at? place with
  | some _ => throw .exists
  | none => return d.set place .folder

/-- Removes a file. -/
def remove (d : Disk) (p : Path) : Except FileCause Disk := do
  let place ← d.find p
  match d.at? place with
  | some (.file _) => return d.clear place
  | some .folder => throw .isFolder
  | none => throw .missing

/-- Moves a file to another place, over a file that may be there. -/
def move (d : Disk) (source target : Path) : Except FileCause Disk := do
  let bytes ← d.read source
  let place ← d.find source
  let goal ← d.find target
  match d.at? goal with
  | some .folder => throw .isFolder
  | _ => return (d.clear place).set goal (.file bytes)

end Disk

end AudioPlan
