import AudioPlan.Fault
import AudioPlan.File.Path

/-!
# Homes

A tilde at the front of a path stands for one's home, a tilde with a name for the home of that user.
-/

namespace AudioPlan

/-- Where the users are at home. -/
structure Homes where
  /-- One's own home. -/
  own : String := "/"
  /-- Users by name, with their homes. -/
  users : List (String × String) := []
  deriving Repr

namespace Homes

/-- The home that a name with its tilde stands for. -/
def find (homes : Homes) (name : String) : Except Fault Path :=
  match name.toList with
  | ['~'] => .ok (Path.ofText homes.own)
  | _ :: user =>
    if '\x00' ∈ user then .error .badValue
    else
      match homes.users.lookup (String.ofList user) with
      | some home => .ok (Path.ofText home)
      | none => .error .unknownUser
  | [] => .error .unknownUser

/-- A path with the home in the place of a tilde in front. -/
def expand (homes : Homes) (p : Path) : Except Fault Path :=
  match p.root, p.names with
  | .here, name :: rest =>
    if name.startsWith "~" then
      (homes.find name).map fun home => { home with names := home.names ++ rest }
    else .ok p
  | _, _ => .ok p

/-- The user of a line in a table of users, whose fields stand between colons, and their home. -/
def ofLine? (line : List Char) : Option (String × String) :=
  match Text.splitOn ':' line with
  | name :: _ :: _ :: _ :: _ :: home :: _ => some (String.ofList name, String.ofList home)
  | _ => none

/-- The homes in a table of users, one user a line. -/
def ofTable (own table : String) : Homes :=
  { own := own, users := (Text.splitOn '\n' table.toList).filterMap ofLine? }

end Homes

end AudioPlan
