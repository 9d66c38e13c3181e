import AudioPlan.Text.Replace

/-!
# Paths

A path is a root and the names that lead on from it.  Reading a text as a path drops empty names and
single dots, so a path has one printed form for each way of getting somewhere; double dots stay,
because the step that they undo may be a link.
-/

namespace AudioPlan

/-- Where a path starts. -/
inductive PathRoot where
  /-- Wherever one is. -/
  | here
  | top
  /-- Two slashes, which some systems tell apart from one. -/
  | doubleTop
  deriving Repr, DecidableEq, Inhabited

/-- The printed form of a root. -/
def PathRoot.text : PathRoot → String
  | .here => ""
  | .top => "/"
  | .doubleTop => "//"

/-- A path. -/
structure Path where
  root : PathRoot
  names : List String
  deriving Repr, DecidableEq, Inhabited

namespace Path

/-- The root that leading slashes denote. -/
def rootOf : List Char → PathRoot
  | ['/', '/'] => .doubleTop
  | '/' :: '/' :: c :: _ => if c = '/' then .top else .doubleTop
  | '/' :: _ => .top
  | _ => .here

/-- The path that a text denotes. -/
def ofText (s : String) : Path :=
  { root := rootOf s.toList
    names := ((Text.splitOn '/' s.toList).filter fun name => name != [] && name != ['.']).map
      String.ofList }

/-- The printed form of a path. -/
def text (p : Path) : String :=
  match p.root, p.names with
  | .here, [] => "."
  | root, names => root.text ++ "/".intercalate names

/-- The last name, empty if there is none. -/
def name (p : Path) : String :=
  p.names.getLast?.getD ""

/-- The path without its last name. -/
def parent (p : Path) : Path :=
  { p with names := p.names.dropLast }

/-- Whether a path does not depend on where one is. -/
def isAbsolute (p : Path) : Bool :=
  p.root != .here

/-- A path followed by another; an absolute one starts anew. -/
def join (p q : Path) : Path :=
  if q.isAbsolute then q else { p with names := p.names ++ q.names }

/-- A path whose last name has something added to it. -/
def appendToName (p : Path) (s : String) : Path :=
  match p.names.getLast? with
  | none => p
  | some name => { p with names := p.names.dropLast ++ [name ++ s] }

/-- The names of a path in which two dots take back the name before them. -/
def foldDots (names : List String) : List String :=
  names.foldl (fun kept name => if name = ".." then kept.dropLast else kept ++ [name]) []

/-- The absolute path that a path denotes in a folder, with two dots taken as a step back by
name. -/
def absolute (folder p : Path) : Path :=
  let whole := folder.join p
  { whole with names := foldDots whole.names }

/-- What follows the last dot of a path's name, with the dot; nothing if the name starts or ends
with it. -/
def extension (p : Path) : String :=
  let cs := p.name.toList
  let tail := cs.reverse.takeWhile (· != '.')
  if tail.isEmpty || cs.length ≤ tail.length + 1 then ""
  else String.ofList ('.' :: tail.reverse)

end Path

end AudioPlan
