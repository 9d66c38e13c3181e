import AudioPlan.Toml.Scalar

/-!
# Reading TOML

A TOML document is a table.  It is read statement by statement: an entry goes into the table that
was opened last, a header opens a table or adds one to a list.  `Claims` keeps account of what may
still be added where:

* a table with a header of its own, or reached through dotted keys, is not opened again;
* what was written in one piece, a list or a table in braces, is closed for good.

A text that breaks a rule is refused as a whole.  So is one with an integer that is too long, which
is noticed before what breaks a rule behind it.
-/

namespace AudioPlan.Toml

/-- The entries of a table in the order in which they were written. -/
abbrev Table := List (String × Value)

/-- Changes the table that a key leads to, which is made if it is not there.  Where lists may be
entered, the key leads on to the last table of a list. -/
def Table.within? (lists : Bool) (change : Table → Option Table) :
    List String → Table → Option Table
  | [], table => change table
  | key :: keys, table =>
    match table.lookup key with
    | none => (Table.within? lists change keys []).map fun inner => put key (.map inner) table
    | some (.map inner) =>
      (Table.within? lists change keys inner).map fun inner => put key (.map inner) table
    | some (.list items) =>
      match lists, items.getLast? with
      | true, some (.map inner) =>
        (Table.within? lists change keys inner).map fun inner =>
          put key (.list (items.dropLast ++ [.map inner])) table
      | _, _ => none
    | some _ => none

/-- A table with a new entry; nothing if there is one of that name. -/
def Table.add? (key : String) (v : Value) (table : Table) : Option Table :=
  if (table.lookup key).isSome then none else some (put key v table)

/-- A table with an empty table at the end of a list. -/
def Table.extend? (key : String) (table : Table) : Option Table :=
  match table.lookup key with
  | none => some (put key (.list [.map []]) table)
  | some (.list items) => some (put key (.list (items ++ [.map []])) table)
  | some _ => none

/-- A table in which a key of several parts has got a value. -/
def Table.set? (lists : Bool) (key : List String) (v : Value) (table : Table) : Option Table :=
  match key.getLast? with
  | none => none
  | some last => table.within? lists (Table.add? last v) key.dropLast

/-- Whether a value cannot be added to once it is written. -/
def isWhole : Value → Bool
  | .list _ | .map _ => true
  | _ => false

/-! ## Values -/

/-- The characters behind a comment; none if it holds a forbidden character. -/
def skipComment? : List Char → Option (List Char)
  | '#' :: rest =>
    if (rest.takeWhile (· != '\n')).any isControl then none else some (rest.dropWhile (· != '\n'))
  | rest => some rest

/-- The characters behind white space, line ends and comments. -/
def skipLines? : (bound : Nat) → List Char → Option (List Char)
  | 0, cs => some cs
  | bound + 1, cs => do
    let rest ← skipComment? (cs.dropWhile isListSpace)
    if rest.length = cs.length then return rest else skipLines? bound rest

/-- The characters behind what may stand between the items of a list. -/
def skipInList? (cs : List Char) : Option (List Char) :=
  skipLines? (cs.length + 1) cs

mutual

/-- The value in front. -/
def readValue : (bound : Nat) → List Char → Except Refusal (Value × List Char)
  | 0, _ => throw .malformed
  | bound + 1, cs =>
    match cs with
    | '"' :: _ | '\'' :: _ => do
      let (text, rest) ← readText? cs
      return (.text (String.ofList text), rest)
    | '[' :: rest => do
      let (items, rest) ← readItems bound (← skipInList? rest)
      return (.list items, rest)
    | '{' :: rest =>
      match skipSpace rest with
      | '}' :: rest => return (.map [], rest)
      | rest => do
        let (table, rest) ← readInline bound [] [] rest
        return (.map table, rest)
    | cs => readScalar cs

/-- The items of a list up to its end.  A comma may stand behind the last one. -/
def readItems : (bound : Nat) → List Char → Except Refusal (List Value × List Char)
  | 0, _ => throw .malformed
  | bound + 1, cs =>
    match cs with
    | ']' :: rest => return ([], rest)
    | cs => do
      let (v, rest) ← readValue bound cs
      match ← skipInList? rest with
      | ']' :: rest => return ([v], rest)
      | ',' :: rest =>
        let (vs, rest) ← readItems bound (← skipInList? rest)
        return (v :: vs, rest)
      | _ => throw .malformed

/-- The entries of a table in braces up to its end.  Nothing is added behind the keys in `whole`. -/
def readInline : (bound : Nat) → (whole : List (List String)) → Table → List Char →
    Except Refusal (Table × List Char)
  | 0, _, _, _ => throw .malformed
  | bound + 1, whole, table, cs => do
    let (key, v, rest) ← readEntry bound cs
    if whole.any (·.isPrefixOf key) then throw .malformed
    let table ← table.set? false key v
    match skipSpace rest with
    | '}' :: rest => return (table, rest)
    | ',' :: rest =>
      readInline bound (if isWhole v then key :: whole else whole) table (skipSpace rest)
    | _ => throw .malformed

/-- A key and its value. -/
def readEntry : (bound : Nat) → List Char → Except Refusal (List String × Value × List Char)
  | 0, _ => throw .malformed
  | bound + 1, cs => do
    let (key, rest) ← readKey? (bound + 1) cs
    let rest ← expect? '=' rest
    let (v, rest) ← readValue bound (skipSpace rest)
    return (key, v, rest)

end

/-! ## Statements -/

/-- What may still be added where. -/
structure Claims where
  /-- Tables that are not opened again. -/
  opened : List (List String) := []
  /-- Values that were written in one piece. -/
  whole : List (List String) := []
  /-- Tables reached through dotted keys, which count as opened from the next header on. -/
  reached : List (List String) := []
  deriving Repr

namespace Claims

/-- Whether a key leads to or into something that was written in one piece. -/
def isWhole (claims : Claims) (key : List String) : Bool :=
  claims.whole.any (·.isPrefixOf key)

/-- The claims when a header begins. -/
def settle (claims : Claims) : Claims :=
  { claims with opened := claims.reached ++ claims.opened, reached := [] }

/-- The claims without those on a key and all behind it. -/
def release (claims : Claims) (key : List String) : Claims :=
  { claims with
    opened := claims.opened.filter fun k => !key.isPrefixOf k
    whole := claims.whole.filter fun k => !key.isPrefixOf k }

end Claims

/-- A document that has been read in part. -/
structure Document where
  table : Table := []
  /-- The key of the table that was opened last. -/
  header : List String := []
  claims : Claims := {}
  deriving Repr

namespace Document

/-- The tables on the way to a key of an entry: its proper beginnings, behind the header. -/
def steps (header : List String) (key : List String) : List (List String) :=
  (List.range (key.length - 1)).map fun i => header ++ key.take (i + 1)

/-- Adds an entry to the table that was opened last. -/
def enter? (key : List String) (v : Value) (d : Document) : Option Document := do
  let on := steps d.header key
  if on.any (d.claims.opened.contains ·) then none
  let place := d.header ++ key
  if d.claims.isWhole place.dropLast then none
  let table ← d.table.set? true place v
  return { d with
    table := table
    claims := { d.claims with
      reached := on ++ d.claims.reached
      whole := if Toml.isWhole v then place :: d.claims.whole else d.claims.whole } }

/-- Opens a table. -/
def openTable? (key : List String) (d : Document) : Option Document := do
  let claims := d.claims.settle
  if claims.opened.contains key || claims.isWhole key then none
  let table ← d.table.within? true some key
  return { table := table, header := key, claims := { claims with opened := key :: claims.opened } }

/-- Adds a table to a list. -/
def openItem? (key : List String) (d : Document) : Option Document := do
  let claims := d.claims.settle
  if claims.isWhole key then none
  let claims := claims.release key
  let last ← key.getLast?
  let table ← d.table.within? true (Table.extend? last) key.dropLast
  return { table := table, header := key, claims := { claims with opened := key :: claims.opened } }

end Document

/-- A key in a header, with the white space before it. -/
def readHeader? (cs : List Char) : Option (List String × List Char) :=
  readKey? (cs.length + 1) (skipSpace cs)

/-- Reads the statement in front. -/
def readStatement (d : Document) (cs : List Char) : Except Refusal (Document × List Char) :=
  match cs with
  | '[' :: '[' :: rest => do
    let (key, rest) ← readHeader? rest
    return (← d.openItem? key, ← expect? ']' (← expect? ']' rest))
  | '[' :: rest => do
    let (key, rest) ← readHeader? rest
    return (← d.openTable? key, ← expect? ']' rest)
  | '#' :: _ => return (d, cs)
  | c :: _ => do
    if !startsKey c then throw .malformed
    let (key, v, rest) ← readEntry (cs.length + 1) cs
    return (← d.enter? key v, rest)
  | [] => return (d, [])

/-- Reads the statements of a document, one a line. -/
def readStatements : (bound : Nat) → Document → List Char → Except Refusal Document
  | 0, _, _ => throw .malformed
  | bound + 1, d, cs =>
    match skipSpace cs with
    | [] => return d
    | '\n' :: rest => readStatements bound d rest
    | cs => do
      let (d, rest) ← readStatement d cs
      match ← skipComment? (skipSpace rest) with
      | [] => return d
      | '\n' :: rest => readStatements bound d rest
      | _ => throw .malformed

/-- The characters of a text with every line end as a line feed. -/
def textChars (s : String) : List Char :=
  Text.replaceAll ['\r', '\n'] ['\n'] s.toList

/-- The table that a TOML text denotes. -/
def read (s : String) : Except Refusal Table :=
  (readStatements ((textChars s).length + 1) {} (textChars s)).map Document.table

end AudioPlan.Toml
