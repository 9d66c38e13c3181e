import AudioPlan.Text.Number
import AudioPlan.Yaml.Cursor

/-!
# Scalars in YAML

A scalar is a text in one of four spellings: plain, in single or double quotation marks, or as a
block of lines behind a sign.  Breaks within the first three are folded: a single one becomes a
space, and of several ones the first is dropped.

Every reader takes the cursor at the front of the scalar and returns the text with the cursor behind
it.  The bounds that the loops count down are the number of characters left.
-/

namespace AudioPlan.Yaml

/-- A folded break: the first break and those behind it. -/
def foldBreaks (first : Char) (others : List Char) : List Char :=
  if first != '\n' then first :: others
  else if others.isEmpty then [' ']
  else others

/-! ## Plain scalars -/

/-- Whether a plain scalar ends here. -/
def plainEnds (inFlow : Bool) : List Char → Bool
  | [] => true
  | c :: rest =>
    isTabOrSpace c || isBreak c ||
      (c == ':' && (atBlank rest ||
        (inFlow && rest.head?.any fun d => d ∈ [',', '[', ']', '{', '}']))) ||
      (inFlow && c ∈ [',', '?', '[', ']', '{', '}'])

/-- The characters up to a space or the end of a plain scalar. -/
def plainRun (inFlow : Bool) : List Char → List Char
  | [] => []
  | c :: rest => if plainEnds inFlow (c :: rest) then [] else c :: plainRun inFlow rest

/-- What stands for the white space within a plain scalar, and whether it goes over a line. -/
structure Gap where
  text : List Char
  newLine : Bool
  cursor : Cursor

/-- The breaks behind the first one, nothing at the mark of a document. -/
def plainBreaks : (bound : Nat) → Cursor → Option (List Char) × Cursor
  | 0, c => (some [], c)
  | bound + 1, c =>
    if atDocumentMark c.rest then (none, c)
    else
      let c := c.skipSpaces
      match c.lineBreak? with
      | some (b, c) =>
        let (others, c) := plainBreaks bound c
        (others.map (b :: ·), c)
      | none => (some [], c)

/-- The white space behind a word of a plain scalar. -/
def plainGap (c : Cursor) : Gap :=
  let (spaces, c) := c.run (· == ' ')
  match c.lineBreak? with
  | some (first, c) =>
    let (others, c) := plainBreaks c.rest.length c
    { text := (others.map (foldBreaks first)).getD [], newLine := true, cursor := c }
  | none => { text := spaces, newLine := false, cursor := c }

/-- A plain scalar, whether a new line was begun behind it, and the cursor there.  Outside of flow
collections its lines are at least `indent` wide to the left. -/
def plainFrom (inFlow : Bool) (indent : Nat) :
    (bound : Nat) → (gap : Gap) → List Char × Bool × Cursor
  | 0, gap => ([], gap.newLine, gap.cursor)
  | bound + 1, gap =>
    let run := plainRun inFlow gap.cursor.rest
    if run.isEmpty then ([], gap.newLine, gap.cursor)
    else
      let next := plainGap (gap.cursor.skip run.length)
      if next.text.isEmpty || next.cursor.peek == some '#' ||
          (!inFlow && next.cursor.column < indent) then
        (gap.text ++ run, next.newLine, next.cursor)
      else
        let (more, newLine, c) := plainFrom inFlow indent bound next
        (gap.text ++ run ++ more, newLine, c)

/-- A plain scalar. -/
def plainScalar (inFlow : Bool) (indent : Nat) (c : Cursor) : List Char × Bool × Cursor :=
  plainFrom inFlow indent (c.rest.length + 1) { text := [], newLine := false, cursor := c }

/-! ## Quoted scalars -/

/-- The character that an escape with one letter stands for. -/
def escaped? : Char → Option Char
  | '0' => some '\x00'
  | 'a' => some '\x07'
  | 'b' => some '\x08'
  | 't' | '\t' => some '\t'
  | 'n' => some '\n'
  | 'v' => some '\x0b'
  | 'f' => some '\x0c'
  | 'r' => some '\r'
  | 'e' => some '\x1b'
  | ' ' => some ' '
  | '"' => some '"'
  | '\\' => some '\\'
  | '/' => some '/'
  | 'N' => some '\x85'
  | '_' => some '\xa0'
  | 'L' => some '\u2028'
  | 'P' => some '\u2029'
  | _ => none

/-- The number of digits of an escape by code. -/
def codeDigits? : Char → Option Nat
  | 'x' => some 2
  | 'u' => some 4
  | 'U' => some 8
  | _ => none

/-- The character with a code. -/
def charOfCode (n : Nat) : Except Refusal Char :=
  if 0x7fffffff < n then .error (.fault .outOfRange)
  else if 0x10ffff < n then .error (.fault .badValue)
  else .ok (Char.ofNat n)

/-- The character that an escape by code stands for. -/
def readCode (digits : List Char) (count : Nat) : Except Refusal Char :=
  if digits.length < count then .error .badText
  else
    match Text.ofBase? 16 digits with
    | some n => charOfCode n
    | none => .error .badText

/-- The breaks and blank lines behind a break in a quoted scalar. -/
def quotedBreaks : (bound : Nat) → Cursor → Except Refusal (List Char × Cursor)
  | 0, c => .ok ([], c)
  | bound + 1, c =>
    if atDocumentMark c.rest then .error .badText
    else
      let c := c.skipRun isTabOrSpace
      match c.lineBreak? with
      | some (b, c) => do
        let (others, c) ← quotedBreaks bound c
        return (b :: others, c)
      | none => .ok ([], c)

/-- What stands for the white space within a quoted scalar. -/
def quotedGap (c : Cursor) : Except Refusal (List Char × Cursor) :=
  let (blanks, c) := c.run isTabOrSpace
  match c.lineBreak? with
  | some (first, c) => do
    let (others, c) ← quotedBreaks (c.rest.length + 1) c
    return (foldBreaks first others, c)
  | none => if c.rest.isEmpty then .error .badText else .ok (blanks, c)

/-- What an escape in double quotation marks stands for, behind its backslash. -/
def readEscape (c : Cursor) : Except Refusal (List Char × Cursor) :=
  match c.lineBreak?, c.peek with
  | some (_, c), _ => quotedBreaks (c.rest.length + 1) c
  | none, some letter =>
    match escaped? letter, codeDigits? letter with
    | some ch, _ => .ok ([ch], c.next)
    | none, some count => do
      let ch ← readCode (c.next.rest.take count) count
      return ([ch], c.next.skip count)
    | none, none => .error .badText
  | none, none => .error .badText

/-- A quoted scalar behind its first quotation mark, up to and with its last one. -/
def quotedFrom (double : Bool) : (bound : Nat) → Cursor → Except Refusal (List Char × Cursor)
  | 0, _ => .error .badText
  | bound + 1, c => do
    match c.rest with
    | [] => .error .badText
    | ch :: rest =>
      if isTabOrSpace ch || isBreak ch then
        let (text, c) ← quotedGap c
        let (more, c) ← quotedFrom double bound c
        return (text ++ more, c)
      else if double && ch = '\\' then
        let (text, c) ← readEscape c.next
        let (more, c) ← quotedFrom double bound c
        return (text ++ more, c)
      else if ch = (if double then '"' else '\'') then
        if !double && rest.head? == some '\'' then
          let (more, c) ← quotedFrom double bound (c.skip 2)
          return ('\'' :: more, c)
        else return ([], c.next)
      else
        let (more, c) ← quotedFrom double bound c.next
        return (ch :: more, c)

/-- A quoted scalar. -/
def quotedScalar (double : Bool) (c : Cursor) : Except Refusal (List Char × Cursor) :=
  quotedFrom double (c.rest.length + 1) c.next

/-! ## Block scalars -/

/-- What becomes of the breaks at the end of a block. -/
inductive Chomping where
  | strip
  | clip
  | keep
  deriving Repr, DecidableEq

/-- What the header of a block says: the treatment of its end, and its indentation. -/
structure BlockHeader where
  chomping : Chomping := .clip
  increment : Option Nat := none

/-- The treatment that a sign asks for. -/
def chomping? : Option Char → Option Chomping
  | some '+' => some .keep
  | some '-' => some .strip
  | _ => none

/-- The indentation that a digit asks for. -/
def increment? : Option Char → Except Refusal (Option Nat)
  | some c =>
    if c = '0' then .error .badText
    else .ok (if Text.isPlainDigit c then some (Text.plainDigit c) else none)
  | none => .ok none

/-- The header of a block, with its line. -/
def blockHeader (c : Cursor) : Except Refusal (BlockHeader × Cursor) := do
  let (header, c) ← match chomping? c.peek with
    | some chomping => do
      let c := c.next
      match ← increment? c.peek with
      | some n => pure ({ chomping, increment := some n : BlockHeader }, c.next)
      | none => pure ({ chomping : BlockHeader }, c)
    | none => do
      match ← increment? c.peek with
      | some n =>
        let c := c.next
        match chomping? c.peek with
        | some chomping => pure ({ chomping, increment := some n : BlockHeader }, c.next)
        | none => pure ({ increment := some n : BlockHeader }, c)
      | none => pure ({ : BlockHeader }, c)
  if !atSpace c.rest then throw .badText
  return (header, ← c.skipLine)

/-- The blank lines in front of a block, the width of the widest line, and the first line. -/
def blockIndentation : (bound : Nat) → (width : Nat) → Cursor → List Char × Nat × Cursor
  | 0, width, c => ([], width, c)
  | bound + 1, width, c =>
    match c.lineBreak? with
    | some (b, c) =>
      let (breaks, width, c) := blockIndentation bound width c
      (b :: breaks, width, c)
    | none =>
      if c.peek == some ' ' then
        let c := c.next
        blockIndentation bound (max width c.column) c
      else ([], width, c)

/-- Behind spaces, up to a column. -/
def skipIndent (indent : Nat) : (bound : Nat) → Cursor → Cursor
  | 0, c => c
  | bound + 1, c =>
    if c.column < indent && c.peek == some ' ' then skipIndent indent bound c.next else c

/-- The blank lines within a block. -/
def blockBreaks (indent : Nat) : (bound : Nat) → Cursor → List Char × Cursor
  | 0, c => ([], c)
  | bound + 1, c =>
    let c := skipIndent indent c.rest.length c
    match c.lineBreak? with
    | some (b, c) =>
      let (breaks, c) := blockBreaks indent bound c
      (b :: breaks, c)
    | none => ([], c)

/-- A block up to its end: its text without the last break, that break, and those behind it. -/
structure BlockBody where
  text : List Char
  last : List Char
  breaks : List Char
  cursor : Cursor

/-- The lines of a block. -/
def blockLines (folded : Bool) (indent : Nat) :
    (bound : Nat) → (breaks : List Char) → Cursor → BlockBody
  | 0, breaks, c => ⟨[], [], breaks, c⟩
  | bound + 1, breaks, c =>
    if c.column != indent || c.rest.isEmpty then ⟨[], [], breaks, c⟩
    else
      let startsBlank := c.peek.any isTabOrSpace
      let (line, c) := c.run fun ch => !isBreak ch
      let (last, c) : List Char × Cursor := match c.lineBreak? with
        | some (b, c) => ([b], c)
        | none => ([], c)
      let (next, c) := blockBreaks indent (c.rest.length + 1) c
      if c.column != indent || c.rest.isEmpty then ⟨breaks ++ line, last, next, c⟩
      else
        let joint : List Char :=
          if folded && last == ['\n'] && !startsBlank && !c.peek.any isTabOrSpace then
            if next.isEmpty then [' '] else []
          else last
        let body := blockLines folded indent bound next c
        { body with text := breaks ++ line ++ joint ++ body.text }

/-- A block scalar behind its sign.  Its lines are set in further than `parent`. -/
def blockScalar (folded : Bool) (parent : Int) (c : Cursor) :
    Except Refusal (List Char × Cursor) := do
  let (header, c) ← blockHeader c
  let least := max 1 (parent + 1).toNat
  let (indent, breaks, c) := match header.increment with
    | some n =>
      let indent := least + n - 1
      (indent, blockBreaks indent (c.rest.length + 1) c)
    | none =>
      let (breaks, width, c) := blockIndentation (c.rest.length + 1) 0 c
      (max least width, breaks, c)
  let body := blockLines folded indent (c.rest.length + 1) breaks c
  let text := match header.chomping with
    | .strip => body.text
    | .clip => body.text ++ body.last
    | .keep => body.text ++ body.last ++ body.breaks
  return (text, body.cursor)

end AudioPlan.Yaml
