import AudioPlan.Fault
import AudioPlan.Text.Range

/-!
# Places in a YAML text

A cursor is the text that is left together with the place where one is: the number of characters
before it, its line, and its column.  Columns matter, because nesting in YAML is by indentation.
-/

namespace AudioPlan.Yaml

/-- Why a text is refused: it is no YAML, or a value in it cannot be made. -/
inductive Refusal where
  | badText
  | fault (fault : Fault)
  deriving Repr, DecidableEq

/-- The ranges of characters that a text may have. -/
def printableRanges : Array (Nat × Nat) :=
  #[(0x9, 0xa), (0xd, 0xd), (0x20, 0x7e), (0x85, 0x85), (0xa0, 0xd7ff), (0xe000, 0xfffd),
    (0x10000, 0x10ffff)]

/-- Whether a text may have a character. -/
def isPrintable (c : Char) : Bool :=
  printableRanges.any fun (first, last) => first ≤ c.toNat && c.toNat ≤ last

/-- Whether a character ends a line. -/
def isBreak (c : Char) : Bool :=
  c == '\n' || c == '\r' || c == '\x85' || c == '\u2028' || c == '\u2029'

/-- Whether a character is a space or a tab. -/
def isTabOrSpace (c : Char) : Bool :=
  c == ' ' || c == '\t'

/-- Whether the text ends or goes on with a space or a break. -/
def atSpace : List Char → Bool
  | [] => true
  | c :: _ => c == ' ' || isBreak c

/-- Whether the text ends or goes on with a space, a tab or a break. -/
def atBlank : List Char → Bool
  | [] => true
  | c :: _ => isTabOrSpace c || isBreak c

/-- Whether the text ends or goes on with a break. -/
def atLineEnd : List Char → Bool
  | [] => true
  | c :: _ => isBreak c

/-- Whether the text goes on with the mark of a document, `---` or `...`. -/
def atDocumentMark : List Char → Bool
  | '-' :: '-' :: '-' :: rest => atBlank rest
  | '.' :: '.' :: '.' :: rest => atBlank rest
  | _ => false

/-- The text that is left, and the place where it starts. -/
structure Cursor where
  rest : List Char
  index : Nat := 0
  line : Nat := 0
  column : Nat := 0
  deriving Repr

namespace Cursor

/-- Whether a character is the last one of its line. -/
def endsLine (c : Char) (rest : List Char) : Bool :=
  c == '\n' || c == '\x85' || c == '\u2028' || c == '\u2029' ||
    (c == '\r' && rest.head? != some '\n')

/-- Behind the next character.  The byte order mark has no width. -/
def next (c : Cursor) : Cursor :=
  match c.rest with
  | [] => c
  | ch :: rest =>
    if endsLine ch rest then { rest, index := c.index + 1, line := c.line + 1, column := 0 }
    else
      { rest, index := c.index + 1, line := c.line,
        column := if ch = '\ufeff' then c.column else c.column + 1 }

/-- Behind a number of characters. -/
def skip : Nat → Cursor → Cursor
  | 0, c => c
  | n + 1, c => skip n c.next

/-- The next character. -/
def peek (c : Cursor) : Option Char :=
  c.rest.head?

/-- The longest run of characters of a kind. -/
def run (keep : Char → Bool) (c : Cursor) : List Char × Cursor :=
  let chars := c.rest.takeWhile keep
  (chars, c.skip chars.length)

/-- Behind characters of a kind. -/
def skipRun (keep : Char → Bool) (c : Cursor) : Cursor :=
  (c.run keep).2

/-- Behind spaces. -/
def skipSpaces (c : Cursor) : Cursor :=
  c.skipRun (· == ' ')

/-- Behind a comment, if there is one. -/
def skipComment (c : Cursor) : Cursor :=
  if c.peek == some '#' then c.skipRun fun ch => !isBreak ch else c

/-- A break and the place behind it.  The breaks of most systems count as one character. -/
def lineBreak? (c : Cursor) : Option (Char × Cursor) :=
  match c.rest with
  | '\r' :: '\n' :: _ => some ('\n', c.skip 2)
  | ch :: _ =>
    if ch = '\r' || ch = '\n' || ch = '\x85' then some ('\n', c.next)
    else if ch = '\u2028' || ch = '\u2029' then some (ch, c.next)
    else none
  | [] => none

/-- Behind a break, if there is one. -/
def skipBreak (c : Cursor) : Cursor :=
  match c.lineBreak? with
  | some (_, next) => next
  | none => c

/-- Behind the rest of a line, on which nothing but a comment may stand. -/
def skipLine (c : Cursor) : Except Refusal Cursor :=
  let c := c.skipSpaces.skipComment
  if atLineEnd c.rest then .ok c.skipBreak else .error .badText

end Cursor

end AudioPlan.Yaml
