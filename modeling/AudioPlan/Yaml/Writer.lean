import AudioPlan.Value.Basic
import AudioPlan.Yaml.Cursor
import AudioPlan.Yaml.Tag

/-!
# Writing YAML

A list of values as a YAML document in block style, one item or entry a line.  A text stands plain
where that reads back as the same text; otherwise it stands in single quotation marks, and in double
ones when it has characters or spaces that single ones cannot hold.  Lines that have become too long
are folded at the next space.

* `Traits.ofText` finds what matters for the choice of a style, `textStyle` chooses;
* `writeText` writes a text, `writeBlock` a value, `writeDocument` a document.
-/

namespace AudioPlan.Yaml

/-! ## The choice of a style -/

/-- Whether a character ends a line within a text. -/
def isTextBreak (c : Char) : Bool :=
  c == '\n' || c == '\x85' || c == '\u2028' || c == '\u2029'

/-- Whether a text goes on with a blank, or ends. -/
def atGap : List Char → Bool
  | [] => true
  | c :: _ => c == '\x00' || isTabOrSpace c || isBreak c

/-- Whether a character is written as it is only between double quotation marks, and there by its
code unless it is a common one. -/
def isSpecial (c : Char) : Bool :=
  c != '\n' && (!isPrintable c || c == '\t' || c == '\r' || c == '\ufeff' || c.toNat = 0x10ffff)

/-- The characters that mean something at the start of a scalar. -/
def leadIndicators : List Char :=
  "#,[]\x7b\x7d&*!|>'\"%@\x60".toList

/-- Whether a text starts like something else than a plain scalar. -/
def startsMarked : List Char → Bool
  | [] => false
  | c :: rest =>
    leadIndicators.contains c || ((c == '?' || c == ':' || c == '-') && atGap rest) ||
      (c == '-' && ['-', '-'].isPrefixOf rest) || (c == '.' && ['.', '.'].isPrefixOf rest)

/-- Whether a colon or a number sign in a text would end a plain scalar; `gap` says whether a blank
stands before the text. -/
def endsPlain (gap : Bool) : List Char → Bool
  | [] => false
  | c :: rest =>
    (c == ':' && atGap rest) || (c == '#' && gap) || endsPlain (atGap [c]) rest

/-- Whether two characters stand next to each other in a text, one of each kind. -/
def hasPair (first second : Char → Bool) : List Char → Bool
  | c :: d :: rest => (first c && second d) || hasPair first second (d :: rest)
  | _ => false

/-- What matters for the style of a text. -/
structure Traits where
  /-- Whether a break or a special character is in it. -/
  breaks : Bool
  special : Bool
  /-- Whether it starts or ends with a space or a break. -/
  looseEnds : Bool
  spaceBeforeBreak : Bool
  spaceAfterBreak : Bool
  /-- Whether it means something else when it stands plain. -/
  marked : Bool
  deriving Repr

/-- What matters for the style of a text. -/
def Traits.ofText (cs : List Char) : Traits :=
  let isLoose (c : Option Char) : Bool := c.any fun c => c == ' ' || isTextBreak c
  { breaks := cs.any isTextBreak
    special := cs.any isSpecial
    looseEnds := isLoose cs.head? || isLoose cs.getLast?
    spaceBeforeBreak := hasPair (· == ' ') isTextBreak cs
    spaceAfterBreak := hasPair isTextBreak (· == ' ') cs
    marked := startsMarked cs || endsPlain false cs }

/-- The styles of a text. -/
inductive TextStyle where
  | plain
  | single
  | double
  deriving Repr, DecidableEq

/-- The style of a text. -/
def textStyle (cs : List Char) : TextStyle :=
  let t := Traits.ofText cs
  if t.special || t.spaceBeforeBreak || t.spaceAfterBreak then .double
  else if t.breaks || t.looseEnds || t.marked || Tag.ofPlain cs != .text then .single
  else .plain

/-! ## Texts -/

/-- The column behind which lines are folded. -/
def foldColumn : Nat := 80

/-- A new line that is set in. -/
def newline (indent : Nat) : List Char :=
  '\n' :: List.replicate indent ' '

/-- A character of a word, doubled if it is a single quotation mark between such. -/
def wordChar (style : TextStyle) (c : Char) : List Char :=
  if style == .single && c == '\'' then ['\'', '\''] else [c]

/-- A text in plain style or in single quotation marks, without the marks.  A single space beyond
the column for folding becomes a new line, and a line end is written twice.  `before` is the
character before the text. -/
def writeFolded (style : TextStyle) (fold : Bool) (indent column : Nat) (before : Option Char) :
    List Char → List Char
  | [] => []
  | c :: rest =>
    if isTextBreak c then
      let extra := if before.any isTextBreak then [] else if c == '\n' then ['\n'] else []
      let atEnd := !rest.head?.any isTextBreak
      let indented := if atEnd then List.replicate indent ' ' else []
      extra ++ c :: indented ++
        writeFolded style fold indent (if atEnd then indent else 0) (some c) rest
    else if c == ' ' && fold && foldColumn < column && before.any (· != ' ') &&
        rest.head?.any (· != ' ') then
      newline indent ++ writeFolded style fold indent indent (some c) rest
    else
      let written := wordChar style c
      written ++ writeFolded style fold indent (column + written.length) (some c) rest

/-- The characters with a short escape. -/
def shortEscapes : List (Char × Char) :=
  [('\x00', '0'), ('\x07', 'a'), ('\x08', 'b'), ('\t', 't'), ('\n', 'n'), ('\x0b', 'v'),
   ('\x0c', 'f'), ('\r', 'r'), ('\x1b', 'e'), ('"', '"'), ('\\', '\\'), ('\x85', 'N'),
   ('\xa0', '_'), ('\u2028', 'L'), ('\u2029', 'P')]

/-- The code of a character in capitals. -/
def codeDigits (width : Nat) (c : Char) : List Char :=
  (Text.inBase 16 width c.toNat).map Char.toUpper

/-- The escape of a character. -/
def escape (c : Char) : List Char :=
  match shortEscapes.lookup c with
  | some e => ['\\', e]
  | none =>
    if c.toNat ≤ 0xff then '\\' :: 'x' :: codeDigits 2 c
    else if c.toNat ≤ 0xffff then '\\' :: 'u' :: codeDigits 4 c
    else '\\' :: 'U' :: codeDigits 8 c

/-- Whether a character is written as an escape between double quotation marks. -/
def isEscaped (c : Char) : Bool :=
  c == '"' || c == '\\' || c == '\x85' || c == '\u2028' || c == '\u2029' || c == '\ufeff' ||
    !(('\x20' ≤ c && c ≤ '\x7e') || ('\xa0' ≤ c && c ≤ '\uffff' && isPrintable c))

/-- The end of a line that is folded between double quotation marks, and the start of the next one;
a space behind it is kept by an escape. -/
def foldedEnd (indent : Nat) (next : Option Char) : List Char :=
  '\\' :: newline indent ++ (if next == some ' ' then ['\\'] else [])

/-- The column behind a folded line. -/
def foldedColumn (indent : Nat) (next : Option Char) : Nat :=
  if next == some ' ' then indent + 1 else indent

/-- A text between double quotation marks, without the marks.  A line that is too long is folded
before a space and next to an escape.  `fresh` says whether an escape, or nothing, stands before the
text, `first` whether the text is whole. -/
def writeEscaped (fold : Bool) (indent column : Nat) (fresh first : Bool) : List Char → List Char
  | [] => []
  | c :: rest =>
    let mayFold := fold && !first && !rest.isEmpty
    if isEscaped c then
      let written := escape c
      let column := column + written.length
      if mayFold && foldColumn + 1 < column then
        written ++ foldedEnd indent rest.head? ++
          writeEscaped fold indent (foldedColumn indent rest.head?) true false rest
      else written ++ writeEscaped fold indent column true false rest
    else if mayFold && (c == ' ' || fresh) && foldColumn < column then
      foldedEnd indent (some c) ++
        c :: writeEscaped fold indent (foldedColumn indent (some c) + 1) false false rest
    else c :: writeEscaped fold indent (column + 1) false false rest

/-- A text that starts in some column; further lines are set in. -/
def writeText (fold : Bool) (indent column : Nat) (cs : List Char) : List Char :=
  match textStyle cs with
  | .plain => writeFolded .plain fold indent column none cs
  | .single => '\'' :: writeFolded .single fold indent (column + 1) none cs ++ ['\'']
  | .double => '"' :: writeEscaped fold indent (column + 1) true true cs ++ ['"']

/-! ## Values -/

/-- Floating-point numbers in YAML. -/
def floatStyle : Binary64.Style :=
  { pointBeforeExponent := true, nan := ".nan", infinity := ".inf" }

/-- A value that stands within a line: a scalar or an empty collection. -/
def writeLeaf (indent column : Nat) : Value → List Char
  | .null => "null".toList
  | .bool true => "true".toList
  | .bool false => "false".toList
  | .int n => (toString n).toList
  | .float x => (floatStyle.render x).toList
  | .text s => writeText true indent column s.toList
  | .list _ => ['[', ']']
  | .map _ | .keyed _ => ['\x7b', '\x7d']
  | v => writeText true indent column v.shown.toList

/-- Whether a key stands on the line of its value. -/
def isShortKey (cs : List Char) : Bool :=
  !cs.isEmpty && cs.length < 123 && !cs.any isTextBreak

/-- A key with the colon behind it, and the column behind that. -/
def writeKey (indent : Nat) (key : List Char) : List Char :=
  if isShortKey key then writeText false (indent + 2) indent key ++ [':']
  else "? ".toList ++ writeText true (indent + 2) (indent + 2) key ++ newline indent ++ [':']

/-- Whether a value is a mapping with entries. -/
def isBlockMapping : Value → Bool
  | .map entries => !entries.isEmpty
  | .keyed entries => !entries.isEmpty
  | _ => false

/-- Whether a value is a list with items. -/
def isBlockList : Value → Bool
  | .list items => !items.isEmpty
  | _ => false

/-- What stands between a key and its value, a value of several lines being set in no more than its
kind needs. -/
def valueIndent (indent : Nat) (key : List Char) (v : Value) : Nat :=
  if isShortKey key && isBlockList v then indent else indent + 2

/-- What stands between a key and its value. -/
def keyGap (indent : Nat) (key : List Char) (v : Value) : List Char :=
  if isShortKey key && (isBlockList v || isBlockMapping v) then newline (valueIndent indent key v)
  else [' ']

/-- The column of a value behind its key. -/
def valueColumn (indent : Nat) (key : List Char) : Nat :=
  if isShortKey key then indent + (writeKey indent key).length + 1 else indent + 2

mutual

/-- A value that starts in some column; further lines are set in. -/
def writeBlock (indent column : Nat) : Value → List Char
  | .list (v :: rest) => "- ".toList ++ writeBlock (indent + 2) (indent + 2) v ++
    writeItems indent rest
  | .map ((k, v) :: rest) =>
    writeKey indent k.toList ++ keyGap indent k.toList v ++
      writeBlock (valueIndent indent k.toList v) (valueColumn indent k.toList) v ++
      writeEntries indent rest
  | .keyed ((k, v) :: rest) =>
    writeKey indent k.toText.toList ++ keyGap indent k.toText.toList v ++
      writeBlock (valueIndent indent k.toText.toList v) (valueColumn indent k.toText.toList) v ++
      writeKeyed indent rest
  | v => writeLeaf indent column v

/-- The items behind the first one. -/
def writeItems (indent : Nat) : List Value → List Char
  | [] => []
  | v :: rest => newline indent ++ "- ".toList ++ writeBlock (indent + 2) (indent + 2) v ++
    writeItems indent rest

/-- The entries behind the first one. -/
def writeEntries (indent : Nat) : List (String × Value) → List Char
  | [] => []
  | (k, v) :: rest =>
    newline indent ++ writeKey indent k.toList ++ keyGap indent k.toList v ++
      writeBlock (valueIndent indent k.toList v) (valueColumn indent k.toList) v ++
      writeEntries indent rest

/-- The entries with other keys behind the first one. -/
def writeKeyed (indent : Nat) : List (Value × Value) → List Char
  | [] => []
  | (k, v) :: rest =>
    newline indent ++ writeKey indent k.toText.toList ++ keyGap indent k.toText.toList v ++
      writeBlock (valueIndent indent k.toText.toList v) (valueColumn indent k.toText.toList) v ++
      writeKeyed indent rest

end

/-- A list of values as a document. -/
def writeDocument (items : List Value) : String :=
  String.ofList (writeBlock 0 0 (.list items) ++ ['\n'])

end AudioPlan.Yaml
