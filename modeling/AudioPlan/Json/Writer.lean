import AudioPlan.Text.Number
import AudioPlan.Value.Basic

/-!
# Writing JSON

A value as JSON text.  A `Layout` fixes what is left open: the separators, whether every item stands
on a line of its own, and whether characters beyond the plain ones are written by their codes.

* `Layout.text` is the text of a value, `Layout.render` that of a value whose integers can all be
  written.
-/

namespace AudioPlan.Json

/-- The choices in writing JSON. -/
structure Layout where
  /-- Between two items on one line. -/
  comma : String := ", "
  /-- Between a key and its value. -/
  colon : String := ": "
  /-- Spaces by which each level is set in, one item a line; none to stay on one line. -/
  indent : Option Nat := none
  /-- Whether only plain characters are written. -/
  plain : Bool := false

/-- Everything on one line, without spaces. -/
def compact : Layout := { comma := ",", colon := ":" }

/-- Everything on one line, with a space behind each separator. -/
def spaced : Layout := {}

/-- One item a line, each level set in by two spaces. -/
def indented : Layout := { indent := some 2 }

/-- Like `indented`, in plain characters only. -/
def indentedPlain : Layout := { indent := some 2, plain := true }

/-- A code as an escape with four hexadecimal digits. -/
def codeEscape (n : Nat) : List Char :=
  '\\' :: 'u' :: Text.inBase 16 4 n

/-- A character by its code, or by the codes of its two halves. -/
def codeEscapes (c : Char) : List Char :=
  if c.toNat < 0x10000 then codeEscape c.toNat
  else
    codeEscape (0xd800 + (c.toNat - 0x10000) / 0x400) ++
      codeEscape (0xdc00 + (c.toNat - 0x10000) % 0x400)

/-- One character of a text. -/
def writeChar (plain : Bool) (c : Char) : List Char :=
  if c = '"' then ['\\', '"']
  else if c = '\\' then ['\\', '\\']
  else if c = '\n' then ['\\', 'n']
  else if c = '\r' then ['\\', 'r']
  else if c = '\t' then ['\\', 't']
  else if c = '\x08' then ['\\', 'b']
  else if c = '\x0c' then ['\\', 'f']
  else if c.toNat < 0x20 || (plain && 0x7e < c.toNat) then codeEscapes c
  else [c]

/-- A text in quotation marks. -/
def writeText (plain : Bool) (s : String) : List Char :=
  '"' :: s.toList.flatMap (writeChar plain) ++ ['"']

/-- Floating-point numbers in JSON. -/
def floatStyle : Binary64.Style := { nan := "NaN", infinity := "Infinity" }

/-- What stands before an item at some depth: nothing, or a new line set in. -/
def Layout.newline (layout : Layout) (depth : Nat) : List Char :=
  match layout.indent with
  | none => []
  | some n => '\n' :: List.replicate (n * depth) ' '

/-- What stands between two items at some depth. -/
def Layout.between (layout : Layout) (depth : Nat) : List Char :=
  match layout.indent with
  | none => layout.comma.toList
  | some _ => ',' :: layout.newline depth

/-- A key that is not text, written as text. -/
def keyText : Value → String
  | .null => "null"
  | .bool true => "true"
  | .bool false => "false"
  | .float x => floatStyle.render x
  | v => v.toText

mutual

/-- A value at some depth. -/
def Layout.write (layout : Layout) (depth : Nat) : Value → List Char
  | .null => "null".toList
  | .bool true => "true".toList
  | .bool false => "false".toList
  | .int n => (toString n).toList
  | .float x => (floatStyle.render x).toList
  | .text s => writeText layout.plain s
  | .list [] => ['[', ']']
  | .list (v :: rest) =>
    '[' :: layout.newline (depth + 1) ++ layout.write (depth + 1) v ++
      layout.writeItems (depth + 1) rest ++ layout.newline depth ++ [']']
  | .map [] => ['{', '}']
  | .map ((k, v) :: rest) =>
    '{' :: layout.newline (depth + 1) ++ writeText layout.plain k ++ layout.colon.toList ++
      layout.write (depth + 1) v ++ layout.writeEntries (depth + 1) rest ++
      layout.newline depth ++ ['}']
  | .keyed [] => ['{', '}']
  | .keyed ((k, v) :: rest) =>
    '{' :: layout.newline (depth + 1) ++ writeText layout.plain (keyText k) ++
      layout.colon.toList ++ layout.write (depth + 1) v ++ layout.writeKeyed (depth + 1) rest ++
      layout.newline depth ++ ['}']
  | v => writeText layout.plain v.shown

/-- The items behind the first one. -/
def Layout.writeItems (layout : Layout) (depth : Nat) : List Value → List Char
  | [] => []
  | v :: rest => layout.between depth ++ layout.write depth v ++ layout.writeItems depth rest

/-- The entries behind the first one. -/
def Layout.writeEntries (layout : Layout) (depth : Nat) : List (String × Value) → List Char
  | [] => []
  | (k, v) :: rest =>
    layout.between depth ++ writeText layout.plain k ++ layout.colon.toList ++
      layout.write depth v ++ layout.writeEntries depth rest

/-- The entries with other keys behind the first one. -/
def Layout.writeKeyed (layout : Layout) (depth : Nat) : List (Value × Value) → List Char
  | [] => []
  | (k, v) :: rest =>
    layout.between depth ++ writeText layout.plain (keyText k) ++ layout.colon.toList ++
      layout.write depth v ++ layout.writeKeyed depth rest

end

/-- The JSON text of a value, its integers written out however long they are. -/
def Layout.text (layout : Layout) (v : Value) : String :=
  String.ofList (layout.write 0 v)

/-- The JSON text of a value, if it can be written. -/
def Layout.render (layout : Layout) (v : Value) : Except AudioPlan.Fault String :=
  v.ifFits (layout.text v)

end AudioPlan.Json
