import AudioPlan.Text.Number
import AudioPlan.Text.Printable

/-!
# Quoted text in messages

A text in quotation marks as messages show it.  The marks are single unless the text holds a single
mark and no double one.  A backslash and the mark in use are escaped, the three common controls have
letters, and a character that cannot be printed is shown by its number.  Bytes are shown likewise,
behind a letter that tells them from text.
-/

namespace AudioPlan.Text

/-- The quotation mark that a message puts around the characters. -/
def quoteMark (cs : List Char) : Char :=
  if '\'' ∈ cs && '"' ∉ cs then '"' else '\''

/-- A character by its number, in two, four or eight digits. -/
def numbered (c : Char) : List Char :=
  if c.toNat < 0x100 then '\\' :: 'x' :: inBase 16 2 c.toNat
  else if c.toNat < 0x10000 then '\\' :: 'u' :: inBase 16 4 c.toNat
  else '\\' :: 'U' :: inBase 16 8 c.toNat

/-- One character inside the quotation marks `mark`. -/
def quotedChar (mark c : Char) : List Char :=
  if c = mark || c = '\\' then ['\\', c]
  else if c = '\n' then ['\\', 'n']
  else if c = '\r' then ['\\', 'r']
  else if c = '\t' then ['\\', 't']
  else if isPrintable c then [c]
  else numbered c

/-- The text in quotation marks. -/
def quoted (s : String) : String :=
  let cs := s.toList
  let mark := quoteMark cs
  String.ofList (mark :: cs.flatMap (quotedChar mark) ++ [mark])

/-- A byte inside the quotation marks `mark`. -/
def quotedByte (mark : Char) (b : UInt8) : List Char :=
  if b < 0x7f then quotedChar mark (Char.ofNat b.toNat)
  else '\\' :: 'x' :: inBase 16 2 b.toNat

/-- Bytes in quotation marks. -/
def quotedBytes (bytes : List UInt8) : String :=
  let mark := quoteMark (bytes.map fun b => Char.ofNat b.toNat)
  String.ofList ('b' :: mark :: bytes.flatMap (quotedByte mark) ++ [mark])

end AudioPlan.Text
