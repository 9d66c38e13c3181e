/-!
# Base64

Bytes as letters, digits and two signs, four for each three bytes, with padding at the end; and the
strict reading, which takes nothing but that alphabet and padding.
-/

namespace AudioPlan.Text

/-- The sixty-four characters in order. -/
def base64Alphabet : List Char :=
  "ABCDEFGHIJKLMNOPQRSTUVWXYZabcdefghijklmnopqrstuvwxyz0123456789+/".toList

/-- The character for six bits. -/
def base64Char (n : Nat) : Char :=
  base64Alphabet.getD n 'A'

/-- The six bits that a character stands for. -/
def base64Value? (c : Char) : Option Nat :=
  if 'A' ≤ c && c ≤ 'Z' then some (c.toNat - 'A'.toNat)
  else if 'a' ≤ c && c ≤ 'z' then some (c.toNat - 'a'.toNat + 26)
  else if '0' ≤ c && c ≤ '9' then some (c.toNat - '0'.toNat + 52)
  else if c = '+' then some 62
  else if c = '/' then some 63
  else none

/-- Bytes in base64. -/
def encodeBase64 : List UInt8 → List Char
  | [] => []
  | [a] => [base64Char (a.toNat / 4), base64Char (a.toNat % 4 * 16), '=', '=']
  | [a, b] =>
    [base64Char (a.toNat / 4), base64Char (a.toNat % 4 * 16 + b.toNat / 16),
      base64Char (b.toNat % 16 * 4), '=']
  | a :: b :: c :: rest =>
    base64Char (a.toNat / 4) :: base64Char (a.toNat % 4 * 16 + b.toNat / 16) ::
      base64Char (b.toNat % 16 * 4 + c.toNat / 64) :: base64Char (c.toNat % 64) ::
      encodeBase64 rest

/-- Why a text is not base64. -/
inductive Base64Problem where
  | leadingPadding
  | strangeCharacter
  | dataInPadding
  | dataAfterPadding
  | oneTooMany (count : Nat)
  | wrongPadding
  deriving Repr, DecidableEq

/-- The wording of a problem. -/
def Base64Problem.message : Base64Problem → String
  | .leadingPadding => "Leading padding not allowed"
  | .strangeCharacter => "Only base64 data is allowed"
  | .dataInPadding => "Discontinuous padding not allowed"
  | .dataAfterPadding => "Excess data after padding"
  | .oneTooMany count =>
    s!"Invalid base64-encoded string: number of data characters ({count}) " ++
      "cannot be 1 more than a multiple of 4"
  | .wrongPadding => "Incorrect padding"

/-- The groups of six bits that characters stand for, with `count` groups and `pads` signs of
padding before them.  Padding that completes a group of four ends the text. -/
def readSextets (count pads : Nat) (padding : Bool) : List Char → Except Base64Problem (List Nat)
  | [] =>
    if count % 4 = 0 then .ok []
    else if count % 4 = 1 then .error (.oneTooMany count)
    else .error .wrongPadding
  | c :: rest =>
    if c = '=' then
      if 2 ≤ count % 4 && 4 ≤ count % 4 + pads + 1 then
        if rest.isEmpty then .ok [] else .error .dataAfterPadding
      else readSextets count (if 2 ≤ count % 4 then pads + 1 else pads) true rest
    else
      match base64Value? c with
      | none => .error .strangeCharacter
      | some n =>
        if padding then .error .dataInPadding
        else
          match readSextets (count + 1) 0 false rest with
          | .ok ns => .ok (n :: ns)
          | .error problem => .error problem

/-- Groups of six bits as bytes; bits that fill no byte are dropped. -/
def joinSextets : List Nat → List UInt8
  | a :: b :: c :: d :: rest =>
    (a * 4 + b / 16).toUInt8 :: (b % 16 * 16 + c / 4).toUInt8 :: (c % 4 * 64 + d).toUInt8 ::
      joinSextets rest
  | [a, b, c] => [(a * 4 + b / 16).toUInt8, (b % 16 * 16 + c / 4).toUInt8]
  | [a, b] => [(a * 4 + b / 16).toUInt8]
  | _ => []

/-- The bytes that a base64 text denotes. -/
def decodeBase64 (cs : List Char) : Except Base64Problem (List UInt8) :=
  if cs.head? = some '=' then .error .leadingPadding
  else
    match readSextets 0 0 false cs with
    | .ok ns => .ok (joinSextets ns)
    | .error problem => .error problem

/-- The groups of six bits in a text of any characters, of which those outside the alphabet are
passed over. -/
def looseSextets? (count pads : Nat) : List Char → Option (List Nat)
  | [] => if count % 4 = 0 then some [] else none
  | c :: rest =>
    if c = '=' then
      if 2 ≤ count % 4 then
        if 4 ≤ count % 4 + pads + 1 then some [] else looseSextets? count (pads + 1) rest
      else looseSextets? count pads rest
    else
      match base64Value? c with
      | some n => (looseSextets? (count + 1) 0 rest).map (n :: ·)
      | none => looseSextets? count pads rest

/-- The bytes that a base64 text with other characters in it denotes. -/
def decodeLooseBase64? (cs : List Char) : Option (List UInt8) :=
  (looseSextets? 0 0 cs).map joinSextets

end AudioPlan.Text
