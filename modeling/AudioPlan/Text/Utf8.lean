/-!
# UTF-8

Characters as bytes and back.  Decoding refuses bytes at the first one that no text can hold there,
and says which bytes are at fault.
-/

namespace AudioPlan.Text

/-- The bytes of one character. -/
def encodeChar (c : Char) : List UInt8 :=
  let n := c.toNat
  if n < 0x80 then [n.toUInt8]
  else if n < 0x800 then [(0xc0 + n / 0x40).toUInt8, (0x80 + n % 0x40).toUInt8]
  else if n < 0x10000 then
    [(0xe0 + n / 0x1000).toUInt8, (0x80 + n / 0x40 % 0x40).toUInt8, (0x80 + n % 0x40).toUInt8]
  else
    [(0xf0 + n / 0x40000).toUInt8, (0x80 + n / 0x1000 % 0x40).toUInt8,
      (0x80 + n / 0x40 % 0x40).toUInt8, (0x80 + n % 0x40).toUInt8]

/-- The bytes of characters. -/
def encodeUtf8 (cs : List Char) : List UInt8 :=
  cs.flatMap encodeChar

/-- Why bytes are no text. -/
inductive Utf8Problem where
  | badStart
  | badContinuation
  | unfinished
  deriving Repr, DecidableEq

/-- The wording of a problem. -/
def Utf8Problem.message : Utf8Problem → String
  | .badStart => "invalid start byte"
  | .badContinuation => "invalid continuation byte"
  | .unfinished => "unexpected end of data"

/-- A problem with the bytes at fault: the first one and its position, and the position behind the
last one. -/
structure Utf8Fault where
  problem : Utf8Problem
  byte : UInt8
  first : Nat
  stop : Nat
  deriving Repr, DecidableEq

/-- Whether a byte continues a character. -/
def isContinuation (b : UInt8) : Bool :=
  0x80 ≤ b && b < 0xc0

/-- Whether a byte may stand second in a character that starts with another.  Overlong forms, halves
of characters and codes beyond the last one are left out. -/
def mayFollow (a b : UInt8) : Bool :=
  isContinuation b && (a != 0xe0 || 0xa0 ≤ b) && (a != 0xed || b < 0xa0) &&
    (a != 0xf0 || 0x90 ≤ b) && (a != 0xf4 || b < 0x90)

/-- The six bits of a continuation. -/
def sixBits (b : UInt8) : Nat :=
  b.toNat - 0x80

/-- The characters of bytes that start at a position. -/
def decodeFrom (position : Nat) : List UInt8 → Except Utf8Fault (List Char)
  | [] => .ok []
  | a :: rest =>
    let fail (problem : Utf8Problem) (count : Nat) : Except Utf8Fault (List Char) :=
      .error ⟨problem, a, position, position + count⟩
    if a < 0x80 then
      match decodeFrom (position + 1) rest with
      | .ok cs => .ok (Char.ofNat a.toNat :: cs)
      | .error fault => .error fault
    else if a < 0xc2 || 0xf5 ≤ a then fail .badStart 1
    else if a < 0xe0 then
      match rest with
      | [] => fail .unfinished 1
      | b :: rest =>
        if !mayFollow a b then fail .badContinuation 1
        else
          match decodeFrom (position + 2) rest with
          | .ok cs => .ok (Char.ofNat ((a.toNat - 0xc0) * 0x40 + sixBits b) :: cs)
          | .error fault => .error fault
    else if a < 0xf0 then
      match rest with
      | [] => fail .unfinished 1
      | b :: rest =>
        if !mayFollow a b then fail .badContinuation 1
        else
          match rest with
          | [] => fail .unfinished 2
          | c :: rest =>
            if !isContinuation c then fail .badContinuation 2
            else
              match decodeFrom (position + 3) rest with
              | .ok cs =>
                .ok (Char.ofNat
                  ((a.toNat - 0xe0) * 0x1000 + sixBits b * 0x40 + sixBits c) :: cs)
              | .error fault => .error fault
    else
      match rest with
      | [] => fail .unfinished 1
      | b :: rest =>
        if !mayFollow a b then fail .badContinuation 1
        else
          match rest with
          | [] => fail .unfinished 2
          | c :: rest =>
            if !isContinuation c then fail .badContinuation 2
            else
              match rest with
              | [] => fail .unfinished 3
              | d :: rest =>
                if !isContinuation d then fail .badContinuation 3
                else
                  match decodeFrom (position + 4) rest with
                  | .ok cs =>
                    .ok (Char.ofNat ((a.toNat - 0xf0) * 0x40000 + sixBits b * 0x1000 +
                      sixBits c * 0x40 + sixBits d) :: cs)
                  | .error fault => .error fault

/-- The characters that bytes denote. -/
def decodeUtf8 (bytes : List UInt8) : Except Utf8Fault (List Char) :=
  decodeFrom 0 bytes

/-- A byte in two hexadecimal digits. -/
def byteText (b : UInt8) : String :=
  String.ofList [Nat.digitChar (b.toNat / 16), Nat.digitChar (b.toNat % 16)]

/-- The wording of a fault. -/
def Utf8Fault.message (fault : Utf8Fault) : String :=
  let place :=
    if fault.stop = fault.first + 1 then
      s!"byte 0x{byteText fault.byte} in position {fault.first}"
    else s!"bytes in position {fault.first}-{fault.stop - 1}"
  s!"'utf-8' codec can't decode {place}: {fault.problem.message}"

end AudioPlan.Text
