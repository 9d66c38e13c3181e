import AudioPlan.Text.Number
import AudioPlan.Value.Basic

/-!
# Reading JSON

A reader for JSON text that also takes the words for not-a-number and the infinities.  Integers are
unbounded and kept apart from floating-point numbers; a repeated key keeps its first place and its
last value.

Every reader takes the characters that are left and returns those that it leaves.  A failure is
recorded with the number of characters that were left at the faulty place, from which `read` finds
its position.  The bound that the nested readers count down is the length of the text, which no
value can exceed.
-/

namespace AudioPlan.Json

/-- What can be wrong with a JSON text. -/
inductive Problem where
  | byteOrderMark
  | expectingValue
  | expectingName
  | expectingColon
  | expectingComma
  | unterminatedText
  | controlCharacter
  | badEscape
  | badCodeEscape
  | extraData
  deriving Repr, DecidableEq

/-- The wording of a problem. -/
def Problem.message : Problem → String
  | .byteOrderMark => "Unexpected UTF-8 BOM (decode using utf-8-sig)"
  | .expectingValue => "Expecting value"
  | .expectingName => "Expecting property name enclosed in double quotes"
  | .expectingColon => "Expecting ':' delimiter"
  | .expectingComma => "Expecting ',' delimiter"
  | .unterminatedText => "Unterminated string starting at"
  | .controlCharacter => "Invalid control character at"
  | .badEscape => "Invalid \\escape"
  | .badCodeEscape => "Invalid \\uXXXX escape"
  | .extraData => "Extra data"

/-- A problem and the number of characters left where it was met. -/
structure Fault where
  problem : Problem
  left : Nat
  deriving Repr, DecidableEq

/-- Fails at the front of the characters. -/
def failAt {α : Type} (problem : Problem) (cs : List Char) : Except Fault α :=
  .error ⟨problem, cs.length⟩

/-- Whether JSON allows a character between tokens. -/
def isSpace (c : Char) : Bool :=
  c == ' ' || c == '\t' || c == '\n' || c == '\r'

/-- The characters behind the white space. -/
def skipSpace (cs : List Char) : List Char :=
  cs.dropWhile isSpace

/-- The characters behind a word, if they start with it. -/
def dropWord? : List Char → List Char → Option (List Char)
  | [], cs => some cs
  | _ :: _, [] => none
  | w :: ws, c :: cs => if w = c then dropWord? ws cs else none

/-! ## Text -/

/-- The code that four hexadecimal digits denote, if at least one character follows them. -/
def readCode (cs : List Char) : Option (Nat × List Char) :=
  match cs with
  | a :: b :: c :: d :: next :: rest =>
    (Text.ofBase? 16 [a, b, c, d]).map fun n => (n, next :: rest)
  | _ => none

/-- The character that a one-letter escape stands for. -/
def letterEscape? : Char → Option Char
  | '"' => some '"'
  | '\\' => some '\\'
  | '/' => some '/'
  | 'b' => some '\x08'
  | 'f' => some '\x0c'
  | 'n' => some '\n'
  | 'r' => some '\r'
  | 't' => some '\t'
  | _ => none

/-- One code of a text that starts `start` characters from the end: a character as it stands or an
escape.  Codes of two halves of a character come one at a time. -/
def readUnit (start : Nat) : List Char → Except Fault (Nat × List Char)
  | [] => .error ⟨.unterminatedText, start⟩
  | '\\' :: [] => .error ⟨.unterminatedText, start⟩
  | '\\' :: 'u' :: rest =>
    match readCode rest with
    | some (n, rest) => .ok (n, rest)
    | none => failAt .badCodeEscape ('u' :: rest)
  | '\\' :: c :: rest =>
    match letterEscape? c with
    | some e => .ok (e.toNat, rest)
    | none => failAt .badEscape ('\\' :: c :: rest)
  | c :: rest =>
    if c.toNat < 0x20 then failAt .controlCharacter (c :: rest) else .ok (c.toNat, rest)

/-- The codes up to the closing quotation mark. -/
def readUnits (start : Nat) : (bound : Nat) → List Char → Except Fault (List Nat × List Char)
  | 0, _ => .error ⟨.unterminatedText, start⟩
  | _ + 1, '"' :: rest => .ok ([], rest)
  | bound + 1, cs => do
    let (n, rest) ← readUnit start cs
    let (ns, rest) ← readUnits start bound rest
    return (n :: ns, rest)

/-- Whether a code is the first half of a character. -/
def isHighHalf (n : Nat) : Bool := 0xd800 ≤ n && n < 0xdc00

/-- Whether a code is the second half of a character. -/
def isLowHalf (n : Nat) : Bool := 0xdc00 ≤ n && n < 0xe000

/-- The characters that codes denote.  A first and a second half side by side are one character; a
half by itself is shown as the replacement character. -/
def joinHalves : List Nat → List Char
  | [] => []
  | [n] => [if isHighHalf n || isLowHalf n then '\ufffd' else Char.ofNat n]
  | n :: m :: rest =>
    if isHighHalf n && isLowHalf m then
      Char.ofNat (0x10000 + (n - 0xd800) * 0x400 + (m - 0xdc00)) :: joinHalves rest
    else
      (if isHighHalf n || isLowHalf n then '\ufffd' else Char.ofNat n) :: joinHalves (m :: rest)

/-- A text whose opening quotation mark has been read. -/
def readText (cs : List Char) : Except Fault (String × List Char) := do
  let (units, rest) ← readUnits (cs.length + 1) (cs.length + 1) cs
  return (String.ofList (joinHalves units), rest)

/-! ## Numbers -/

/-- The plain digits in front, and the rest. -/
def spanDigits (cs : List Char) : List Char × List Char :=
  (cs.takeWhile Text.isPlainDigit, cs.dropWhile Text.isPlainDigit)

/-- The digits behind a decimal point, if a point with digits is in front. -/
def readFraction (cs : List Char) : Option (List Char × List Char) :=
  match cs with
  | '.' :: rest => if (spanDigits rest).1.isEmpty then none else some (spanDigits rest)
  | _ => none

/-- The exponent in front, if there is a complete one. -/
def readExponent (cs : List Char) : Option (Int × List Char) :=
  let digits (negative : Bool) (rest : List Char) : Option (Int × List Char) :=
    let (ds, rest) := spanDigits rest
    if ds.isEmpty then none else some (Binary64.signed negative (Text.ofPlainDigits ds), rest)
  match cs with
  | e :: rest =>
    if e == 'e' || e == 'E' then
      match rest with
      | '-' :: rest => digits true rest
      | '+' :: rest => digits false rest
      | rest => digits false rest
    else none
  | [] => none

/-- The number with the given sign, whole digits and whatever follows them. -/
def readTail (negative : Bool) (whole : List Char) (cs : List Char) : Value × List Char :=
  match readFraction cs, readExponent cs with
  | some (fraction, rest), _ =>
    let (e, rest) := (readExponent rest).getD (0, rest)
    (.float (Binary64.ofDecimal negative (Text.ofPlainDigits (whole ++ fraction))
      (e - fraction.length)), rest)
  | none, some (e, rest) =>
    (.float (Binary64.ofDecimal negative (Text.ofPlainDigits whole) e), rest)
  | none, none => (.int (Binary64.signed negative (Text.ofPlainDigits whole)), cs)

/-- A number behind its sign, if one is there.  A leading zero stands alone. -/
def readUnsigned (negative : Bool) (cs : List Char) : Option (Value × List Char) :=
  match cs with
  | '0' :: rest => some (readTail negative ['0'] rest)
  | _ =>
    let (whole, rest) := spanDigits cs
    if whole.isEmpty then none else some (readTail negative whole rest)

/-- A number, if one is there. -/
def readNumber (cs : List Char) : Option (Value × List Char) :=
  match cs with
  | '-' :: rest => readUnsigned true rest
  | cs => readUnsigned false cs

/-! ## Values -/

/-- The words of JSON and what they stand for. -/
def words : List (List Char × Value) :=
  [("null".toList, .null), ("true".toList, .bool true), ("false".toList, .bool false),
   ("NaN".toList, .float .nan), ("Infinity".toList, .float (.infinity false)),
   ("-Infinity".toList, .float (.infinity true))]

/-- The value of the word in front. -/
def readWord (cs : List Char) : Option (Value × List Char) :=
  words.findSome? fun (word, value) => (dropWord? word cs).map fun rest => (value, rest)

/-- A word or a number. -/
def readScalar (cs : List Char) : Except Fault (Value × List Char) :=
  match readWord cs with
  | some reading => .ok reading
  | none =>
    match readNumber cs with
    | some reading => .ok reading
    | none => failAt .expectingValue cs

mutual

/-- The value in front. -/
def readValue : (bound : Nat) → List Char → Except Fault (Value × List Char)
  | 0, cs => failAt .expectingValue cs
  | bound + 1, cs =>
    match cs with
    | '"' :: rest => do
      let (s, rest) ← readText rest
      return (.text s, rest)
    | '[' :: rest =>
      match skipSpace rest with
      | ']' :: rest => .ok (.list [], rest)
      | rest => do
        let (items, rest) ← readItems bound rest
        return (.list items, rest)
    | '{' :: rest =>
      match skipSpace rest with
      | '}' :: rest => .ok (.map [], rest)
      | rest => do
        let (entries, rest) ← readEntries bound rest
        return (.map (ofEntries entries), rest)
    | cs => readScalar cs

/-- The items of a list that is not empty, up to its end. -/
def readItems : (bound : Nat) → List Char → Except Fault (List Value × List Char)
  | 0, cs => failAt .expectingValue cs
  | bound + 1, cs => do
    let (v, rest) ← readValue bound cs
    match skipSpace rest with
    | ']' :: rest => return ([v], rest)
    | ',' :: rest =>
      let (vs, rest) ← readItems bound (skipSpace rest)
      return (v :: vs, rest)
    | rest => failAt .expectingComma rest

/-- The entries of a mapping that is not empty, up to its end. -/
def readEntries : (bound : Nat) → List Char → Except Fault (List (String × Value) × List Char)
  | 0, cs => failAt .expectingName cs
  | bound + 1, cs =>
    match cs with
    | '"' :: rest => do
      let (key, rest) ← readText rest
      match skipSpace rest with
      | ':' :: rest =>
        let (v, rest) ← readValue bound (skipSpace rest)
        match skipSpace rest with
        | '}' :: rest => return ([(key, v)], rest)
        | ',' :: rest =>
          let (entries, rest) ← readEntries bound (skipSpace rest)
          return ((key, v) :: entries, rest)
        | rest => failAt .expectingComma rest
      | rest => failAt .expectingColon rest
    | cs => failAt .expectingName cs

end

/-- A whole text: one value with white space around it. -/
def readAll (cs : List Char) : Except Fault Value :=
  match cs with
  | '\ufeff' :: _ => failAt .byteOrderMark cs
  | _ => do
    let (v, rest) ← readValue (cs.length + 1) (skipSpace cs)
    match skipSpace rest with
    | [] => return v
    | rest => failAt .extraData rest

/-- A problem with its place: characters before it, and line and column counted from one. -/
structure SyntaxError where
  problem : Problem
  offset : Nat
  line : Nat
  column : Nat
  deriving Repr, DecidableEq

/-- The place of a fault in a text. -/
def Fault.locate (fault : Fault) (cs : List Char) : SyntaxError :=
  let offset := cs.length - fault.left
  let before := cs.take offset
  { problem := fault.problem
    offset := offset
    line := before.count '\n' + 1
    column := (before.reverse.takeWhile (· != '\n')).length + 1 }

/-- The wording of an error. -/
def SyntaxError.message (e : SyntaxError) : String :=
  s!"{e.problem.message}: line {e.line} column {e.column} (char {e.offset})"

/-- The value that a JSON text denotes. -/
def read (s : String) : Except SyntaxError Value :=
  (readAll s.toList).mapError fun fault => fault.locate s.toList

end AudioPlan.Json
