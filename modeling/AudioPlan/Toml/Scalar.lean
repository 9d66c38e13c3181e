import AudioPlan.Binary64.Reader
import AudioPlan.Calendar.Timestamp
import AudioPlan.Text.Number
import AudioPlan.Text.Replace
import AudioPlan.Value.Basic

/-!
# Keys and scalars of TOML

Text in its four kinds of quotation, numbers, dates and times, and dotted keys.  Every reader takes
the characters that are left and returns what it read with those that it leaves; none means that
nothing of the kind stands there.  A reader of numbers says why it refuses (`Refusal`), because an
integer may be well written and still be too long.
-/

namespace AudioPlan.Toml

/-- Why a text is refused. -/
inductive Refusal where
  /-- The text breaks a rule. -/
  | malformed
  /-- A decimal integer has more digits than are taken. -/
  | tooManyDigits
  deriving Repr, DecidableEq

/-- What is not there breaks a rule. -/
instance : MonadLift Option (Except Refusal) where
  monadLift
    | some a => .ok a
    | none => .error .malformed

/-- Whether a character is white space within a line. -/
def isSpace (c : Char) : Bool :=
  c == ' ' || c == '\t'

/-- Whether a character is white space within a list. -/
def isListSpace (c : Char) : Bool :=
  isSpace c || c == '\n'

/-- The characters behind white space within a line. -/
def skipSpace (cs : List Char) : List Char :=
  cs.dropWhile isSpace

/-- Whether a character may not stand in a line as it is. -/
def isControl (c : Char) : Bool :=
  (c.toNat < 0x20 && c != '\t') || c.toNat = 0x7f

/-- Whether a character may not stand in a text of several lines as it is. -/
def isControlInLines (c : Char) : Bool :=
  isControl c && c != '\n'

/-! ## Text -/

/-- The characters up to the first occurrence of `mark`, which is skipped; none of them may be
forbidden. -/
def readUntil? (forbidden : Char → Bool) (mark : List Char) :
    List Char → Option (List Char × List Char)
  | [] => none
  | c :: rest =>
    match Text.dropFront? mark (c :: rest) with
    | some behind => some ([], behind)
    | none =>
      if forbidden c then none
      else (readUntil? forbidden mark rest).map fun (cs, behind) => (c :: cs, behind)

/-- The character that a one-letter escape stands for. -/
def letterEscape? : Char → Option Char
  | 'b' => some '\x08'
  | 't' => some '\t'
  | 'n' => some '\n'
  | 'f' => some '\x0c'
  | 'r' => some '\r'
  | '"' => some '"'
  | '\\' => some '\\'
  | _ => none

/-- The character whose code stands in front in `count` hexadecimal digits. -/
def readCode? (count : Nat) (cs : List Char) : Option (Char × List Char) := do
  if cs.length < count then none
  let n ← Text.ofBase? 16 (cs.take count)
  if h : n.isValidChar then some (Char.ofNatAux n h, cs.drop count) else none

/-- The characters that an escape behind its backslash stands for, and those behind it.  In a text
of several lines a backslash at the end of a line hides the white space up to the next character. -/
def readEscape? (lines : Bool) : List Char → Option (List Char × List Char)
  | [] => none
  | c :: rest =>
    if lines && isListSpace c then
      match if c = '\n' then c :: rest else skipSpace rest with
      | [] => some ([], [])
      | d :: behind => if d = '\n' then some ([], behind.dropWhile isListSpace) else none
    else if c = 'u' then (readCode? 4 rest).map fun (d, rest) => ([d], rest)
    else if c = 'U' then (readCode? 8 rest).map fun (d, rest) => ([d], rest)
    else (letterEscape? c).map fun d => ([d], rest)

/-- A text with escapes up to its closing mark. -/
def readEscaped? (lines : Bool) : (bound : Nat) → List Char → Option (List Char × List Char)
  | 0, _ => none
  | _ + 1, [] => none
  | bound + 1, c :: rest =>
    let going (front : List Char) (rest : List Char) : Option (List Char × List Char) :=
      (readEscaped? lines bound rest).map fun (cs, behind) => (front ++ cs, behind)
    if c = '"' then
      if !lines then some ([], rest)
      else
        match rest with
        | '"' :: '"' :: behind => some ([], behind)
        | rest => going ['"'] rest
    else if c = '\\' then do
      let (front, behind) ← readEscape? lines rest
      going front behind
    else if if lines then isControlInLines c else isControl c then none
    else going [c] rest

/-- Up to two quotation marks that stand before the closing three belong to the text. -/
def takeMarks (mark : Char) (text : List Char) : List Char → List Char × List Char
  | [] => (text, [])
  | [c] => if c = mark then (text ++ [mark], []) else (text, [c])
  | c :: d :: rest =>
    if c = mark then
      if d = mark then (text ++ [mark, mark], rest) else (text ++ [mark], d :: rest)
    else (text, c :: d :: rest)

/-- The characters behind a line end in front. -/
def skipLineEnd : List Char → List Char
  | '\n' :: rest => rest
  | rest => rest

/-- A text of one line whose opening mark is in front. -/
def readLine? : List Char → Option (List Char × List Char)
  | '"' :: rest => readEscaped? false (rest.length + 1) rest
  | '\'' :: rest => readUntil? isControl ['\''] rest
  | _ => none

/-- A text whose opening mark or marks are in front. -/
def readText? : List Char → Option (List Char × List Char)
  | '"' :: '"' :: '"' :: rest =>
    (readEscaped? true (rest.length + 1) (skipLineEnd rest)).map fun (cs, rest) =>
      takeMarks '"' cs rest
  | '\'' :: '\'' :: '\'' :: rest =>
    (readUntil? isControlInLines ['\'', '\'', '\''] (skipLineEnd rest)).map fun (cs, rest) =>
      takeMarks '\'' cs rest
  | cs => readLine? cs

/-! ## Keys -/

/-- Whether a character may stand in a key without quotation marks. -/
def isBareKey (c : Char) : Bool :=
  c.isAlphanum || c == '-' || c == '_'

/-- Whether a key may start with a character. -/
def startsKey (c : Char) : Bool :=
  isBareKey c || c == '"' || c == '\''

/-- One part of a key. -/
def readKeyPart? (cs : List Char) : Option (String × List Char) :=
  let bare := cs.takeWhile isBareKey
  if bare.isEmpty then (readLine? cs).map fun (part, rest) => (String.ofList part, rest)
  else some (String.ofList bare, cs.dropWhile isBareKey)

/-- The parts of a key between dots, with the white space behind it. -/
def readKey? : (bound : Nat) → List Char → Option (List String × List Char)
  | 0, _ => none
  | bound + 1, cs => do
    let (part, rest) ← readKeyPart? cs
    match skipSpace rest with
    | '.' :: rest =>
      let (parts, rest) ← readKey? bound (skipSpace rest)
      return (part :: parts, rest)
    | rest => return ([part], rest)

/-! ## Numbers -/

/-- Digits with single underscores between them. -/
def digitRun (isDigit : Char → Bool) : List Char → List Char × List Char
  | [] => ([], [])
  | '_' :: c :: rest =>
    if isDigit c then
      let (run, behind) := digitRun isDigit rest
      ('_' :: c :: run, behind)
    else ([], '_' :: c :: rest)
  | c :: rest =>
    if isDigit c then
      let (run, behind) := digitRun isDigit rest
      (c :: run, behind)
    else ([], c :: rest)

/-- Digits that start with a digit. -/
def readDigits? (isDigit : Char → Bool) : List Char → Option (List Char × List Char)
  | [] => none
  | c :: rest => if isDigit c then some (digitRun isDigit (c :: rest)) else none

/-- The bases with a mark of their own. -/
def basePrefix? : Char → Option Nat
  | 'x' => some 16
  | 'b' => some 2
  | 'o' => some 8
  | _ => none

/-- Whether a character is a digit of a base. -/
def isDigitOf (base : Nat) (c : Char) : Bool :=
  (Text.baseDigit? c).any (· < base)

/-- An integer in a base with a mark. -/
def readBased? : List Char → Option (Value × List Char)
  | '0' :: mark :: rest => do
    let base ← basePrefix? mark
    let (run, rest) ← readDigits? (isDigitOf base) rest
    let n ← Text.ofBase? base (run.filter (· != '_'))
    return (.int n, rest)
  | _ => none

/-- A sign that may be in front. -/
def readSign : List Char → List Char × List Char
  | '+' :: rest => (['+'], rest)
  | '-' :: rest => (['-'], rest)
  | rest => ([], rest)

/-- The whole digits of a decimal number; a leading zero stands alone. -/
def readWhole? : List Char → Option (List Char × List Char)
  | '0' :: rest => some (['0'], rest)
  | cs => readDigits? Text.isPlainDigit cs

/-- A fraction with its point, or nothing. -/
def readFraction (cs : List Char) : List Char × List Char :=
  match cs with
  | '.' :: rest =>
    match readDigits? Text.isPlainDigit rest with
    | some (run, rest) => ('.' :: run, rest)
    | none => ([], cs)
  | _ => ([], cs)

/-- An exponent with its mark, or nothing. -/
def readExponent (cs : List Char) : List Char × List Char :=
  match cs with
  | e :: rest =>
    if e = 'e' || e = 'E' then
      let (sign, behind) := readSign rest
      match readDigits? Text.isPlainDigit behind with
      | some (run, behind) => ('e' :: sign ++ run, behind)
      | none => ([], cs)
    else ([], cs)
  | [] => ([], [])

/-- A decimal number. -/
def readDecimal (cs : List Char) : Except Refusal (Value × List Char) := do
  let (sign, rest) := readSign cs
  let (whole, rest) ← readWhole? rest
  let (fraction, rest) := readFraction rest
  let (exponent, rest) := readExponent rest
  if fraction.isEmpty && exponent.isEmpty then
    if Text.digitLimit < (whole.filter (· != '_')).length then throw .tooManyDigits
    let n ← Text.readGrouped? whole
    return (.int (if sign = ['-'] then -n else n), rest)
  else
    let x ← Binary64.ofChars? (sign ++ whole ++ fraction ++ exponent)
    return (.float x, rest)

/-- The words for numbers that no digits denote. -/
def numberWords : List (List Char × Binary64) :=
  [("inf".toList, .infinity false), ("nan".toList, .nan), ("-inf".toList, .infinity true),
   ("+inf".toList, .infinity false), ("-nan".toList, .nan), ("+nan".toList, .nan)]

/-- A word for a number. -/
def readNumberWord? (cs : List Char) : Option (Value × List Char) :=
  numberWords.findSome? fun (word, x) => (Text.dropFront? word cs).map fun rest => (.float x, rest)

/-! ## Dates and times -/

/-- A number of exactly so many plain digits, between two bounds. -/
def readFixed? (count least most : Nat) (cs : List Char) : Option (Nat × List Char) :=
  let digits := cs.take count
  let n := Text.ofPlainDigits digits
  if digits.length = count && digits.all Text.isPlainDigit && least ≤ n && n ≤ most then
    some (n, cs.drop count)
  else none

/-- The characters behind one that must be there. -/
def expect? (c : Char) : List Char → Option (List Char)
  | d :: rest => if c = d then some rest else none
  | [] => none

/-- The microseconds of a fraction, of which six digits count. -/
def readMicroseconds (cs : List Char) : Nat × List Char :=
  match cs with
  | '.' :: rest =>
    let digits := rest.takeWhile Text.isPlainDigit
    let six := digits.take 6
    if digits.isEmpty then (0, cs)
    else (Text.ofPlainDigits six * Nat.pow 10 (6 - six.length), rest.dropWhile Text.isPlainDigit)
  | _ => (0, cs)

/-- A time of day without an offset. -/
def readClock? (cs : List Char) : Option (TimeOfDay × List Char) := do
  let (hour, rest) ← readFixed? 2 0 23 cs
  let (minute, rest) ← readFixed? 2 0 59 (← expect? ':' rest)
  let (second, rest) ← readFixed? 2 0 59 (← expect? ':' rest)
  let (microsecond, rest) := readMicroseconds rest
  return ({ hour, minute, second, microsecond }, rest)

/-- An offset in hours and minutes behind its sign. -/
def readOffset? (cs : List Char) : Option (Nat × List Char) := do
  let (hours, rest) ← readFixed? 2 0 23 cs
  let (minutes, rest) ← readFixed? 2 0 59 (← expect? ':' rest)
  return (60 * hours + minutes, rest)

/-- An offset, if one is in front. -/
def offset? (cs : List Char) : Option (Offset × List Char) :=
  match cs with
  | 'Z' :: rest | 'z' :: rest => some (.universal, rest)
  | '+' :: rest => (readOffset? rest).map fun (n, rest) => (.minutes n, rest)
  | '-' :: rest => (readOffset? rest).map fun (n, rest) => (.minutes (-n), rest)
  | _ => none

/-- A time behind the mark that parts it from a date. -/
def readTimePart? : List Char → Option (TimeOfDay × List Char)
  | c :: rest => do
    if c != 'T' && c != 't' && c != ' ' then none
    let (time, rest) ← readClock? rest
    match offset? rest with
    | some (offset, rest) => return ({ time with offset := some offset }, rest)
    | none => return (time, rest)
  | [] => none

/-- A date, possibly with a time. -/
def readTimestamp? (cs : List Char) : Option (Timestamp × List Char) := do
  let (year, rest) ← readFixed? 4 0 9999 cs
  let (month, rest) ← readFixed? 2 1 12 (← expect? '-' rest)
  let (day, rest) ← readFixed? 2 1 31 (← expect? '-' rest)
  match readTimePart? rest with
  | some (time, rest) => return ({ year, month, day, time := some time }, rest)
  | none => return ({ year, month, day }, rest)

/-- A date or a time of day.  A date that there is not is refused. -/
def readMoment? (cs : List Char) : Option (Option Value × List Char) :=
  match readTimestamp? cs with
  | some (t, rest) => some (if t.exists? then some (.other t.kind t.shown) else none, rest)
  | none =>
    (readClock? cs).map fun (time, rest) => (some (.other "time" (Timestamp.shownClock time)), rest)

/-- A number in digits or as a word. -/
def readNumber (cs : List Char) : Except Refusal (Value × List Char) :=
  match readBased? cs with
  | some read => .ok read
  | none =>
    match readDecimal cs with
    | .error .malformed => liftM (readNumberWord? cs)
    | read => read

/-- A truth value, a date, a time or a number. -/
def readScalar (cs : List Char) : Except Refusal (Value × List Char) :=
  match Text.dropFront? "true".toList cs, Text.dropFront? "false".toList cs with
  | some rest, _ => .ok (.bool true, rest)
  | _, some rest => .ok (.bool false, rest)
  | none, none =>
    match readMoment? cs with
    | some (v?, rest) => liftM (v?.map fun v => (v, rest))
    | none => readNumber cs

end AudioPlan.Toml
