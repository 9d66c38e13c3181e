import AudioPlan.Binary64.Places
import AudioPlan.Fault
import AudioPlan.Text.Case
import AudioPlan.Value.Basic

/-!
# Messages with places for arguments

A message may hold places, each introduced by a percent sign, into which arguments are put: in the
order in which they stand, or by their names if the only argument is a mapping.  A place says how
its argument is written: as text, as an integer, as a number with digits, or as one character.

* `Template.fill` puts arguments into a message;
* `recordSupply` is what the arguments of a record supply.
-/

namespace AudioPlan

namespace Template

/-- How an argument is written. -/
inductive Form where
  /-- As text by itself. -/
  | text
  /-- As messages show it. -/
  | shown
  /-- As messages show it, in plain characters. -/
  | plain
  | integer
  | inBase (base : Nat) (upper : Bool)
  | number (way : Binary64.Notation) (upper : Bool)
  | character
  deriving Repr, DecidableEq

/-- The form that a letter stands for. -/
def form? : Char → Option Form
  | 's' => some .text
  | 'r' => some .shown
  | 'a' => some .plain
  | 'd' | 'i' | 'u' => some .integer
  | 'o' => some (.inBase 8 false)
  | 'x' => some (.inBase 16 false)
  | 'X' => some (.inBase 16 true)
  | 'e' => some (.number .exponent false)
  | 'E' => some (.number .exponent true)
  | 'f' => some (.number .positional false)
  | 'F' => some (.number .positional true)
  | 'g' => some (.number .suited false)
  | 'G' => some (.number .suited true)
  | 'c' => some .character
  | _ => none

/-- What a place asks for beside its form. -/
structure Spec where
  leftJustified : Bool := false
  plusSign : Bool := false
  blankSign : Bool := false
  alternate : Bool := false
  zeros : Bool := false
  width : Nat := 0
  precision : Option Nat := none
  deriving Repr

/-! ## Arguments -/

/-- The arguments that are left. -/
structure Supply where
  /-- Arguments to be taken in order. -/
  queue : List Value
  /-- The argument whose parts have names. -/
  named : Option Value := none
  deriving Repr

/-- The supply of several arguments, of which none is looked into. -/
def Supply.ofList (arguments : List Value) : Supply := { queue := arguments }

/-- The supply of one argument, which may have parts. -/
def Supply.ofOne (v : Value) : Supply :=
  match v with
  | .map _ | .keyed _ | .list _ => { queue := [v], named := some v }
  | v => { queue := [v] }

/-- The next argument. -/
def Supply.next (s : Supply) : Except Fault (Value × Supply) :=
  match s.queue with
  | v :: rest => .ok (v, { s with queue := rest })
  | [] => .error .wrongKind

/-- Sets the next argument to the part of a name. -/
def Supply.select (s : Supply) (name : String) : Except Fault Supply :=
  match s.named with
  | some (.map entries) =>
    match entries.lookup name with
    | some v => .ok { s with queue := [v] }
    | none => .error .missingKey
  | some (.keyed entries) =>
    match entries.find? fun (key, _) => match key with | .text t => t == name | _ => false with
    | some (_, v) => .ok { s with queue := [v] }
    | none => .error .missingKey
  | _ => .error .wrongKind

/-- Whether an argument was left over that had to be used. -/
def Supply.isLeft (s : Supply) : Bool :=
  !s.queue.isEmpty && s.named.isNone

/-! ## Reading a place -/

/-- The name in parentheses whose opening one has been read; parentheses inside come in pairs. -/
def readName? (depth : Nat) : List Char → Option (List Char × List Char)
  | [] => none
  | c :: rest =>
    let going (depth : Nat) := (readName? depth rest).map fun (name, behind) => (c :: name, behind)
    if c = ')' then
      match depth with
      | 0 => some ([], rest)
      | depth + 1 => going depth
    else if c = '(' then going (depth + 1)
    else going depth

/-- The flags in front. -/
def readFlags (spec : Spec) : List Char → Spec × List Char
  | '-' :: rest => readFlags { spec with leftJustified := true } rest
  | '+' :: rest => readFlags { spec with plusSign := true } rest
  | ' ' :: rest => readFlags { spec with blankSign := true } rest
  | '#' :: rest => readFlags { spec with alternate := true } rest
  | '0' :: rest => readFlags { spec with zeros := true } rest
  | rest => (spec, rest)

/-- The greatest width. -/
def greatestWidth : Nat := 0x7fffffffffffffff

/-- The greatest precision. -/
def greatestPrecision : Nat := 0x7fffffff

/-- The integer that an argument gives for a width or a precision. -/
def sizeArgument (bound : Nat) (v : Value) : Except Fault Int :=
  match v.count? with
  | none => .error .wrongKind
  | some n => if bound < n.natAbs then .error .outOfRange else .ok n

/-- The width in front. -/
def readWidth (spec : Spec) (supply : Supply) (cs : List Char) :
    Except Fault (Spec × Supply × List Char) :=
  match cs with
  | '*' :: rest => do
    let (v, supply) ← supply.next
    let n ← sizeArgument greatestWidth v
    return ({ spec with width := n.natAbs, leftJustified := spec.leftJustified || n < 0 },
      supply, rest)
  | cs =>
    let n := Text.ofPlainDigits (cs.takeWhile Text.isPlainDigit)
    if greatestWidth < n then .error .badValue
    else .ok ({ spec with width := n }, supply, cs.dropWhile Text.isPlainDigit)

/-- The precision in front, if there is one. -/
def readPrecision (spec : Spec) (supply : Supply) (cs : List Char) :
    Except Fault (Spec × Supply × List Char) :=
  match cs with
  | '.' :: '*' :: rest => do
    let (v, supply) ← supply.next
    let n ← sizeArgument greatestPrecision v
    return ({ spec with precision := some n.toNat }, supply, rest)
  | '.' :: rest =>
    let n := Text.ofPlainDigits (rest.takeWhile Text.isPlainDigit)
    if greatestPrecision < n then .error .badValue
    else .ok ({ spec with precision := some n }, supply, rest.dropWhile Text.isPlainDigit)
  | cs => .ok (spec, supply, cs)

/-- The characters behind a length mark, which says nothing. -/
def skipLength : List Char → List Char
  | 'h' :: rest | 'l' :: rest | 'L' :: rest => rest
  | rest => rest

/-! ## Writing an argument -/

/-- A text and what is known about it: its sign and the mark of its base come first when it is
filled with zeros. -/
structure Written where
  sign : String := ""
  mark : String := ""
  body : String
  /-- Whether zeros may fill it. -/
  numeric : Bool := false
  deriving Repr

/-- The text at its width. -/
def Written.padded (spec : Spec) (w : Written) : String :=
  let fill := spec.width - (w.sign.length + w.mark.length + w.body.length)
  if spec.leftJustified then w.sign ++ w.mark ++ w.body ++ "".pushn ' ' fill
  else if spec.zeros && w.numeric then w.sign ++ w.mark ++ "".pushn '0' fill ++ w.body
  else "".pushn ' ' fill ++ w.sign ++ w.mark ++ w.body

/-- The sign that is written. -/
def signText (spec : Spec) (negative : Bool) : String :=
  if negative then "-" else if spec.plusSign then "+" else if spec.blankSign then " " else ""

/-- At most so many characters of a text. -/
def cut (precision : Option Nat) (s : String) : String :=
  match precision with
  | some n => String.ofList (s.toList.take n)
  | none => s

/-- A text in plain characters. -/
def plainText (s : String) : String :=
  String.ofList (s.toList.flatMap fun c => if c.toNat < 0x80 then [c] else Text.numbered c)

/-- The integer that a number stands for, its fraction dropped. -/
def integerOf : Value → Except Fault Int
  | .float .nan => .error .badValue
  | .float (.infinity _) => .error .outOfRange
  | .float x =>
    match x.truncate? with
    | some n => .ok n
    | none => .error .badValue
  | v =>
    match v.count? with
    | some n => .ok n
    | none => .error .wrongKind

/-- An integer with at least as many digits as its precision. -/
def writeInteger (spec : Spec) (mark : String) (negative : Bool) (digits : String) : Written :=
  { sign := signText spec negative
    mark := mark
    body := "".pushn '0' (spec.precision.getD 0 - digits.length) ++ digits
    numeric := true }

/-- The mark of a base. -/
def baseMark : Nat → String
  | 8 => "0o"
  | _ => "0x"

/-- The floating-point number that an argument stands for. -/
def floatOf (v : Value) : Except Fault Binary64 :=
  match v with
  | .float x => .ok x
  | v =>
    match v.count? with
    | none => .error .wrongKind
    | some n =>
      match Binary64.ofInt n with
      | .infinity _ => .error .outOfRange
      | x => .ok x

/-- A text with its sign apart. -/
def splitSign (s : String) : Bool × String :=
  match s.toList with
  | '-' :: rest => (true, String.ofList rest)
  | _ => (false, s)

/-- The character that an argument stands for. -/
def characterOf (v : Value) : Except Fault String :=
  match v with
  | .text s => if s.length = 1 then .ok s else .error .wrongKind
  | v =>
    match v.count? with
    | none => .error .wrongKind
    | some n =>
      if n < 0 || 0x110000 ≤ n then .error .outOfRange
      else .ok (String.singleton (Char.ofNat n.toNat))

/-- An argument in a form. -/
def write (spec : Spec) (form : Form) (v : Value) : Except Fault Written :=
  match form with
  | .text => do return { body := cut spec.precision (← v.written) }
  | .shown => do return { body := cut spec.precision (← v.ifFits v.shown) }
  | .plain => do return { body := cut spec.precision (plainText (← v.ifFits v.shown)) }
  | .integer => do
    let n ← integerOf v
    return writeInteger spec "" (n < 0) (← Text.writeInt n.natAbs)
  | .inBase base upper => do
    match v.count? with
    | none => throw .wrongKind
    | some n =>
      let cased (s : String) : String := if upper then s.toUpper else s
      let mark := if spec.alternate then cased (baseMark base) else ""
      return writeInteger spec mark (n < 0) (cased (String.ofList (Text.inBase base 1 n.natAbs)))
  | .number way upper => do
    let x ← floatOf v
    let text := x.withDigits way spec.alternate (spec.precision.getD 6)
    let (negative, body) := splitSign (if upper then text.toUpper else text)
    return { sign := signText spec negative, body := body, numeric := true }
  | .character => do
    return { body := ← characterOf v }

/-! ## Filling a message -/

/-- Reads the place behind a percent sign and writes its argument. -/
def place (supply : Supply) (cs : List Char) : Except Fault (String × Supply × List Char) := do
  let (supply, cs) ← match cs with
    | '(' :: rest =>
      if supply.named.isNone then throw Fault.wrongKind
      match readName? 0 rest with
      | none => throw Fault.badValue
      | some (name, rest) => do pure (← supply.select (String.ofList name), rest)
    | cs => pure (supply, cs)
  let (spec, cs) := readFlags {} cs
  let (spec, supply, cs) ← readWidth spec supply cs
  let (spec, supply, cs) ← readPrecision spec supply cs
  match skipLength cs with
  | [] => throw .badValue
  | letter :: rest =>
    let (v, supply) ← supply.next
    match form? letter with
    | none => throw .badValue
    | some form => return ((← write spec form v).padded spec, supply, rest)

/-- Fills the places of a message from left to right. -/
def fillFrom : (bound : Nat) → Supply → List Char → Except Fault (List Char)
  | 0, _, _ => .ok []
  | _ + 1, supply, [] => if supply.isLeft then .error .wrongKind else .ok []
  | bound + 1, supply, '%' :: '%' :: rest => do
    return '%' :: (← fillFrom bound supply rest)
  | bound + 1, supply, '%' :: rest => do
    let (text, supply, rest) ← place supply rest
    return text.toList ++ (← fillFrom bound supply rest)
  | bound + 1, supply, c :: rest => do
    return c :: (← fillFrom bound supply rest)

/-- A message with its places filled. -/
def fill (template : String) (supply : Supply) : Except Fault String :=
  (fillFrom (template.length + 1) supply template.toList).map String.ofList

end Template

/-- The supply that the arguments of a record make: one mapping that is not empty gives its
parts. -/
def recordSupply : List Value → Template.Supply
  | [v] =>
    match v with
    | .map (_ :: _) | .keyed (_ :: _) => .ofOne v
    | v => .ofList [v]
  | arguments => .ofList arguments

end AudioPlan
