import AudioPlan.Regex.Reader
import AudioPlan.Text.Case
import AudioPlan.Text.Word

/-!
# Regular expressions ready for matching

An expression with its switches worked into it: every item that stands for one character has become
a test, anchors know their switches, and looks behind know how far they reach.
-/

namespace AudioPlan.Regex

/-- How letters are compared. -/
inductive CaseMode where
  /-- As they stand. -/
  | exact
  /-- Without regard to the case of plain letters. -/
  | plainLetters
  /-- Without regard to the case of any letter. -/
  | allLetters
  deriving Repr, DecidableEq

/-- How letters are compared under some switches. -/
def Flags.caseMode (flags : Flags) : CaseMode :=
  if !flags.ignoreCase then .exact
  else if flags.unicode then .allLetters
  else .plainLetters

/-- The first character of the lower case of a code point, and of its upper case. -/
def simpleCase (map : Char → List Char) (n : Nat) : Nat :=
  if h : n.isValidChar then
    match map (Char.ofNatAux n h) with
    | c :: _ => c.toNat
    | [] => n
  else n

namespace CaseMode

/-- The lower-case letter that a code point is compared as. -/
def lower : CaseMode → Nat → Nat
  | .exact, n => n
  | .plainLetters, n => if 0x41 ≤ n && n ≤ 0x5a then n + 0x20 else n
  | .allLetters, n => simpleCase Text.Case.lowerChar n

/-- Whether a code point has another case. -/
def isCased : CaseMode → Nat → Bool
  | .exact, _ => false
  | .plainLetters, n => (0x41 ≤ n && n ≤ 0x5a) || (0x61 ≤ n && n ≤ 0x7a)
  | .allLetters, n =>
    simpleCase Text.Case.lowerChar n != n || simpleCase Text.Case.upperChar n != n

/-- The lower-case letters that count as the same as a lower-case letter. -/
def same (mode : CaseMode) (n : Nat) : List Nat :=
  match mode with
  | .allLetters => ((Text.Case.sameUpper.find? (·.contains n)).getD [n])
  | _ => [n]

end CaseMode

/-- Whether a character belongs to a class, in plain characters only or in all scripts. -/
def CharClass.holds (ascii : Bool) (n : Nat) : CharClass → Bool
  | .digit => if ascii then 0x30 ≤ n && n ≤ 0x39 else Text.isDigit (Char.ofNat n)
  | .space => if ascii then n == 0x20 || (9 ≤ n && n ≤ 13) else Text.isBlank (Char.ofNat n)
  | .word =>
    if ascii then Text.isPlainDigit (Char.ofNat n) || isPlainLetter (Char.ofNat n) || n == 0x5f
    else Text.isWord (Char.ofNat n)

/-- The greatest code point of the basic plane. -/
def lastBasic : Nat := 0xffff

/-- The code points of the basic plane whose lower case is a given lower-case letter. -/
def CaseMode.basicForms (mode : CaseMode) (n : Nat) : List Nat :=
  let others := match mode with
    | .exact => []
    | .plainLetters => if 0x61 ≤ n && n ≤ 0x7a then [n - 0x20] else []
    | .allLetters =>
      (Text.Case.lowerRuns.filterMap fun run =>
        let back := ((n : Int) - run.shift).toNat
        if run.covers back then some back else none) ++
      (Text.Case.lowerSeveral.filterMap fun (back, codes) =>
        if codes.head? == some n then some back else none)
  (n :: others).filter (· ≤ lastBasic)

/-- Whether an item of a set holds for a code point that has been put in lower case.

Letters of the set are compared by their lower case and by what counts as the same; beyond the basic
plane a single character stands for itself, and a range for what it covers in either case. -/
def SetItem.holds (mode : CaseMode) (ascii : Bool) (n : Nat) : SetItem → Bool
  | .code c =>
    if mode == .exact || lastBasic < c then n == c else (mode.same (mode.lower c)).contains n
  | .range first last =>
    let covers (m : Nat) : Bool := first ≤ m && m ≤ last
    if mode == .exact then covers n
    else
      (mode.same n).any (fun m => (mode.basicForms m).any covers) ||
        (lastBasic < last && (covers n || covers (simpleCase Text.Case.upperChar n)))
  | .inClass c => c.holds ascii n
  | .notInClass c => !c.holds ascii n

/-- An expression ready for matching. -/
inductive Program where
  | nothing
  | one (accepts : Char → Bool)
  | anchor (a : Anchor) (flags : Flags)
  | both (first second : Program)
  | either (first second : Program)
  | fail
  | capture (group : Nat) (body : Program)
  | atomic (body : Program)
  | repeated (greed : Greed) (least : Nat) (most : Option Nat) (body : Program)
  | look (back : Option Nat) (negative : Bool) (body : Program)
  | sameAs (group : Nat) (mode : CaseMode)
  | ifGroup (group : Nat) (present absent : Program)

/-- The test for one code point. -/
def codeTest (mode : CaseMode) (code : Nat) (c : Char) : Bool :=
  if mode.isCased code then (mode.same (mode.lower code)).contains (mode.lower c.toNat)
  else c.toNat == code

/-- The test for a set. -/
def setTest (mode : CaseMode) (ascii negated : Bool) (items : List SetItem) (c : Char) : Bool :=
  (items.any fun item => item.holds mode ascii (mode.lower c.toNat)) != negated

/-- Whether an item of a set stands for a letter that has another case. -/
def SetItem.isCased (mode : CaseMode) : SetItem → Bool
  | .code n => mode.isCased n
  | .range first last =>
    lastBasic < last || (List.range' first (last + 1 - first)).any mode.isCased
  | .inClass _ | .notInClass _ => false

mutual

/-- Whether a match of a node may start with a character.

A set in front is looked for in the alphabet of the whole expression (`outer`) before it is matched
in the alphabet of its own part, so its character has to belong to it in both.  A set with letters
that are compared without regard to case is not looked for. -/
def Node.mayStart (outer flags : Flags) (c : Char) : Node → Bool
  | .group _ added removed body => sequenceMayStart outer (flags.inside added removed) c body
  | .set negated items =>
    flags.ascii == outer.ascii ||
      (flags.ignoreCase && items.any (SetItem.isCased flags.caseMode)) ||
      setTest .exact outer.ascii negated items c
  | _ => true

/-- Whether a match of a sequence may start with a character, which its first node decides. -/
def sequenceMayStart (outer flags : Flags) (c : Char) : List Node → Bool
  | node :: _ => node.mayStart outer flags c
  | [] => true

end

/-- The distance that a look behind goes back, which must be the same for all it can match. -/
def behindWidth (width : Nat × Nat) : Except Refusal Nat :=
  if 4294967295 < width.1 then .error (.problem .tooFarBehind none)
  else if width.1 = width.2 then .ok width.1
  else .error (.problem .variableBehind none)

/-- The name of a repetition in the one message that gives it. -/
def Greed.operator : Greed → String
  | .greedy => "MAX_REPEAT"
  | .lazy => "MIN_REPEAT"
  | .possessive => "POSSESSIVE_REPEAT"

mutual

/-- A node with its switches worked in. -/
def Node.compile (widthOf : Nat → Nat × Nat) (flags : Flags) : Node → Except Refusal Program
  | .code n => .ok (.one (codeTest flags.caseMode n))
  | .notCode n => .ok (.one fun c => !codeTest flags.caseMode n c)
  | .any => .ok (.one fun c => flags.dotAll || c != '\n')
  | .set negated items => .ok (.one (setTest flags.caseMode flags.ascii negated items))
  | .anchor a => .ok (.anchor a flags)
  | .group index added removed body => do
    let body ← compileSequence widthOf (flags.inside added removed) body
    return match index with
      | some group => .capture group body
      | none => body
  | .atomic body => return .atomic (← compileSequence widthOf flags body)
  | .repeated greed least most body => do
    if flags.template then throw (.problem (.templateRepeat greed.operator) none)
    return .repeated greed least most (← compileSequence widthOf flags body)
  | .branch alternatives => compileBranch widthOf flags alternatives
  | .look behind negative body => do
    let back ← if behind then some <$> behindWidth (sequenceWidth widthOf body) else pure none
    return .look back negative (← compileSequence widthOf flags body)
  | .sameAs group => .ok (.sameAs group flags.caseMode)
  | .ifGroup group present absent => do
    let present ← compileSequence widthOf flags present
    let absent ← compileSequence widthOf flags absent
    return .ifGroup group present absent

/-- A sequence with its switches worked in. -/
def compileSequence (widthOf : Nat → Nat × Nat) (flags : Flags) :
    List Node → Except Refusal Program
  | [] => .ok .nothing
  | node :: rest => do
    let first ← node.compile widthOf flags
    let rest ← compileSequence widthOf flags rest
    return .both first rest

/-- Alternatives with their switches worked in. -/
def compileBranch (widthOf : Nat → Nat × Nat) (flags : Flags) :
    List (List Node) → Except Refusal Program
  | [] => .ok .fail
  | first :: rest => do
    let first ← compileSequence widthOf flags first
    let rest ← compileBranch widthOf flags rest
    return .either first rest

end

end AudioPlan.Regex
