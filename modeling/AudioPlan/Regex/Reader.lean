import AudioPlan.Regex.Problem
import AudioPlan.Regex.Syntax
import AudioPlan.Text.CharacterName
import AudioPlan.Text.Identifier

/-!
# Reading regular expressions

The reader goes through the expression token by token, a token being a character or a backslash with
the character behind it, and always holds one token in advance.  It keeps the groups opened and
closed so far, because references are checked where they stand.  Problems carry the offset that
messages show.

The bound that the nested readers count down is a multiple of the length of the expression; every
round reads at least one token.
-/

namespace AudioPlan.Regex

/-- The token held in advance and the characters behind it. -/
structure Cursor where
  next : Option (List Char)
  rest : List Char

/-- What the reader knows while it goes through an expression. -/
structure Progress where
  cursor : Cursor
  /-- The length of the expression. -/
  total : Nat
  flags : Flags := {}
  /-- Names of groups and their numbers. -/
  names : List (String × Nat) := []
  /-- The widths of the groups so far; none while a group is open. -/
  widths : List (Option (Nat × Nat)) := []
  /-- The number of groups known when the outermost look behind began. -/
  behindFrom : Option Nat := none
  /-- Groups asked for by number in conditions, with the place of the first mention. -/
  asked : List (Nat × Nat) := []

/-- Readers pass the progress on and stop at the first problem. -/
abbrev ReadM := StateT Progress (Except Refusal)

namespace Progress

/-- The number of groups, the whole expression included. -/
def groupCount (p : Progress) : Nat :=
  p.widths.length + 1

/-- The offset of the token held in advance. -/
def offset (p : Progress) : Nat :=
  p.total - p.cursor.rest.length - (p.cursor.next.getD []).length

/-- Whether a group has been closed. -/
def isClosed (p : Progress) (group : Nat) : Bool :=
  match group with
  | 0 => false
  | n + 1 => ((p.widths[n]?).join).isSome

/-- The widths of a closed group. -/
def widthOf (p : Progress) (group : Nat) : Nat × Nat :=
  match group with
  | 0 => (0, 0)
  | n + 1 => ((p.widths[n]?).join).getD (0, 0)

end Progress

/-- The next token of the characters that are left. -/
def Cursor.ofRest (total : Nat) : List Char → Except Refusal Cursor
  | [] => .ok ⟨none, []⟩
  | ['\\'] => .error (.problem .escapeAtEnd (some (total - 1)))
  | '\\' :: c :: rest => .ok ⟨some ['\\', c], rest⟩
  | c :: rest => .ok ⟨some [c], rest⟩

/-- Stops with a problem `back` characters before the token held in advance. -/
def refuse {α : Type} (problem : Problem) (back : Nat := 0) : ReadM α := do
  throw (.problem problem (some ((← get).offset - back)))

/-- The token held in advance. -/
def peek : ReadM (Option (List Char)) := do
  return (← get).cursor.next

/-- Takes the token held in advance. -/
def take : ReadM (Option (List Char)) := do
  let p ← get
  let cursor ← Cursor.ofRest p.total p.cursor.rest
  set { p with cursor }
  return p.cursor.next

/-- Takes the token held in advance if it is the given character. -/
def takeIf (c : Char) : ReadM Bool := do
  if (← peek) == some [c] then
    let _ ← take
    return true
  return false

/-- The single character of a token. -/
def single? : Option (List Char) → Option Char
  | some [c] => some c
  | _ => none

/-- Takes at most `count` tokens that are characters of a class. -/
def takeWhile (allowed : Char → Bool) : (count : Nat) → ReadM (List Char)
  | 0 => return []
  | count + 1 => do
    match single? (← peek) with
    | some c =>
      if allowed c then
        let _ ← take
        return c :: (← takeWhile allowed count)
      else return []
    | none => return []

/-- Takes the tokens up to a terminator, which is taken as well. -/
def takeUntil (terminator : Char) (what : String) : (bound : Nat) → List Char → ReadM (List Char)
  | 0, name => return name
  | bound + 1, name => do
    match ← take with
    | none =>
      if name.isEmpty then refuse (.missingName what)
      else refuse (.unterminatedName (String.singleton terminator)) name.length
    | some token =>
      if token == [terminator] then
        if name.isEmpty then refuse (.missingName what) 1 else return name
      else takeUntil terminator what bound (name ++ token)

/-- Takes the name up to a terminator. -/
def takeName (terminator : Char) (what : String) : ReadM (List Char) := do
  takeUntil terminator what ((← get).total + 1) []

/-- Whether a character is an octal digit. -/
def isOctal (c : Char) : Bool := '0' ≤ c && c ≤ '7'

/-- Whether a character is a hexadecimal digit. -/
def isHex (c : Char) : Bool :=
  Text.isPlainDigit c || ('a' ≤ c && c ≤ 'f') || ('A' ≤ c && c ≤ 'F')

/-- Whether a character is a plain letter. -/
def isPlainLetter (c : Char) : Bool :=
  ('a' ≤ c && c ≤ 'z') || ('A' ≤ c && c ≤ 'Z')

/-- The number that hexadecimal or octal digits denote. -/
def inBase (base : Nat) (cs : List Char) : Nat :=
  (Text.ofBase? base cs).getD 0

/-! ## Escapes -/

/-- The code of a hexadecimal escape with exactly `count` digits. -/
def readHex (letter : Char) (count : Nat) : ReadM Nat := do
  let digits ← takeWhile isHex count
  let escape := '\\' :: letter :: digits
  if digits.length != count then
    refuse (.incompleteEscape (String.ofList escape)) escape.length
  let n := inBase 16 digits
  if 0x10ffff < n then refuse (.badEscape (String.ofList escape)) escape.length
  return n

/-- The code of a character given by its name. -/
def readNamed : ReadM Nat := do
  unless ← takeIf '{' do refuse .missingBrace
  let name ← takeName '}' "character name"
  match Text.namedCharacter? (String.ofList name) with
  | some n => return n
  | none => refuse (.unknownCharacterName (String.ofList name)) (name.length + 4)

/-- The code that a one-letter escape stands for in every place. -/
def letterCode? : Char → Option Nat
  | 'a' => some 7
  | 'b' => some 8
  | 'f' => some 12
  | 'n' => some 10
  | 'r' => some 13
  | 't' => some 9
  | 'v' => some 11
  | '\\' => some 92
  | _ => none

/-- The class that an escape names. -/
def classItem? : Char → Option SetItem
  | 'd' => some (.inClass .digit)
  | 'D' => some (.notInClass .digit)
  | 's' => some (.inClass .space)
  | 'S' => some (.notInClass .space)
  | 'w' => some (.inClass .word)
  | 'W' => some (.notInClass .word)
  | _ => none

/-- The anchor that an escape names. -/
def anchor? : Char → Option Anchor
  | 'A' => some .textStart
  | 'Z' => some .textEnd
  | 'b' => some .boundary
  | 'B' => some .notBoundary
  | _ => none

/-- The code of an escape for any other character, which must not be a letter. -/
def readPlainEscape (c : Char) : ReadM Nat := do
  if isPlainLetter c then refuse (.badEscape (String.ofList ['\\', c])) 2
  return c.toNat

/-- The code of an octal escape, which must not be beyond the first 256 codes. -/
def octalCode (digits : List Char) : ReadM Nat := do
  let n := inBase 8 digits
  if 0o377 < n then
    refuse (.octalTooLarge (String.ofList ('\\' :: digits))) (digits.length + 1)
  return n

/-- An escape inside a set, whose backslash and character have been taken. -/
def readSetEscape (c : Char) : ReadM SetItem := do
  if let some n := letterCode? c then return .code n
  if let some item := classItem? c then return item
  if c == 'x' then return .code (← readHex c 2)
  if c == 'u' then return .code (← readHex c 4)
  if c == 'U' then return .code (← readHex c 8)
  if c == 'N' then return .code (← readNamed)
  if isOctal c then
    let more ← takeWhile isOctal 2
    return .code (← octalCode (c :: more))
  if Text.isPlainDigit c then refuse (.badEscape (String.ofList ['\\', c])) 2
  return .code (← readPlainEscape c)

/-- Checks that a reference inside a look behind does not reach into it. -/
def checkBehind (group : Nat) : ReadM Unit := do
  let p ← get
  if let some first := p.behindFrom then
    unless p.isClosed group do refuse .openGroup
    if first ≤ group then refuse .groupBehind

/-- A reference to a group by its digits. -/
def readReference (digits : List Char) : ReadM Node := do
  let p ← get
  let group := Text.ofPlainDigits digits
  if group < p.groupCount then
    unless p.isClosed group do refuse .openGroup (digits.length + 1)
    checkBehind group
    return .sameAs group
  refuse (.invalidGroup group) digits.length

/-- An escape that starts with a digit other than zero: three octal digits are a code, anything else
refers to a group. -/
def readDigits (c : Char) : ReadM Node := do
  match single? (← peek) with
  | some d =>
    if Text.isPlainDigit d then
      let _ ← take
      match isOctal c && isOctal d, single? (← peek) with
      | true, some e =>
        if isOctal e then
          let _ ← take
          return .code (← octalCode [c, d, e])
        else readReference [c, d]
      | _, _ => readReference [c, d]
    else readReference [c]
  | none => readReference [c]

/-- An escape outside sets, whose backslash and character have been taken. -/
def readEscape (c : Char) : ReadM Node := do
  if let some a := anchor? c then return .anchor a
  if let some item := classItem? c then return .set false [item]
  if let some n := letterCode? c then return .code n
  if c == 'x' then return .code (← readHex c 2)
  if c == 'u' then return .code (← readHex c 4)
  if c == 'U' then return .code (← readHex c 8)
  if c == 'N' then return .code (← readNamed)
  if c == '0' then
    let more ← takeWhile isOctal 2
    return .code (inBase 8 (c :: more))
  if Text.isPlainDigit c then return ← readDigits c
  return .code (← readPlainEscape c)

/-! ## Sets -/

/-- The item that a token stands for inside a set. -/
def readSetToken : List Char → ReadM SetItem
  | ['\\', c] => readSetEscape c
  | c :: _ => return .code c.toNat
  | [] => return .code 0

/-- The items of a set behind those already read, up to the closing bracket. -/
def readSetItems (start : Nat) : (bound : Nat) → List SetItem → ReadM (List SetItem)
  | 0, items => return items
  | bound + 1, items => do
    let unterminated {α : Type} : ReadM α := do refuse .unterminatedSet ((← get).offset - start)
    let some token ← take | unterminated
    if token == [']'] && !items.isEmpty then return items
    let item ← readSetToken token
    if ← takeIf '-' then
      let some other ← take | unterminated
      if other == [']'] then return items ++ [item, .code '-'.toNat]
      let last ← readSetToken other
      let bad {α : Type} : ReadM α :=
        refuse (.badRange (String.ofList token) (String.ofList other))
          (token.length + 1 + other.length)
      match item, last with
      | .code lo, .code hi =>
        if hi < lo then bad
        readSetItems start bound (items ++ [.range lo hi])
      | _, _ => bad
    else readSetItems start bound (items ++ [item])

/-- A set whose opening bracket has been taken. -/
def readSet : ReadM Node := do
  let start := (← get).offset - 1
  let negated ← takeIf '^'
  let items ← readSetItems start ((← get).total + 1) []
  match items.eraseDups with
  | [.code n] => return if negated then .notCode n else .code n
  | items => return .set negated items

/-! ## Repetitions -/

/-- The first number of rounds that cannot be counted. -/
def roundLimit : Nat := 4294967295

/-- A number of rounds, none if no digits were given. -/
def rounds (digits : List Char) : ReadM (Option Nat) := do
  if digits.isEmpty then return none
  let some n := Text.ofDigits? (digits.map Text.plainDigit) | throw (.tooManyDigits digits.length)
  if roundLimit ≤ n then throw .tooManyRounds
  return some n

/-- The least and the greatest number of rounds between braces, the opening one having been taken;
none if the braces do not hold numbers, with everything behind the opening brace put back. -/
def readBraces : ReadM (Option (Nat × Option Nat)) := do
  let before ← get
  let here := before.offset
  if (← peek) == some ['}'] then return none
  let low ← takeWhile Text.isPlainDigit before.total
  let high ← if ← takeIf ',' then takeWhile Text.isPlainDigit before.total else pure low
  unless ← takeIf '}' do
    set before
    return none
  let least ← rounds low
  let most ← rounds high
  if let (some least, some most) := (least, most) then
    if most < least then refuse .repeatOrder ((← get).offset - here)
  return some (least.getD 0, most)

/-- Puts a repetition in place of the last item; `back` is the length of what asked for it. -/
def repeatLast (least : Nat) (most : Option Nat) (back : Nat) :
    List Node → ReadM (List Node)
  | [] | .anchor _ :: _ => refuse .nothingToRepeat back
  | .repeated _ _ _ _ :: _ => refuse .multipleRepeat back
  | item :: before => do
    let body := match item with
      | .group none added removed body => if added.isEmpty && removed.isEmpty then body else [item]
      | _ => [item]
    if ← takeIf '?' then return .repeated .lazy least most body :: before
    if ← takeIf '+' then return .repeated .possessive least most body :: before
    return .repeated .greedy least most body :: before

/-- A quantifier that has been taken, for the last of the items so far (latest first). -/
def readQuantifier (c : Char) (items : List Node) : ReadM (List Node) := do
  let here := (← get).offset
  let apply (least : Nat) (most : Option Nat) : ReadM (List Node) := do
    repeatLast least most ((← get).offset - here + 1) items
  match c with
  | '?' => apply 0 (some 1)
  | '*' => apply 0 none
  | '+' => apply 1 none
  | _ =>
    match ← readBraces with
    | some (least, most) => apply least most
    | none => return .code c.toNat :: items

/-! ## Flags -/

/-- The switch that a letter names. -/
def flag? : Char → Option Flags
  | 'i' => some { ignoreCase := true }
  | 'm' => some { multiLine := true }
  | 's' => some { dotAll := true }
  | 'x' => some { verbose := true }
  | 'a' => some { ascii := true }
  | 'u' => some { unicode := true }
  | 't' => some { template := true }
  | _ => none

/-- Whether a letter names a switch, the refused one included. -/
def isFlag (c : Char) : Bool :=
  c == 'L' || (flag? c).isSome

/-- Whether a token is a letter. -/
def isLetter (token : List Char) : Bool :=
  match token with
  | [c] => isPlainLetter c || (0x7f < c.toNat && Text.isName [c])
  | _ => false

/-- The switches turned on from the letter `c` on, and the token that ended them. -/
def readAdded : (bound : Nat) → Flags → Char → ReadM (Flags × Char)
  | 0, added, c => return (added, c)
  | bound + 1, added, c => do
    let some flag := flag? c | refuse .localeFlag
    let added := added.union flag
    if (flag.ascii || flag.unicode) && added.ascii && added.unicode then
      refuse .incompatibleFlags
    let some token ← take | refuse .missingFlagEnd
    match token with
    | [c] =>
      if c == ')' || c == '-' || c == ':' then return (added, c)
      if isFlag c then readAdded bound added c
      else refuse (if isLetter [c] then .unknownFlag else .missingFlagEnd) 1
    | _ => refuse .missingFlagEnd token.length

/-- The switches turned off from the letter `c` on, up to the colon. -/
def readRemoved : (bound : Nat) → Flags → Char → ReadM Flags
  | 0, removed, _ => return removed
  | bound + 1, removed, c => do
    let some flag := flag? c | refuse .turnOffAlphabet
    if flag.ascii || flag.unicode then refuse .turnOffAlphabet
    let removed := removed.union flag
    let some token ← take | refuse .missingColon
    match token with
    | [':'] => return removed
    | [c] =>
      if isFlag c then readRemoved bound removed c
      else refuse (if isLetter [c] then .unknownFlag else .missingColon) 1
    | _ => refuse .missingColon token.length

/-- The switches of a group, from the letter or hyphen `c` on; none if they are for the whole
expression, for which they are then set. -/
def readFlags (c : Char) : ReadM (Option (Flags × Flags)) := do
  let bound := (← get).total + 1
  let (added, stop) ← if c == '-' then pure ({}, '-') else readAdded bound {} c
  if stop == ')' then
    modify fun p => { p with flags := p.flags.union added }
    return none
  if added.template then refuse .turnOnGlobal 1
  if stop == '-' then
    let some token ← take | refuse .missingFlag
    match token with
    | [c] =>
      unless isFlag c do refuse (if isLetter [c] then .unknownFlag else .missingFlag) 1
      let removed ← readRemoved bound {} c
      if removed.template then refuse .turnOffGlobal 1
      if added.meets removed then refuse .turnedOnAndOff 1
      return some (added, removed)
    | _ => refuse .missingFlag token.length
  return some (added, {})

/-! ## Groups and sequences -/

/-- Checks the name of a group that has just been taken with its terminator. -/
def checkName (name : List Char) : ReadM Unit := do
  unless Text.isName name do refuse (.badGroupName (String.ofList name)) (name.length + 1)

/-- The number of the group with a name that has just been taken with its terminator. -/
def groupNamed (name : List Char) : ReadM Nat := do
  match (← get).names.lookup (String.ofList name) with
  | some group => return group
  | none => refuse (.unknownGroupName (String.ofList name)) (name.length + 1)

/-- Opens a group, with a name or without. -/
def openGroup (name : Option (List Char)) : ReadM Nat := do
  let p ← get
  let group := p.groupCount
  if let some name := name then
    let text := String.ofList name
    if let some earlier := p.names.lookup text then
      refuse (.groupRedefined text group earlier) (name.length + 1)
    set { p with widths := p.widths ++ [none], names := p.names ++ [(text, group)] }
  else set { p with widths := p.widths ++ [none] }
  return group

/-- Closes a group with the given body. -/
def closeGroup (group : Nat) (body : List Node) : ReadM Unit :=
  modify fun p =>
    { p with widths := p.widths.set (group - 1) (some (sequenceWidth p.widthOf body)) }

/-- The group that a condition asks for. -/
def readCondition : ReadM Nat := do
  let name ← takeName ')' "group name"
  if Text.isName name then groupNamed name
  else
    match Text.readInt? (String.ofList name) with
    | some (.ofNat group) =>
      if group = 0 then refuse .badGroupNumber (name.length + 1)
      if 2147483647 ≤ group then refuse (.invalidGroup group) (name.length + 1)
      modify fun p =>
        if (p.asked.lookup group).isSome then p
        else { p with asked := p.asked ++ [(group, p.offset - name.length - 1)] }
      return group
    | _ => refuse (.badGroupName (String.ofList name)) (name.length + 1)

/-- Skips a comment in parentheses that starts at an offset. -/
def skipComment (start : Nat) : (bound : Nat) → ReadM Unit
  | 0 => return
  | bound + 1 => do
    if (← peek).isNone then refuse .unterminatedComment ((← get).offset - start)
    if (← take) == some [')'] then return
    skipComment start bound

/-- Skips the rest of a line. -/
def skipLine : (bound : Nat) → ReadM Unit
  | 0 => return
  | bound + 1 => do
    let token ← take
    if token.isNone || token == some ['\n'] then return
    skipLine bound

/-- Whether a character is skipped in a verbose expression. -/
def isVerboseSpace (c : Char) : Bool :=
  c == ' ' || ('\t' ≤ c && c ≤ '\r')

/-- Nodes with the bodies of plain groups in place of the groups. -/
def unpackGroups (nodes : List Node) : List Node :=
  nodes.flatMap fun node =>
    match node with
    | .group none added removed body => if added.isEmpty && removed.isEmpty then body else [node]
    | _ => [node]

/-- The items of alternatives that all stand for one character each. -/
def singleItems? : List (List Node) → Option (List SetItem)
  | [] => some []
  | [.code n] :: rest => (singleItems? rest).map (.code n :: ·)
  | [.set false items] :: rest => (singleItems? rest).map (items ++ ·)
  | _ => none

/-- Whether two nodes are the same and hold no others. -/
def Node.sameLeaf : Node → Node → Bool
  | .code m, .code n | .notCode m, .notCode n | .sameAs m, .sameAs n => m == n
  | .any, .any => true
  | .set negated items, .set negated' items' => negated == negated' && items == items'
  | .anchor a, .anchor b => a == b
  | _, _ => false

/-- The nodes that a sequence and all others start with. -/
def commonFront : (sequence : List Node) → (others : List (List Node)) → List Node
  | [], _ => []
  | node :: rest, others =>
    if others.all fun other => other.head?.any node.sameLeaf then
      node :: commonFront rest (others.map List.tail)
    else []

/-- A choice between alternatives; single characters make a set. -/
def chooseBetween (alternatives : List (List Node)) : Node :=
  match singleItems? alternatives with
  | some items => .set false items.eraseDups
  | none => .branch alternatives

/-- A sequence that chooses between alternatives, behind what all of them start with. -/
def ofAlternatives : List (List Node) → List Node
  | [only] => only
  | alternatives =>
    let front := commonFront (alternatives.headD []) alternatives.tail
    front ++ [chooseBetween (alternatives.map fun nodes => nodes.drop front.length)]

/-- What a parenthesis turned out to be. -/
inductive Parenthesis where
  | node (n : Node)
  | comment
  | settings

mutual

/-- Alternatives up to the end of the group or of the expression. -/
def readAlternatives : (bound : Nat) → (outermost verbose : Bool) → List (List Node) →
    ReadM (List Node)
  | 0, _, _, done => return ofAlternatives done
  | bound + 1, outermost, verbose, done => do
    let nodes ← readSequence bound verbose (outermost && done.isEmpty) []
    let done := done ++ [nodes]
    if ← takeIf '|' then
      let flags := (← get).flags
      let verbose := if outermost then flags.verbose else verbose
      readAlternatives bound outermost verbose done
    else return ofAlternatives done

/-- A sequence, behind the items read so far (latest first). -/
def readSequence : (bound : Nat) → (verbose first : Bool) → List Node → ReadM (List Node)
  | 0, _, _, items => return unpackGroups items.reverse
  | bound + 1, verbose, first, items => do
    let next ← peek
    if next.isNone || next == some ['|'] || next == some [')'] then
      return unpackGroups items.reverse
    let token := (← take).getD []
    match token with
    | ['\\', c] => readSequence bound verbose first ((← readEscape c) :: items)
    | [c] =>
      if verbose && isVerboseSpace c then readSequence bound verbose first items
      else if verbose && c == '#' then
        skipLine ((← get).total + 1)
        readSequence bound verbose first items
      else if c == '[' then readSequence bound verbose first ((← readSet) :: items)
      else if c == '*' || c == '+' || c == '?' || c == '{' then
        readSequence bound verbose first (← readQuantifier c items)
      else if c == '.' then readSequence bound verbose first (.any :: items)
      else if c == '^' then readSequence bound verbose first (.anchor .lineStart :: items)
      else if c == '$' then readSequence bound verbose first (.anchor .lineEnd :: items)
      else if c == '(' then
        match ← readParenthesis bound verbose (first && items.isEmpty) with
        | .node n => readSequence bound verbose first (n :: items)
        | .comment => readSequence bound verbose first items
        | .settings => readSequence bound (← get).flags.verbose first items
      else readSequence bound verbose first (.code c.toNat :: items)
    | _ => return unpackGroups items.reverse

/-- What stands behind an opening parenthesis that has been taken. -/
def readParenthesis : (bound : Nat) → (verbose first : Bool) → ReadM Parenthesis
  | 0, _, _ => return .comment
  | bound + 1, verbose, first => do
    let start := (← get).offset - 1
    unless ← takeIf '?' do
      return .node (← readGroup bound verbose start true false none {} {})
    let some token ← take | refuse .unexpectedEnd
    match token with
    | ['P'] =>
      if ← takeIf '<' then
        let name ← takeName '>' "group name"
        checkName name
        return .node (← readGroup bound verbose start true false (some name) {} {})
      if ← takeIf '=' then
        let name ← takeName ')' "group name"
        checkName name
        let group ← groupNamed name
        unless (← get).isClosed group do refuse .openGroup (name.length + 1)
        checkBehind group
        return .node (.sameAs group)
      let some other ← take | refuse .unexpectedEnd
      refuse (.unknownExtension ("P" ++ String.ofList other)) (other.length + 2)
    | [':'] => return .node (← readGroup bound verbose start false false none {} {})
    | ['#'] =>
      skipComment start ((← get).total + 1)
      return .comment
    | ['='] => return .node (← readLook bound verbose start false false)
    | ['!'] => return .node (← readLook bound verbose start false true)
    | ['<'] =>
      let some other ← take | refuse .unexpectedEnd
      if other == ['='] then return .node (← readLook bound verbose start true false)
      if other == ['!'] then return .node (← readLook bound verbose start true true)
      refuse (.unknownExtension ("<" ++ String.ofList other)) (other.length + 2)
    | ['('] =>
      let group ← readCondition
      checkBehind group
      let present ← readSequence bound verbose false []
      let absent ← if ← takeIf '|' then readSequence bound verbose false [] else pure []
      if (← peek) == some ['|'] then refuse .tooManyBranches
      unless ← takeIf ')' do refuse .unterminatedGroup ((← get).offset - start)
      return .node (.ifGroup group present absent)
    | ['>'] => return .node (← readGroup bound verbose start false true none {} {})
    | [c] =>
      unless isFlag c || c == '-' do
        refuse (.unknownExtension (String.singleton c)) 2
      match ← readFlags c with
      | none =>
        unless first do refuse .flagsNotAtStart ((← get).offset - start)
        return .settings
      | some (added, removed) =>
        return .node (← readGroup bound verbose start false false none added removed)
    | _ => refuse (.unknownExtension (String.ofList token)) (token.length + 1)

/-- The body of a group and its closing parenthesis. -/
def readGroup : (bound : Nat) → (verbose : Bool) → (start : Nat) → (captures atomic : Bool) →
    (name : Option (List Char)) → (added removed : Flags) → ReadM Node
  | 0, _, _, _, _, _, _, _ => return .any
  | bound + 1, verbose, start, captures, atomic, name, added, removed => do
    let index ← if captures then some <$> openGroup name else pure none
    let inner := (verbose || added.verbose) && !removed.verbose
    let body ← readAlternatives bound false inner []
    unless ← takeIf ')' do refuse .unterminatedGroup ((← get).offset - start)
    if let some index := index then closeGroup index body
    return if atomic then .atomic body else .group index added removed body

/-- The body of a look ahead or behind and its closing parenthesis. -/
def readLook : (bound : Nat) → (verbose : Bool) → (start : Nat) → (behind negative : Bool) →
    ReadM Node
  | 0, _, _, _, _ => return .any
  | bound + 1, verbose, start, behind, negative => do
    let outer := (← get).behindFrom
    if behind && outer.isNone then
      modify fun p => { p with behindFrom := some p.groupCount }
    let body ← readAlternatives bound false verbose []
    if behind && outer.isNone then modify fun p => { p with behindFrom := none }
    unless ← takeIf ')' do refuse .unterminatedGroup ((← get).offset - start)
    return .look behind negative body

end

/-- What reading an expression yields: its nodes, the switches that it sets for the whole of itself
and the widths of its groups. -/
structure Expression where
  nodes : List Node
  flags : Flags
  groups : Nat
  widthOf : Nat → Nat × Nat

/-- Checks that the conditions ask for groups that exist. -/
def checkAsked (p : Progress) : Except Refusal Unit :=
  p.asked.forM fun (group, offset) =>
    if p.groupCount ≤ group then .error (.problem (.invalidGroup group) (some offset)) else .ok ()

/-- Reads a whole expression. -/
def Expression.read (cs : List Char) : Except Refusal Expression := do
  let cursor ← Cursor.ofRest cs.length cs
  let start : Progress := { cursor := cursor, total := cs.length }
  let (nodes, p) ← (readAlternatives (4 * cs.length + 8) true false []).run start
  if p.flags.ascii && p.flags.unicode then throw .twoAlphabets
  let flags := if p.flags.ascii then p.flags else { p.flags with unicode := true }
  if p.cursor.next.isSome then throw (.problem .unbalanced (some p.offset))
  checkAsked p
  return { nodes := nodes, flags := flags, groups := p.groupCount - 1, widthOf := p.widthOf }

end AudioPlan.Regex
