import AudioPlan.Text.Utf8
import AudioPlan.Yaml.Scalar

/-!
# Tokens of YAML

A text as a list of tokens.  Indentation shows as tokens that open and close blocks, so what reads
them need not look at columns any more.

Whether a scalar is a key is known only when a colon follows it.  Its place among the tokens is kept
until then, and the tokens that make it a key are put in before it.

* `tokens` makes the list, which ends with a failure where the text cannot be gone through;
* `Scan.stopped` says which tokens are still given away before a failure.
-/

namespace AudioPlan.Yaml

/-- What a directive says. -/
inductive Directive where
  | version (major : Nat)
  | handle (name meaning : String)
  | other
  deriving Repr, DecidableEq

/-- A token. -/
inductive Token where
  | directive (d : Directive)
  | documentStart
  | documentEnd
  | streamEnd
  | blockSequenceStart
  | blockMappingStart
  | blockEnd
  | flowSequenceStart
  | flowSequenceEnd
  | flowMappingStart
  | flowMappingEnd
  | flowEntry
  | blockEntry
  | key
  | value
  | alias (name : String)
  | anchor (name : String)
  /-- A tag: a handle, unless the tag is written in full, and the rest. -/
  | tag (handle : Option String) (suffix : String)
  | scalar (plain : Bool) (text : String)
  /-- The text cannot be gone through any further. -/
  | failure (refusal : Refusal)
  deriving Repr, DecidableEq, Inhabited

/-! ## Names, tags and directives -/

/-- Whether a character may stand in a name. -/
def isNameChar (c : Char) : Bool :=
  c.isAlphanum || c == '-' || c == '_'

/-- Whether a character may stand in a tag. -/
def isTagChar (c : Char) : Bool :=
  c.isAlphanum || c ∈ "-;/?:@&=+$,_.!~*'()[]%".toList

/-- Whether the text goes on with what may follow a name. -/
def endsName : List Char → Bool
  | [] => true
  | c :: rest => atBlank (c :: rest) || c ∈ "?:,]\x7d%@`".toList

/-- A name that is not empty. -/
def readName (c : Cursor) : Except Refusal (String × Cursor) :=
  let (name, c) := c.run isNameChar
  if name.isEmpty then .error .badText else .ok (String.ofList name, c)

/-- The name of an anchor behind its sign. -/
def readAnchor (c : Cursor) : Except Refusal (String × Cursor) := do
  let (name, c) ← readName c
  if endsName c.rest then return (name, c) else throw .badText

/-- Bytes written by their codes behind percent signs, and the cursor behind them. -/
def readPercents : (bound : Nat) → Cursor → Except Refusal (List UInt8 × Cursor)
  | 0, c => .ok ([], c)
  | bound + 1, c =>
    match c.rest with
    | '%' :: a :: b :: _ =>
      match Text.ofBase? 16 [a, b] with
      | some n => do
        let (bytes, c) ← readPercents bound (c.skip 3)
        return (n.toUInt8 :: bytes, c)
      | none => .error .badText
    | '%' :: _ => .error .badText
    | _ => .ok ([], c)

/-- The characters of a tag. -/
def readTagChars : (bound : Nat) → Cursor → Except Refusal (List Char × Cursor)
  | 0, c => .ok ([], c)
  | bound + 1, c =>
    match c.rest with
    | [] => .ok ([], c)
    | ch :: _ =>
      if ch = '%' then do
        let (bytes, c) ← readPercents c.rest.length c
        match Text.decodeUtf8 bytes with
        | .ok text =>
          let (more, c) ← readTagChars bound c
          return (text ++ more, c)
        | .error _ => throw .badText
      else if isTagChar ch then do
        let (more, c) ← readTagChars bound c.next
        return (ch :: more, c)
      else .ok ([], c)

/-- The rest of a tag, which is not empty. -/
def readTagRest (c : Cursor) : Except Refusal (String × Cursor) := do
  let (text, next) ← readTagChars c.rest.length c
  if next.index = c.index then throw .badText
  return (String.ofList text, next)

/-- The handle of a tag, with its signs. -/
def readHandle (c : Cursor) : Except Refusal (String × Cursor) :=
  match c.rest with
  | '!' :: ' ' :: _ => .ok ("!", c.next)
  | '!' :: _ =>
    let (name, next) := c.next.run isNameChar
    if next.peek == some '!' then .ok (String.ofList ('!' :: name ++ ['!']), next.next)
    else .error .badText
  | _ => .error .badText

/-- Whether a tag has a second exclamation mark before the next space. -/
def hasHandle (cs : List Char) : Bool :=
  (cs.takeWhile fun c => c != ' ' && !isBreak c).contains '!'

/-- A tag. -/
def readTag (c : Cursor) : Except Refusal (Token × Cursor) := do
  let behind := c.next
  let (token, c) ←
    if behind.peek == some '<' then do
      let (suffix, c) ← readTagRest behind.next
      if c.peek != some '>' then throw .badText
      pure (Token.tag none suffix, c.next)
    else if atBlank behind.rest then pure (Token.tag none "!", behind)
    else if hasHandle behind.rest then do
      let (handle, c) ← readHandle c
      let (suffix, c) ← readTagRest c
      pure (Token.tag (some handle) suffix, c)
    else do
      let (suffix, c) ← readTagRest behind
      pure (Token.tag (some "!") suffix, c)
  if atSpace c.rest then return (token, c) else throw .badText

/-- A number in a directive. -/
def readVersionPart (c : Cursor) : Except Refusal (Nat × Cursor) :=
  let (digits, c) := c.run Text.isPlainDigit
  if digits.isEmpty then .error .badText
  else
    match Text.ofDigits? (digits.map Text.plainDigit) with
    | some n => .ok (n, c)
    | none => .error (.fault .badValue)

/-- A version, of which only the first number matters. -/
def readVersion (c : Cursor) : Except Refusal (Directive × Cursor) := do
  let (major, c) ← readVersionPart c.skipSpaces
  if c.peek != some '.' then throw .badText
  let (_, c) ← readVersionPart c.next
  if atSpace c.rest then return (.version major, c) else throw .badText

/-- A handle and what it stands for. -/
def readHandleMeaning (c : Cursor) : Except Refusal (Directive × Cursor) := do
  let (name, c) ← readHandle c.skipSpaces
  if c.peek != some ' ' then throw .badText
  let (meaning, c) ← readTagRest c.skipSpaces
  if atSpace c.rest then return (.handle name meaning, c) else throw .badText

/-- A directive with its line. -/
def readDirective (c : Cursor) : Except Refusal (Token × Cursor) := do
  let (name, c) ← readName c.next
  if !atSpace c.rest then throw .badText
  let (d, c) ←
    if name = "YAML" then readVersion c
    else if name = "TAG" then readHandleMeaning c
    else pure (.other, c.skipRun fun ch => !isBreak ch)
  return (.directive d, ← c.skipLine)

/-! ## The state of the scanning -/

/-- A token that may turn out to be a key. -/
structure PossibleKey where
  /-- The number of tokens before it. -/
  count : Nat
  /-- Whether it must be a key, because the block it stands in is a mapping. -/
  required : Bool
  index : Nat
  line : Nat
  column : Nat
  deriving Repr

/-- How far the scanning has come. -/
structure Scan where
  cursor : Cursor
  /-- The tokens so far, the last one first. -/
  tokens : List Token := []
  /-- The column of the block that one is in, -1 outside of all blocks. -/
  indent : Int := -1
  /-- The columns of the blocks around it. -/
  outer : List Int := []
  /-- Whether a key may stand here. -/
  allowKey : Bool := true
  /-- The possible key in the innermost flow collection, or outside of all. -/
  possible : Option PossibleKey := none
  /-- The possible keys around the open flow collections. -/
  outerPossible : List (Option PossibleKey) := []

namespace Scan

/-- Whether one is in a flow collection. -/
def inFlow (s : Scan) : Bool :=
  !s.outerPossible.isEmpty

/-- Adds a token. -/
def push (t : Token) (s : Scan) : Scan :=
  { s with tokens := t :: s.tokens }

/-- Puts a token in behind the first `count` ones. -/
def insertAt (count : Nat) (t : Token) (s : Scan) : Scan :=
  let later := s.tokens.length - count
  { s with tokens := s.tokens.take later ++ t :: s.tokens.drop later }

/-- A possible key, unless it is too far back: keys are on one line and not too long. -/
def keepKey (c : Cursor) : Option PossibleKey → Except Refusal (Option PossibleKey)
  | none => .ok none
  | some key =>
    if key.line != c.line || key.index + 1024 < c.index then
      if key.required then .error .badText else .ok none
    else .ok (some key)

/-- Forgets the possible keys that are too far back. -/
def dropStale (s : Scan) : Except Refusal Scan := do
  return { s with
    possible := ← keepKey s.cursor s.possible
    outerPossible := ← s.outerPossible.mapM (keepKey s.cursor) }

/-- Forgets the possible key at the current level. -/
def dropKey (s : Scan) : Except Refusal Scan :=
  match s.possible with
  | some key => if key.required then .error .badText else .ok { s with possible := none }
  | none => .ok s

/-- Remembers that the next token may be a key. -/
def saveKey (s : Scan) : Except Refusal Scan :=
  if !s.allowKey then .ok s
  else do
    let s ← s.dropKey
    let c := s.cursor
    let key : PossibleKey :=
      { count := s.tokens.length, required := !s.inFlow && s.indent == c.column, index := c.index,
        line := c.line, column := c.column }
    return { s with possible := some key }

/-- Closes blocks: the current column, the columns around it, and the tokens. -/
def closeBlocks (column : Int) (indent : Int) :
    List Int → List Token → Int × List Int × List Token
  | [], tokens => (indent, [], tokens)
  | next :: outer, tokens =>
    if column < indent then closeBlocks column next outer (.blockEnd :: tokens)
    else (indent, next :: outer, tokens)

/-- Closes the blocks that are set in further than a column. -/
def unwind (column : Int) (s : Scan) : Scan :=
  if s.inFlow then s
  else
    let (indent, outer, tokens) := closeBlocks column s.indent s.outer s.tokens
    { s with indent, outer, tokens }

/-- Whether a block starts at a column. -/
def startsBlock (column : Nat) (s : Scan) : Bool :=
  s.indent < column

/-- Opens a block at a column. -/
def openBlock (column : Nat) (s : Scan) : Scan :=
  { s with indent := column, outer := s.indent :: s.outer }

/-! ## The tokens one by one -/

/-- Adds a token of a number of characters. -/
def take (count : Nat) (t : Token) (s : Scan) : Scan :=
  { s with cursor := s.cursor.skip count, tokens := t :: s.tokens }

/-- Adds a token that ends at a cursor. -/
def takeTo (t : Token) (c : Cursor) (s : Scan) : Scan :=
  { s with cursor := c, tokens := t :: s.tokens }

/-- Starts a flow collection. -/
def startFlow (t : Token) (s : Scan) : Except Refusal Scan := do
  let s ← s.saveKey
  return { s with allowKey := true, possible := none,
                  outerPossible := s.possible :: s.outerPossible }.take 1 t

/-- Ends a flow collection. -/
def endFlow (t : Token) (s : Scan) : Except Refusal Scan := do
  let s ← s.dropKey
  match s.outerPossible with
  | possible :: outer =>
    return { s with allowKey := false, possible := possible, outerPossible := outer }.take 1 t
  | [] => throw .badText

/-- Goes on to the next entry of a flow collection. -/
def flowEntry (s : Scan) : Except Refusal Scan := do
  return { ← s.dropKey with allowKey := true }.take 1 .flowEntry

/-- Opens a block where a token needs one. -/
def openFor (t : Token) (s : Scan) : Except Refusal Scan :=
  if s.inFlow then .ok s
  else if !s.allowKey then .error .badText
  else if s.startsBlock s.cursor.column then .ok ((s.openBlock s.cursor.column).push t)
  else .ok s

/-- Starts an entry of a block sequence. -/
def blockEntry (s : Scan) : Except Refusal Scan := do
  let s ← s.openFor .blockSequenceStart
  return { ← s.dropKey with allowKey := true }.take 1 .blockEntry

/-- Starts a key that is marked as such. -/
def explicitKey (s : Scan) : Except Refusal Scan := do
  let s ← s.openFor .blockMappingStart
  return { ← s.dropKey with allowKey := !s.inFlow }.take 1 .key

/-- Starts a value, which makes a key of a possible one. -/
def value (s : Scan) : Except Refusal Scan :=
  match s.possible with
  | some key =>
    let s := { s with possible := none, allowKey := false }.insertAt key.count .key
    let s :=
      if !s.inFlow && s.startsBlock key.column then
        (s.openBlock key.column).insertAt key.count .blockMappingStart
      else s
    .ok (s.take 1 .value)
  | none => do
    let s ← s.openFor .blockMappingStart
    return { ← s.dropKey with allowKey := !s.inFlow }.take 1 .value

/-- Reads a token that may be a key. -/
def keyToken (read : Cursor → Except Refusal (Token × Cursor)) (s : Scan) :
    Except Refusal Scan := do
  let s ← s.saveKey
  let (t, c) ← read s.cursor
  return { s with allowKey := false }.takeTo t c

/-- Reads a plain scalar. -/
def plain (s : Scan) : Except Refusal Scan := do
  let s ← s.saveKey
  let (text, newLine, c) := plainScalar s.inFlow (s.indent + 1).toNat s.cursor
  return { s with allowKey := newLine }.takeTo (.scalar true (String.ofList text)) c

/-- Reads a block scalar. -/
def block (folded : Bool) (s : Scan) : Except Refusal Scan := do
  let s ← s.dropKey
  let (text, c) ← blockScalar folded s.indent s.cursor.next
  return { s with allowKey := true }.takeTo (.scalar false (String.ofList text)) c

/-- Leaves all blocks, which a mark of a document and the end of the text do. -/
def leaveAll (s : Scan) : Except Refusal Scan := do
  return { ← (s.unwind (-1)).dropKey with allowKey := false }

/-- Behind white space and comments. -/
def skipToToken : (bound : Nat) → Scan → Scan
  | 0, s => s
  | bound + 1, s =>
    let c := s.cursor.skipSpaces.skipComment
    match c.lineBreak? with
    | some (_, c) => skipToToken bound { s with cursor := c, allowKey := s.allowKey || !s.inFlow }
    | none => { s with cursor := c }

/-- Whether a plain scalar starts here. -/
def startsPlain (inFlow : Bool) (c : Char) (rest : List Char) : Bool :=
  !(isTabOrSpace c || isBreak c || c ∈ "-?:,[]\x7b\x7d#&*!|>'\"%@`".toList) ||
    (!atBlank rest && (c == '-' || (!inFlow && (c == '?' || c == ':'))))

/-- Reads the token that starts with a character. -/
def token (c : Char) (rest : List Char) (s : Scan) : Except Refusal Scan :=
  if s.cursor.column = 0 && c = '%' then do
    let s ← s.leaveAll
    let (t, c) ← readDirective s.cursor
    return s.takeTo t c
  else if s.cursor.column = 0 && atDocumentMark (c :: rest) then do
    return (← s.leaveAll).take 3 (if c = '-' then .documentStart else .documentEnd)
  else if c = '[' then s.startFlow .flowSequenceStart
  else if c = '{' then s.startFlow .flowMappingStart
  else if c = ']' then s.endFlow .flowSequenceEnd
  else if c = '}' then s.endFlow .flowMappingEnd
  else if c = ',' then s.flowEntry
  else if c = '-' && atBlank rest then s.blockEntry
  else if c = '?' && (s.inFlow || atBlank rest) then s.explicitKey
  else if c = ':' && (s.inFlow || atBlank rest) then s.value
  else if c = '*' then
    s.keyToken fun c => do
      let (name, c) ← readAnchor c.next
      return (.alias name, c)
  else if c = '&' then
    s.keyToken fun c => do
      let (name, c) ← readAnchor c.next
      return (.anchor name, c)
  else if c = '!' then s.keyToken readTag
  else if c = '|' && !s.inFlow then s.block false
  else if c = '>' && !s.inFlow then s.block true
  else if c = '\'' || c = '"' then
    s.keyToken fun cursor => do
      let (text, cursor) ← quotedScalar (c == '"') cursor
      return (.scalar false (String.ofList text), cursor)
  else if startsPlain s.inFlow c rest then s.plain
  else .error .badText

/-- Goes on to the next token, with the blocks closed that end before it. -/
def advance (s : Scan) : Except Refusal Scan := do
  let s ← (s.skipToToken (s.cursor.rest.length + 1)).dropStale
  return s.unwind s.cursor.column

/-- The possible keys that are not too far back. -/
def pending (s : Scan) : List PossibleKey :=
  (s.possible :: s.outerPossible).filterMap fun key => (keepKey s.cursor key).toOption.join

/-- The tokens before all possible keys. -/
def settled (s : Scan) : List Token :=
  s.tokens.reverse.take ((s.pending.map PossibleKey.count).foldl min s.tokens.length)

/-- The tokens where the text cannot be gone through any further.  A token that may still be a key
is not given away before it is known whether a colon follows, so the failure comes first. -/
def stopped (refusal : Refusal) (s : Scan) : List Token :=
  s.settled ++ [.failure refusal]

/-- All tokens from here on. -/
def run : (bound : Nat) → Scan → List Token
  | 0, s => s.stopped .badText
  | bound + 1, s =>
    match s.advance with
    | .error refusal => s.stopped refusal
    | .ok here =>
      match here.cursor.rest with
      | [] =>
        match here.leaveAll with
        | .ok last => (Token.streamEnd :: last.tokens).reverse
        | .error refusal => s.stopped refusal
      | c :: rest =>
        match here.token c rest with
        | .ok next => run bound next
        | .error refusal => s.stopped refusal

end Scan

/-- The tokens of a text.  A byte order mark in front is skipped. -/
def tokens (cs : List Char) : List Token :=
  if !cs.all isPrintable then [.failure .badText]
  else
    let cursor : Cursor := { rest := cs }
    let cursor := if cs.head? == some '\ufeff' then cursor.next else cursor
    Scan.run (cs.length + 1) { cursor }

end AudioPlan.Yaml
