import AudioPlan.Yaml.Tag
import AudioPlan.Yaml.Token

/-!
# Nodes of YAML

A document as a tree of nodes with tags.  An alias stands for a copy of the node that has its
anchor.  A node may hold an alias to itself; it is copied into itself a fixed number of times,
deeper than anything that reads a document looks.

* `Node.ofTokens` reads the one document of a text, if there is any.
-/

namespace AudioPlan.Yaml

/-- A node. -/
inductive Node where
  | scalar (tag : Tag) (text : String)
  | sequence (tag : Tag) (items : List Node)
  | mapping (tag : Tag) (entries : List (Node × Node))
  /-- An alias to a node around it. -/
  | enclosing (anchor : String)
  deriving Repr, Inhabited

namespace Node

/-- The tag of a node. -/
def tag : Node → Tag
  | .scalar tag _ | .sequence tag _ | .mapping tag _ => tag
  | .enclosing _ => .unknown

/-- A node with another tag. -/
def retag (tag : Tag) : Node → Node
  | .scalar _ text => .scalar tag text
  | .sequence _ items => .sequence tag items
  | .mapping _ entries => .mapping tag entries
  | .enclosing anchor => .enclosing anchor

mutual

/-- How many nodes stand one in another below a node. -/
def height : Node → Nat
  | .scalar _ _ => 0
  | .sequence _ items => heightItems items + 1
  | .mapping _ entries => heightEntries entries + 1
  | .enclosing _ => 0

/-- The greatest height of items. -/
def heightItems : List Node → Nat
  | [] => 0
  | n :: rest => max n.height (heightItems rest)

/-- The greatest height of keys and values. -/
def heightEntries : List (Node × Node) → Nat
  | [] => 0
  | (k, v) :: rest => max (max k.height v.height) (heightEntries rest)

end

mutual

/-- A node with another one in the place of the aliases to an anchor. -/
def substitute (anchor : String) (copy : Node) : Node → Node
  | .scalar tag text => .scalar tag text
  | .sequence tag items => .sequence tag (substituteItems anchor copy items)
  | .mapping tag entries => .mapping tag (substituteEntries anchor copy entries)
  | .enclosing name => if name = anchor then copy else .enclosing name

/-- The same for all items. -/
def substituteItems (anchor : String) (copy : Node) : List Node → List Node
  | [] => []
  | n :: rest => substitute anchor copy n :: substituteItems anchor copy rest

/-- The same for all entries. -/
def substituteEntries (anchor : String) (copy : Node) : List (Node × Node) → List (Node × Node)
  | [] => []
  | (k, v) :: rest =>
    (substitute anchor copy k, substitute anchor copy v) :: substituteEntries anchor copy rest

end

/-- A node of the same kind that holds nothing. -/
def emptied : Node → Node
  | .sequence tag _ => .sequence tag []
  | .mapping tag _ => .mapping tag []
  | n => n

/-- A node copied into itself a number of times. -/
def unrolled (anchor : String) (n : Node) : (times : Nat) → Node
  | 0 => n.emptied
  | times + 1 => substitute anchor (unrolled anchor n times) n

/-- How often a node is copied into itself. -/
def unrolling : Nat := 6

end Node

/-! ## Reading -/

/-- Handles with what they stand for. -/
abbrev Handles := List (String × String)

/-- The handles that need no directive. -/
def usualHandles : Handles :=
  [("!", "!"), ("!!", commonTags)]

/-- How far the reading has come: the tokens that are left, and the nodes by their anchors, none
while a node is not complete. -/
structure Reading where
  tokens : List Token
  anchors : List (String × Option Node) := []

/-- A step of the reading. -/
abbrev ReadM := StateT Reading (Except Refusal)

namespace ReadM

/-- Refuses the text. -/
def refuse {α : Type} : ReadM α := do
  match (← get).tokens with
  | .failure refusal :: _ => throw refusal
  | _ => throw .badText

/-- The next token. -/
def peek : ReadM (Option Token) := do
  return (← get).tokens.head?

/-- Goes on behind the next token. -/
def skip : ReadM Unit :=
  modify fun s => { s with tokens := s.tokens.tail }

/-- Goes on behind the next token if it is the given one. -/
def skipIf (t : Token) : ReadM Bool := do
  if (← peek) == some t then
    skip
    return true
  else return false

/-- Whether the next token is one of those given. -/
def isNext (ts : List Token) : ReadM Bool := do
  match ← peek with
  | some t => return t ∈ ts
  | none => return false

end ReadM

open ReadM

/-- What stands in front of a node: an anchor and the name of a tag. -/
structure Properties where
  anchor : Option String := none
  tag : Option String := none

/-- The full name of a tag. -/
def fullTag (handles : Handles) (handle : Option String) (suffix : String) : ReadM String :=
  match handle with
  | none => pure suffix
  | some handle =>
    match handles.lookup handle with
    | some meaning => pure (meaning ++ suffix)
    | none => throw .badText

/-- The anchor in front of a node, if there is one. -/
def readAnchorToken : ReadM (Option String) := do
  match ← peek with
  | some (.anchor name) =>
    skip
    return some name
  | _ => return none

/-- The tag in front of a node, if there is one. -/
def readTagToken : ReadM (Option (Option String × String)) := do
  match ← peek with
  | some (.tag handle suffix) =>
    skip
    return some (handle, suffix)
  | _ => return none

/-- The properties of a node, in either order. -/
def readProperties (handles : Handles) : ReadM Properties := do
  let first ← readAnchorToken
  let tag ← readTagToken
  let anchor ← match first, tag with
    | none, some _ => readAnchorToken
    | anchor, _ => pure anchor
  let name ← match tag with
    | some (handle, suffix) => some <$> fullTag handles handle suffix
    | none => pure none
  return { anchor, tag := name }

/-- The tag of a node whose properties name none, or only that there is one. -/
def Properties.resolve (p : Properties) (default : Tag) : Tag :=
  match p.tag with
  | none | some "!" => default
  | some name => .ofName name

/-- Whether nothing is said about a node. -/
def Properties.isEmpty (p : Properties) : Bool :=
  p.anchor.isNone && p.tag.isNone

/-- The tag of a scalar. -/
def Properties.scalarTag (p : Properties) (plain : Bool) (text : String) : Tag :=
  match p.tag with
  | none => if plain then .ofPlain text.toList else .text
  | some "!" => .ofText text.toList
  | some name => .ofName name

/-- The node for nothing. -/
def Node.nothing : Node := .scalar .null ""

/-- Makes an anchor known. -/
def declare (p : Properties) : ReadM Unit := do
  match p.anchor with
  | none => pure ()
  | some anchor =>
    if ((← get).anchors.lookup anchor).isSome then throw .badText
    modify fun s => { s with anchors := (anchor, none) :: s.anchors }

/-- Gives an anchor its node. -/
def define (p : Properties) (n : Node) : ReadM Node := do
  match p.anchor with
  | none => return n
  | some anchor =>
    let n := Node.unrolled anchor n Node.unrolling
    modify fun s => { s with
      anchors := s.anchors.map fun (name, known) =>
        if name = anchor then (name, some n) else (name, known.map (Node.substitute anchor n)) }
    return n

/-- The node that an alias stands for. -/
def readAlias (anchor : String) : ReadM Node := do
  match (← get).anchors.lookup anchor with
  | some (some n) => return n
  | some none => return .enclosing anchor
  | none => throw .badText

/-- Which nodes may stand in a place. -/
inductive Place where
  | flow
  | block
  /-- In a block mapping, where a sequence need not be set in. -/
  | blockEntry
  deriving DecidableEq

mutual

/-- A node. -/
def readNode (handles : Handles) (place : Place) : (bound : Nat) → ReadM Node
  | 0 => refuse
  | bound + 1 => do
    match ← peek with
    | some (.alias name) =>
      skip
      readAlias name
    | _ =>
      let p ← readProperties handles
      match ← peek with
      | some (.scalar plain text) =>
        skip
        declare p
        define p (.scalar (p.scalarTag plain text) text)
      | some .flowSequenceStart =>
        skip
        declare p
        define p (.sequence (p.resolve .sequence) (← readFlowItems handles true bound))
      | some .flowMappingStart =>
        skip
        declare p
        define p (.mapping (p.resolve .mapping) (← readFlowEntries handles true bound))
      | some .blockSequenceStart =>
        if place = .flow then readEmpty p
        else
          skip
          declare p
          define p (.sequence (p.resolve .sequence) (← readBlockItems handles bound))
      | some .blockMappingStart =>
        if place = .flow then readEmpty p
        else
          skip
          declare p
          define p (.mapping (p.resolve .mapping) (← readBlockEntries handles bound))
      | some .blockEntry =>
        if place = .blockEntry then
          declare p
          define p (.sequence (p.resolve .sequence) (← readBareItems handles bound))
        else readEmpty p
      | _ => readEmpty p
where
  /-- A node of which there is nothing but its properties. -/
  readEmpty (p : Properties) : ReadM Node := do
    if p.isEmpty then refuse
    else
      declare p
      define p (.scalar (p.scalarTag true "") "")

/-- A node, or nothing before one of the given tokens. -/
def readOptional (handles : Handles) (place : Place) (ends : List Token) :
    (bound : Nat) → ReadM Node
  | 0 => refuse
  | bound + 1 => do
    if ← isNext ends then return .nothing
    else readNode handles place bound

/-- The items of a block sequence, up to its end. -/
def readBlockItems (handles : Handles) : (bound : Nat) → ReadM (List Node)
  | 0 => refuse
  | bound + 1 => do
    if ← skipIf .blockEntry then
      let n ← readOptional handles .block [.blockEntry, .blockEnd] bound
      return n :: (← readBlockItems handles bound)
    else if ← skipIf .blockEnd then return []
    else refuse

/-- The items of a sequence that is not set in. -/
def readBareItems (handles : Handles) : (bound : Nat) → ReadM (List Node)
  | 0 => refuse
  | bound + 1 => do
    if ← skipIf .blockEntry then
      let n ← readOptional handles .block [.blockEntry, .key, .value, .blockEnd] bound
      return n :: (← readBareItems handles bound)
    else return []

/-- The entries of a block mapping, up to its end. -/
def readBlockEntries (handles : Handles) : (bound : Nat) → ReadM (List (Node × Node))
  | 0 => refuse
  | bound + 1 => do
    if ← skipIf .key then
      let k ← readOptional handles .blockEntry [.key, .value, .blockEnd] bound
      let v ←
        if ← skipIf .value then readOptional handles .blockEntry [.key, .value, .blockEnd] bound
        else pure .nothing
      return (k, v) :: (← readBlockEntries handles bound)
    else if ← skipIf .blockEnd then return []
    else refuse

/-- The items of a flow sequence, up to its end.  A pair stands for a mapping of one entry. -/
def readFlowItems (handles : Handles) (first : Bool) : (bound : Nat) → ReadM (List Node)
  | 0 => refuse
  | bound + 1 => do
    if ← skipIf .flowSequenceEnd then return []
    if !first then
      unless ← skipIf .flowEntry do refuse
    if ← skipIf .key then
      let k ← readOptional handles .flow [.value, .flowEntry, .flowSequenceEnd] bound
      let v ←
        if ← skipIf .value then
          readOptional handles .flow [.flowEntry, .flowSequenceEnd] bound
        else pure .nothing
      return .mapping .mapping [(k, v)] :: (← readFlowItems handles false bound)
    else if ← skipIf .flowSequenceEnd then return []
    else
      let n ← readNode handles .flow bound
      return n :: (← readFlowItems handles false bound)

/-- The entries of a flow mapping, up to its end. -/
def readFlowEntries (handles : Handles) (first : Bool) : (bound : Nat) → ReadM (List (Node × Node))
  | 0 => refuse
  | bound + 1 => do
    if ← skipIf .flowMappingEnd then return []
    if !first then
      unless ← skipIf .flowEntry do refuse
    if ← skipIf .key then
      let k ← readOptional handles .flow [.value, .flowEntry, .flowMappingEnd] bound
      let v ←
        if ← skipIf .value then
          readOptional handles .flow [.flowEntry, .flowMappingEnd] bound
        else pure .nothing
      return (k, v) :: (← readFlowEntries handles false bound)
    else if ← skipIf .flowMappingEnd then return []
    else
      let k ← readNode handles .flow bound
      return (k, .nothing) :: (← readFlowEntries handles false bound)

end

/-! ## Documents -/

/-- The directives in front of a document: whether a version was given, and the handles. -/
def readDirectives : (bound : Nat) → (version : Bool) → Handles → ReadM Handles
  | 0, _, _ => refuse
  | bound + 1, version, handles => do
    match ← peek with
    | some (.directive d) =>
      skip
      match d with
      | .version major =>
        if version || major != 1 then throw .badText
        readDirectives bound true handles
      | .handle name meaning =>
        if (handles.lookup name).isSome then throw .badText
        readDirectives bound version ((name, meaning) :: handles)
      | .other => readDirectives bound version handles
    | _ => return handles ++ usualHandles

/-- Goes on behind the ends of documents. -/
def skipEnds : (bound : Nat) → ReadM Unit
  | 0 => refuse
  | bound + 1 => do
    if ← skipIf .documentEnd then skipEnds bound

/-- Whether the next token is a directive. -/
def atDirective : ReadM Bool := do
  match ← peek with
  | some (.directive _) => return true
  | _ => return false

/-- The content of a document that was started by a mark. -/
def readMarked (handles : Handles) (bound : Nat) : ReadM Node := do
  if (← atDirective) || (← isNext [.documentStart, .documentEnd, .streamEnd]) then return .nothing
  else readNode handles .block bound

/-- The first document, if there is any. -/
def readDocument (bound : Nat) : ReadM (Option Node) := do
  if (← atDirective) || (← isNext [.documentStart, .streamEnd]) then
    if ← isNext [.streamEnd] then return none
    let handles ← readDirectives bound false []
    unless ← skipIf .documentStart do refuse
    some <$> readMarked handles bound
  else some <$> readNode usualHandles .block bound

/-- Refuses a text that goes on behind its document.  Directives there are still read. -/
def refuseRest {α : Type} (bound : Nat) : ReadM α := do
  let _ ← readDirectives bound false []
  refuse

/-- The only document, if there is any. -/
def readOnly (bound : Nat) : ReadM (Option Node) := do
  let document ← readDocument bound
  if document.isSome then skipEnds bound
  unless ← skipIf .streamEnd do refuseRest bound
  return document

/-- The node of the only document that tokens hold, if there is any. -/
def Node.ofTokens (tokens : List Token) : Except Refusal (Option Node) :=
  (readOnly (3 * tokens.length + 3)).run' { tokens }

end AudioPlan.Yaml
