import AudioPlan.Binary64.Reader
import AudioPlan.Text.Base64
import AudioPlan.Value.Basic
import AudioPlan.Yaml.Node

/-!
# Reading YAML

The value that a YAML text denotes.  What is wrong with the syntax comes first.  Of several nodes
for which there is no value, one nearest to the root decides, and the first of those.  A collection
that stands as a key is refused before anything in it is looked at.

An alias stands for a copy of its node.  So a key for a main value becomes a text in its own place
only, and not also where an alias stands for it.

* `read` is the whole way from text to value;
* `scalarValue` is the value of a scalar, `makeValue` that of a node.
-/

namespace AudioPlan.Yaml

/-! ## Scalars -/

/-- A digit of any script as the plain digit. -/
def flattenDigit (c : Char) : Char :=
  match Text.digitValue? c with
  | some d => Nat.digitChar d
  | none => c

/-- Behind the letter that names a base, if it is there. -/
def skipBaseLetter (letter : Char) : List Char → List Char
  | '0' :: c :: rest => if c.toLower = letter && !rest.isEmpty then rest else '0' :: c :: rest
  | cs => cs

/-- A number in a base other than ten, with a sign and possibly the letter of the base. -/
def readInBase? (base : Nat) (letter : Char) (cs : List Char) : Option Int :=
  let unsigned? (cs : List Char) : Option Nat :=
    let digits := skipBaseLetter letter (cs.map flattenDigit)
    if digits.isEmpty then none else Text.ofBase? base digits
  match Text.trimNumber cs with
  | '-' :: rest => (unsigned? rest).map fun n => -(n : Int)
  | '+' :: rest => (unsigned? rest).map fun n => (n : Int)
  | rest => (unsigned? rest).map fun n => (n : Int)

/-- Places in base sixty, the highest first. -/
def ofBaseSixty (digits : List Int) : Int :=
  digits.foldl (fun n d => 60 * n + d) 0

/-- A sign in front and what is behind it. -/
def splitSign : List Char → Bool × List Char
  | '-' :: rest => (true, rest)
  | '+' :: rest => (false, rest)
  | rest => (false, rest)

/-- The integer that characters behind a sign denote. -/
def readMagnitude (cs : List Char) : Option Int :=
  match cs with
  | ['0'] => some 0
  | '0' :: 'b' :: rest => readInBase? 2 'b' rest
  | '0' :: 'x' :: rest => readInBase? 16 'x' rest
  | '0' :: _ => readInBase? 8 'o' cs
  | _ =>
    if cs.contains ':' then
      ((Text.splitOn ':' cs).mapM fun part => Text.readInt? (String.ofList part)).map ofBaseSixty
    else Text.readInt? (String.ofList cs)

/-- The integer that a text denotes. -/
def intValue (cs : List Char) : Except Refusal Value :=
  let cs := cs.filter (· != '_')
  let (negative, body) := splitSign cs
  if body.isEmpty then .error (.fault .missingItem)
  else
    match readMagnitude body with
    | some n => .ok (.int (if negative then -n else n))
    | none => .error (.fault .badValue)

/-- A sum of places in base sixty and the weight of the next place, with that place.  The weight
must not be beyond all floating-point numbers. -/
def addSixty (sum : Binary64 × Int) (d : Binary64) : Except Refusal (Binary64 × Int) :=
  match Binary64.ofInt sum.2 with
  | .infinity _ => .error (.fault .outOfRange)
  | factor => .ok (sum.1.add (d.mul factor), 60 * sum.2)

/-- The sum of places in base sixty, the lowest first. -/
def sumSixty (digits : List Binary64) : Except Refusal Binary64 :=
  (digits.foldlM addSixty (.zero false, 1)).map Prod.fst

/-- The floating-point number that characters behind a sign denote. -/
def readFloat (cs : List Char) : Except Refusal Binary64 :=
  if cs == ".inf".toList then .ok (.infinity false)
  else if cs == ".nan".toList then .ok .nan
  else if cs.contains ':' then
    match (Text.splitOn ':' cs).mapM Binary64.ofChars? with
    | some digits => sumSixty digits.reverse
    | none => .error (.fault .badValue)
  else
    match Binary64.ofChars? cs with
    | some x => .ok x
    | none => .error (.fault .badValue)

/-- The floating-point number that a text denotes. -/
def floatValue (cs : List Char) : Except Refusal Value :=
  let cs := Text.lower (cs.filter (· != '_'))
  let (negative, body) := splitSign cs
  if cs.isEmpty then .error (.fault .missingItem)
  else (readFloat body).map fun x => .float (if negative then x.negate else x)

/-- The bytes that a text denotes. -/
def binaryValue (cs : List Char) : Except Refusal Value :=
  if cs.any fun c => 0x7f < c.toNat then .error .badText
  else
    match Text.decodeLooseBase64? cs with
    | some content => .ok (.bytes content)
    | none => .error .badText

/-- The day or time that a text denotes.  A line feed at its end is overlooked. -/
def timestampValue (cs : List Char) : Except Refusal Value :=
  match Timestamp.ofChars? (Text.dropLineFeed cs) with
  | none => .error (.fault .noSuchPart)
  | some t => if t.exists? then .ok (.other t.kind t.shown) else .error (.fault .badValue)

/-- The value of a scalar with a tag for scalars. -/
def scalarValue (tag : Tag) (text : String) : Except Refusal Value :=
  match tag with
  | .null => .ok .null
  | .bool =>
    match truthWords.lookup (Text.lowerText text) with
    | some b => .ok (.bool b)
    | none => .error (.fault .missingKey)
  | .int => intValue text.toList
  | .float => floatValue text.toList
  | .binary => binaryValue text.toList
  | .timestamp => timestampValue text.toList
  | .text => .ok (.text text)
  | _ => .error .badText

/-- Whether a tag is for scalars. -/
def Tag.isScalar : Tag → Bool
  | .null | .bool | .int | .float | .binary | .timestamp | .text => true
  | _ => false

/-- Whether a tag is for collections. -/
def Tag.isCollection : Tag → Bool
  | .orderedMap | .pairs | .set | .sequence | .mapping => true
  | _ => false

/-! ## Mappings -/

/-- Whether two keys are the same.  Numbers and truth values are the same where they are equal. -/
def sameKey (a b : Value) : Bool :=
  match a, b with
  | .text s, .text t => s == t
  | .null, .null => true
  | .float .nan, .float .nan => true
  | .float x, .float y => x.compare? y == some .eq
  | .float x, b => b.count?.any fun n => x.compareInt? n == some .eq
  | a, .float y => a.count?.any fun n => y.compareInt? n == some .eq
  | .bytes s, .bytes t => s == t
  | .other kind s, .other kind' t => kind == kind' && s == t
  | a, b => a.count?.isSome && a.count? == b.count?

/-- Gives a key a value. -/
def putKey (key v : Value) : List (Value × Value) → List (Value × Value)
  | [] => [(key, v)]
  | (k, w) :: rest => if sameKey k key then (k, v) :: rest else (k, w) :: putKey key v rest

/-- The mapping with given entries. -/
def ofKeyed (entries : List (Value × Value)) : Value :=
  let entries := entries.foldl (fun made (k, v) => putKey k v made) []
  let texts := entries.mapM fun (k, v) =>
    match k with
    | .text s => some (s, v)
    | _ => none
  match texts with
  | some texts => .map texts
  | none => .keyed entries

/-- The set whose members are the keys of entries. -/
def setOf (entries : List (Value × Value)) : Value :=
  .set ((entries.foldl (fun made (k, v) => putKey k v made) []).map Prod.fst)

/-- The entries of a mapping with those merged in front that other mappings give it. -/
def mergeEntries : (bound : Nat) → List (Node × Node) → Except Refusal (List (Node × Node))
  | 0, _ => .error .badText
  | bound + 1, entries => do
    let merged ← entries.mapM fun (k, v) =>
      if k.tag != .merge then pure []
      else
        match v with
        | .mapping _ others => mergeEntries bound others
        | .sequence _ items => do
          let lists ← items.mapM fun n =>
            match n with
            | .mapping _ others => mergeEntries bound others
            | _ => throw Refusal.badText
          return lists.reverse.flatten
        | _ => throw .badText
    let own := entries.filterMap fun (k, v) =>
      if k.tag = .merge then none
      else some (if k.tag = .mainValue then k.retag .text else k, v)
    return merged.flatten ++ own

/-- The text of a node where a scalar is asked for.  A mapping may have a main value. -/
def scalarText : (bound : Nat) → Node → Except Refusal String
  | 0, _ => .error .badText
  | bound + 1, n =>
    match n with
    | .scalar _ text => .ok text
    | .mapping _ entries =>
      match entries.find? fun (k, _) => k.tag == .mainValue with
      | some (_, v) => scalarText bound v
      | none => .error .badText
    | _ => .error .badText

/-! ## Nodes -/

/-- A node without a value, and how far it is from the root. -/
structure Trouble where
  depth : Nat
  refusal : Refusal

/-- Two values.  If there are troubles with both, the one nearer to the root decides. -/
def both {α β γ : Type} (f : α → β → γ) :
    Except Trouble α → Except Trouble β → Except Trouble γ
  | .ok a, .ok b => .ok (f a b)
  | .ok _, .error t => .error t
  | .error t, .ok _ => .error t
  | .error t, .error u => .error (if u.depth < t.depth then u else t)

/-- The values of all nodes. -/
def allOf {α β : Type} (f : α → Except Trouble β) : List α → Except Trouble (List β)
  | [] => .ok []
  | a :: rest => both List.cons (f a) (allOf f rest)

/-- An entry of an ordered mapping. -/
def pairOf (k v : Value) : Value :=
  .other "tuple" ("(" ++ k.shown ++ ", " ++ v.shown ++ ")")

/-- The value of a node at some depth. -/
def makeValue : (bound : Nat) → (depth : Nat) → Node → Except Trouble Value
  | 0, depth, _ => .error ⟨depth, .badText⟩
  | bound + 1, depth, n =>
    let fail {α : Type} (depth : Nat) : Except Trouble α := .error ⟨depth, .badText⟩
    let make := makeValue bound (depth + 1)
    let makeEntry (entry : Node × Node) : Except Trouble (Value × Value) :=
      both Prod.mk (if entry.1.tag.isScalar then make entry.1 else fail (depth + 1)) (make entry.2)
    let makeEntries (entries : List (Node × Node)) : Except Trouble (List (Value × Value)) :=
      match mergeEntries bound entries with
      | .ok entries => allOf makeEntry entries
      | .error refusal => .error ⟨depth + 1, refusal⟩
    let makePair (n : Node) : Except Trouble Value :=
      match n with
      | .mapping _ [(k, v)] => both pairOf (make k) (make v)
      | _ => fail (depth + 1)
    if n.tag.isScalar then
      (do
        let text ← scalarText bound n
        match n, n.tag with
        | .mapping _ _, .timestamp => throw (Refusal.fault .wrongKind)
        | _, tag => scalarValue tag text).mapError fun refusal => ⟨depth, refusal⟩
    else
      match n with
      | .sequence .sequence items => (allOf make items).map .list
      | .sequence .orderedMap items | .sequence .pairs items => (allOf makePair items).map .list
      | .mapping .mapping entries => (makeEntries entries).map ofKeyed
      | .mapping .set entries => (makeEntries entries).map setOf
      | n => fail (if n.tag.isCollection then depth + 1 else depth)

/-- The value that a YAML text denotes; null if there is none. -/
def read (s : String) : Except Refusal Value := do
  match ← Node.ofTokens (tokens s.toList) with
  | none => return .null
  | some n => (makeValue (n.height + 2) 0 n).mapError Trouble.refusal

end AudioPlan.Yaml
