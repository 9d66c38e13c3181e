import AudioPlan.Binary64.Shortest
import AudioPlan.Text.Number
import AudioPlan.Text.Quoted

/-!
# Values

What a document, a probe report or a configuration file holds once its text has been read: null,
truth values, integers, floating-point numbers, text, lists and mappings.  Mappings keep the order
in which their entries were written.  More cases exist for formats that can write more than that: a
mapping some of whose keys are not text, bytes, a set, and a value of a kind that nothing here looks
into, such as a date.

* `given` says which values count as given;
* `kind` names the kind of a value, `shown` writes a value as messages show it;
* `fits` says that all integers in a value can be written, `written` is the text of a value then;
* `put` and `lookup` are the operations on the entries of a mapping.
-/

namespace AudioPlan

/-- A value read from a document. -/
inductive Value where
  | null
  | bool (b : Bool)
  | int (n : Int)
  | float (x : Binary64)
  | text (s : String)
  | list (items : List Value)
  | map (entries : List (String × Value))
  /-- A mapping with a key that is not text. -/
  | keyed (entries : List (Value × Value))
  | bytes (content : List UInt8)
  | set (members : List Value)
  /-- A value of another kind, with the name of the kind and the form that messages show. -/
  | other (kind shown : String)
  deriving Repr, Inhabited

/-- Gives a key a value: in its place when the key is there, at the end otherwise. -/
def put {α β : Type} [BEq α] (key : α) (value : β) : List (α × β) → List (α × β)
  | [] => [(key, value)]
  | (k, v) :: rest => if k == key then (k, value) :: rest else (k, v) :: put key value rest

/-- The mapping that a list of entries describes: a repeated key keeps its first place and its last
value. -/
def ofEntries {α β : Type} [BEq α] (entries : List (α × β)) : List (α × β) :=
  entries.foldl (fun map (k, v) => put k v map) []

namespace Value

/-- The name of a value's kind. -/
def kind : Value → String
  | .null => "NoneType"
  | .bool _ => "bool"
  | .int _ => "int"
  | .float _ => "float"
  | .text _ => "str"
  | .list _ => "list"
  | .map _ | .keyed _ => "dict"
  | .bytes _ => "bytes"
  | .set _ => "set"
  | .other kind _ => kind

/-- Whether a value counts as given: null, false, zero and what is empty do not. -/
def given : Value → Bool
  | .null => false
  | .bool b => b
  | .int n => n != 0
  | .float x => x.isNonzero
  | .text s => !s.isEmpty
  | .list items => !items.isEmpty
  | .map entries => !entries.isEmpty
  | .keyed entries => !entries.isEmpty
  | .bytes content => !content.isEmpty
  | .set members => !members.isEmpty
  | .other _ _ => true

/-- The value under a key of a mapping; null when there is none. -/
def get (key : String) (entries : List (String × Value)) : Value :=
  (entries.lookup key).getD .null

mutual

/-- A value as messages show it. -/
def shown : Value → String
  | .null => "None"
  | .bool true => "True"
  | .bool false => "False"
  | .int n => toString n
  | .float x => Binary64.plain.render x
  | .text s => Text.quoted s
  | .list items => "[" ++ ", ".intercalate (shownItems items) ++ "]"
  | .map entries => "\x7b" ++ ", ".intercalate (shownEntries entries) ++ "\x7d"
  | .keyed entries => "\x7b" ++ ", ".intercalate (shownKeyed entries) ++ "\x7d"
  | .bytes content => Text.quotedBytes content
  | .set [] => "set()"
  | .set members => "\x7b" ++ ", ".intercalate (shownItems members) ++ "\x7d"
  | .other _ shown => shown

/-- The items of a list as messages show them. -/
def shownItems : List Value → List String
  | [] => []
  | v :: rest => v.shown :: shownItems rest

/-- The entries of a mapping as messages show them. -/
def shownEntries : List (String × Value) → List String
  | [] => []
  | (k, v) :: rest => (Text.quoted k ++ ": " ++ v.shown) :: shownEntries rest

/-- The entries of a mapping with other keys as messages show them. -/
def shownKeyed : List (Value × Value) → List String
  | [] => []
  | (k, v) :: rest => (k.shown ++ ": " ++ v.shown) :: shownKeyed rest

end

/-- The text of a value by itself: a text stands without quotation marks. -/
def toText : Value → String
  | .text s => s
  | v => v.shown

mutual

/-- Whether all integers in a value can be written. -/
def fits : Value → Bool
  | .int n => Text.fits n
  | .list items => fitItems items
  | .map entries => fitEntries entries
  | .keyed entries => fitKeyed entries
  | .set members => fitItems members
  | _ => true

/-- Whether all integers in the items of a list can be written. -/
def fitItems : List Value → Bool
  | [] => true
  | v :: rest => v.fits && fitItems rest

/-- Whether all integers in the entries of a mapping can be written. -/
def fitEntries : List (String × Value) → Bool
  | [] => true
  | (_, v) :: rest => v.fits && fitEntries rest

/-- Whether all integers in the entries of a mapping with other keys can be written. -/
def fitKeyed : List (Value × Value) → Bool
  | [] => true
  | (k, v) :: rest => k.fits && v.fits && fitKeyed rest

end

/-- A text made of a value, which needs all its integers to be written. -/
def ifFits (v : Value) (text : String) : Except Fault String :=
  if v.fits then .ok text else .error .badValue

/-- The text of a value by itself, if it can be written. -/
def written (v : Value) : Except Fault String :=
  v.ifFits v.toText

/-- The integer that a truth value or integer counts as. -/
def count? : Value → Option Int
  | .bool b => some b.toNat
  | .int n => some n
  | _ => none

/-- How a number compares with an integer; nothing for what is not a number or not ordered. -/
def compareInt? (v : Value) (n : Int) : Option Ordering :=
  match v with
  | .bool b => some (compare (b.toNat : Int) n)
  | .int m => some (compare m n)
  | .float x => x.compareInt? n
  | _ => none

/-- Whether a value is a number, truth values included. -/
def isNumber : Value → Bool
  | .bool _ | .int _ | .float _ => true
  | _ => false

/-- Whether a value equals an integer. -/
def equalsInt (v : Value) (n : Int) : Bool :=
  v.compareInt? n == some .eq

end Value

end AudioPlan
