import AudioPlan.Text.Quoted

/-!
# Problems in rule documents

A problem has a cause and a place.  The place is the path from the root of the document: the name of
a field, or the position of an item, for each step down.
-/

namespace AudioPlan

/-- The kinds of object that a rule document is made of. -/
inductive Part where
  | rule
  | criteria
  | title
  | operation
  | copy
  | transcode
  deriving Repr, DecidableEq

/-- The name of a kind of object in messages. -/
def Part.name : Part → String
  | .rule => "RuleModel"
  | .criteria => "MatchModel"
  | .title => "TitleMatchModel"
  | .operation => "OperationModel"
  | .copy => "CopyModel"
  | .transcode => "TranscodeModel"

/-- The cause of a problem. -/
inductive Cause where
  | missing
  | unknownField
  | keyNotText
  | notObject (part : Part)
  | notList
  | notMapping
  | notText
  | notUnicode
  | textTooShort
  | notInteger
  | notPositive
  | notTruth
  | unclearTruth
  | badCodecs
  | entryNotText (field kind : String) (position : Nat)
  | notTextOrList (field : String)
  | badCondition (text : String)
  /-- The bound of a condition or a number of rounds has more digits than are read. -/
  | boundTooLong (digits : Nat)
  | dispositionsNotObject
  | badPattern (reason : String)
  | twoAlphabets
  | notOneOperation
  | emptyOperation (name : String)
  /-- A title pattern asks for more rounds than can be counted; nothing is reported then. -/
  | uncountable
  deriving Repr, DecidableEq

/-- The wording of the problem of a text that is no condition. -/
def badConditionMessage (text : String) : String :=
  "Invalid numeric condition " ++ Text.quoted text ++
    "; expected an integer optionally prefixed with <=, >=, <, > or ="

/-- The wording of the problem of a number with too many digits. -/
def boundTooLongMessage (digits : Nat) : String :=
  s!"Exceeds the limit (4300 digits) for integer string conversion: value has {digits} digits; " ++
    "use sys.set_int_max_str_digits() to increase the limit"

/-- The wording of a cause. -/
def Cause.message : Cause → String
  | .missing => "Field required"
  | .unknownField => "Extra inputs are not permitted"
  | .keyNotText => "Keys should be strings"
  | .notObject part => "Input should be a valid dictionary or instance of " ++ part.name
  | .notList => "Input should be a valid list"
  | .notMapping => "Input should be a valid dictionary"
  | .notText => "Input should be a valid string"
  | .notUnicode =>
    "Input should be a valid string, unable to parse raw data as a unicode string"
  | .textTooShort => "String should have at least 1 character"
  | .notInteger => "Input should be a valid integer"
  | .notPositive => "Input should be greater than 0"
  | .notTruth => "Input should be a valid boolean"
  | .unclearTruth => "Input should be a valid boolean, unable to interpret input"
  | .badCodecs => "'codecs' must be a list of codecs, '*', or '!codec'"
  | .entryNotText field kind position =>
    s!"'{field}' entries must be strings (got {kind} at index {position})"
  | .notTextOrList field => s!"'{field}' must be a string or a list of strings"
  | .badCondition text => badConditionMessage text
  | .boundTooLong digits => boundTooLongMessage digits
  | .dispositionsNotObject => "'dispositions' must be an object"
  | .badPattern reason => "Invalid regex pattern: " ++ reason
  | .twoAlphabets => "ASCII and UNICODE flags are incompatible"
  | .notOneOperation => "Operation must have exactly one of 'copy' or 'transcode'"
  | .emptyOperation name => s!"'{name}' operation must be an object"
  | .uncountable => "the repetition number is too large"

/-- The code word of a cause. -/
def Cause.code : Cause → String
  | .missing => "missing"
  | .unknownField => "extra_forbidden"
  | .keyNotText => "invalid_key"
  | .notObject _ => "model_type"
  | .notList => "list_type"
  | .notMapping => "dict_type"
  | .notText => "string_type"
  | .notUnicode => "string_unicode"
  | .textTooShort => "string_too_short"
  | .notInteger => "int_type"
  | .notPositive => "greater_than"
  | .notTruth => "bool_type"
  | .unclearTruth => "bool_parsing"
  | _ => "value_error"

/-- One step of a place. -/
inductive Step where
  | field (name : String)
  | item (position : Int)
  deriving Repr, DecidableEq

/-- A step written behind a path. -/
def Step.appendTo (path : String) : Step → String
  | .field name => path ++ "." ++ name
  | .item position => s!"{path}[{position}]"

/-- A problem: its place from the root downwards, and its cause. -/
structure Issue where
  place : List Step
  cause : Cause
  deriving Repr, DecidableEq

/-- The place of a problem as a path. -/
def Issue.path (i : Issue) : String :=
  i.place.foldl Step.appendTo "rules"

/-- The wording of a problem. -/
def Issue.message (i : Issue) : String :=
  i.cause.message

/-- A problem seen from one step further up. -/
def Issue.under (step : Step) (i : Issue) : Issue :=
  { i with place := step :: i.place }

end AudioPlan
