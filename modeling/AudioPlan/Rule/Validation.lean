import AudioPlan.Regex.Matcher
import AudioPlan.Rule.Basic
import AudioPlan.Rule.Checked
import AudioPlan.Text.Case
import AudioPlan.Text.Utf8

/-!
# Validation of rule documents

A decoded document becomes a rule set, or is refused as a whole with all its problems.  Within an
object the problems of the known fields come first, in the order in which they are declared, and
those of unknown keys follow in the order of the document.

* `validate` is the whole check;
* `Rejection` is what it answers for a document that is no rule set.
-/

namespace AudioPlan

/-! ## Texts and truth values -/

/-- A text. -/
def checkText : Value → Checked String
  | .text s => .good s
  | _ => .fail .notText

/-- A text, or bytes that are one in UTF-8. -/
def readText : Value → Checked String
  | .bytes content =>
    match Text.decodeUtf8 content with
    | .ok cs => .good (String.ofList cs)
    | .error _ => .fail .notUnicode
  | v => checkText v

/-- A truth value written as such. -/
def checkTruth : Value → Checked Bool
  | .bool b => .good b
  | _ => .fail .notTruth

/-- The truth value that a word denotes, in small letters. -/
def truthWord? : String → Option Bool
  | "0" | "off" | "f" | "false" | "n" | "no" => some false
  | "1" | "on" | "t" | "true" | "y" | "yes" => some true
  | _ => none

/-- The truth value that a number denotes. -/
def truthNumber : Int → Checked Bool
  | 0 => .good false
  | 1 => .good true
  | _ => .fail .unclearTruth

/-- The truth value that a text denotes, in any letter case. -/
def truthText (s : String) : Checked Bool :=
  match truthWord? (s.map Char.toLower) with
  | some b => .good b
  | none => .fail .unclearTruth

/-- A truth value in any of its spellings: as such, as the number 0 or 1, or as a word, which may
also be given as bytes. -/
def readTruth : Value → Checked Bool
  | .bool b => .good b
  | .text s => truthText s
  | .bytes content =>
    match Text.decodeUtf8 content with
    | .ok cs => truthText (String.ofList cs)
    | .error _ => .fail .unclearTruth
  | .int n => if isMachineSized n then truthNumber n else .fail .notTruth
  | .float x =>
    match x.toInt? with
    | some n =>
      if isMachineSized n && n != -0x8000000000000000 then truthNumber n else .fail .notTruth
    | none => .fail .notTruth
  | _ => .fail .notTruth

/-- The texts of a list, or the first item that is none with its position. -/
def textItems (field : String) : (position : Nat) → List Value → Checked (List String)
  | _, [] => .good []
  | position, .text s :: rest => (textItems field (position + 1) rest).map (s :: ·)
  | position, v :: _ => .fail (.entryNotText field v.kind position)

/-- A text or a list of texts. -/
def checkTexts (field : String) : Value → Checked (List String)
  | .text s => .good [s]
  | .list items => textItems field 0 items
  | _ => .fail (.notTextOrList field)

/-- The entries of flags, each checked for its key and its value. -/
def checkFlagEntries (check : Value → Checked Bool) :
    List (Value × Value) → Checked (List (String × Bool))
  | [] => .good []
  | (key, v) :: rest =>
    let name := ((readText key).under (.field "[key]")).under (keyStep key)
    let entry := Checked.both Prod.mk name ((check v).under (keyStep key))
    Checked.both (· :: ·) entry (checkFlagEntries check rest)

/-- Flags with their values.  Of two keys for one flag the later gives the value. -/
def checkFlags (check : Value → Checked Bool) (entries : List (Value × Value)) :
    Checked (List (String × Bool)) :=
  (checkFlagEntries check entries).map ofEntries

/-! ## Criteria -/

/-- The codecs that a rule is for. -/
def checkCodecs : Value → Checked Selector
  | .list items => (textItems "codecs" 0 items).map fun codecs => .anyOf (codecs.map Text.lowerText)
  | .text s =>
    match s.toList with
    | ['*'] => .good .all
    | '!' :: c :: rest => .good (.allExcept (String.ofList (Text.lower (c :: rest))))
    | _ => .fail .badCodecs
  | _ => .fail .badCodecs

/-- Why a text is no condition. -/
def conditionCause (s : String) : Cause :=
  match Condition.partsOf? s.toList with
  | some (_, digits) => .boundTooLong digits.length
  | none => .badCondition s

/-- The conditions that texts denote, or the first text that denotes none. -/
def readConditions : List String → Checked (List Condition)
  | [] => .good []
  | s :: rest =>
    match Condition.ofText? s with
    | some c => (readConditions rest).map (c :: ·)
    | none => .fail (conditionCause s)

/-- One condition or a list of them. -/
def checkConditions (field : String) : Value → Checked (List Condition)
  | .null => .good []
  | v =>
    match checkTexts field v with
    | .good texts => readConditions texts
    | .bad first rest => .bad first rest

/-- The flags that a track must have. -/
def checkDispositions : Value → Checked (Option (List (String × Bool)))
  | .null => .good none
  | v =>
    match v.fields? with
    | some entries => (checkFlags readTruth entries).map some
    | none => .fail .dispositionsNotObject

/-- A pattern with each pair of backslashes made one. -/
def collapseBackslashes : List Char → List Char
  | '\\' :: '\\' :: rest => '\\' :: collapseBackslashes rest
  | c :: rest => c :: collapseBackslashes rest
  | [] => []

/-- The normal form of a pattern.  Patterns often arrive inside escaped text, so a pair of
backslashes means one. -/
def normalizePattern (pattern : String) : String :=
  String.ofList (collapseBackslashes pattern.toList)

/-- The cause for which a pattern is refused. -/
def patternCause (pattern : String) : Regex.Refusal → Cause
  | .problem problem offset => .badPattern (problem.describe offset pattern.toList)
  | .twoAlphabets => .twoAlphabets
  | .tooManyRounds => .uncountable
  | .tooManyDigits digits => .boundTooLong digits

/-- A pattern in normal form that is a regular expression. -/
def checkPattern : Value → Checked String
  | .text s =>
    let pattern := normalizePattern s
    match Regex.compile pattern false with
    | .ok _ => .good pattern
    | .error refusal => .fail (patternCause pattern refusal)
  | _ => .fail .notText

/-- The two spellings of the key for case sensitivity; the second counts when the first is not
there. -/
def caseKey (entries : List (Value × Value)) : String :=
  if (fieldNamed "caseSensitive" entries).isSome then "caseSensitive"
  else if (fieldNamed "case_sensitive" entries).isSome then "case_sensitive"
  else "caseSensitive"

/-- A title pattern. -/
def checkTitle (v : Value) : Checked TitlePattern :=
  match v.fields? with
  | none => .fail (.notObject .title)
  | some entries =>
    let key := caseKey entries
    (Checked.both TitlePattern.mk (required "pattern" checkPattern entries)
      (optional key false checkTruth entries)).alongside (strays ["pattern", key] entries)

/-- The fields of criteria. -/
def criteriaFields : List String :=
  ["codecs", "channels", "bitrate", "languages", "dispositions", "title"]

/-- The criteria of a rule. -/
def checkCriteria : Value → Checked Criteria :=
  object .criteria criteriaFields fun entries =>
    let codecs := required "codecs" checkCodecs entries
    let channels := optional "channels" [] (checkConditions "channels") entries
    let bitRate := optional "bitrate" [] (checkConditions "bitrate") entries
    let languages := optional "languages" none (nullable (checkTexts "languages")) entries
    let dispositions := optional "dispositions" none checkDispositions entries
    let title := optional "title" none (nullable checkTitle) entries
    ((((codecs.map Criteria.mk).both (· ·) channels).both (· ·) bitRate).both (· ·)
      languages).both (· ·) dispositions |>.both (· ·) title

/-! ## Operations -/

/-- The flags that an operation sets or clears. -/
def checkOperationFlags (v : Value) : Checked (List (String × Bool)) :=
  match v.fields? with
  | some entries => checkFlags checkTruth entries
  | none => .fail .notMapping

/-- Flags that may be null, which is the same as having none. -/
def checkOptionalFlags : Value → Checked (List (String × Bool))
  | .null => .good []
  | v => checkOperationFlags v

/-- A positive count; zero leaves it to the source, and a floating-point number without a fraction
counts as an integer. -/
def readCount : Value → Checked (Option Int)
  | .null => .good none
  | .int n => ofInt n
  | .float x =>
    match x.toInt? with
    | some n => ofInt n
    | none => .fail .notInteger
  | _ => .fail .notInteger
where
  /-- The count that an integer denotes. -/
  ofInt (n : Int) : Checked (Option Int) :=
    if n = 0 then .good none
    else if n < 0 then .fail .notPositive
    else .good (some n)

/-- The name of a codec. -/
def checkCodecName : Value → Checked String
  | .text s => if s.isEmpty then .fail .textTooShort else .good s
  | _ => .fail .notText

/-- A copy operation. -/
def checkCopy : Value → Checked CopyOperation :=
  object .copy ["title", "dispositions"] fun entries =>
    Checked.both CopyOperation.mk (optional "title" none (nullable checkText) entries)
      (optional "dispositions" [] checkOptionalFlags entries)

/-- The fields of a transcode operation. -/
def transcodeFields : List String :=
  ["codec", "channels", "bitrate", "title", "dispositions", "filters"]

/-- A transcode operation. -/
def checkTranscode : Value → Checked TranscodeOperation :=
  object .transcode transcodeFields fun entries =>
    let codec := required "codec" checkCodecName entries
    let channels := optional "channels" none readCount entries
    let bitRate := optional "bitrate" none readCount entries
    let title := optional "title" none (nullable checkText) entries
    let dispositions := optional "dispositions" [] checkOptionalFlags entries
    let filters := optional "filters" none (nullable checkText) entries
    ((((codec.map TranscodeOperation.mk).both (· ·) channels).both (· ·) bitRate).both (· ·)
      title).both (· ·) dispositions |>.both (· ·) filters

/-- One operation: an object with exactly one of the two kinds of operation in it. -/
def checkOperation (v : Value) : Checked Operation :=
  match v.fields? with
  | none => .fail (.notObject .operation)
  | some entries =>
    let known := strays ["copy", "transcode"] entries
    match fieldNamed "copy" entries, fieldNamed "transcode" entries with
    | some .null, none => .fail (.emptyOperation "copy")
    | none, some .null => .fail (.emptyOperation "transcode")
    | some copy, none => ((checkCopy copy).map .copy |>.under (.field "copy")).alongside known
    | none, some transcode =>
      ((checkTranscode transcode).map .transcode |>.under (.field "transcode")).alongside known
    | _, _ => .fail .notOneOperation

/-- The operations of a rule.  A set counts as a list; no member of a set is an operation. -/
def checkOperations : Value → Checked (List Operation)
  | .list items | .set items => Checked.items checkOperation 0 items
  | _ => .fail .notList

/-! ## Rules -/

/-- One rule. -/
def checkRule : Value → Checked Rule :=
  object .rule ["name", "match", "operations"] fun entries =>
    let name := optional "name" none (nullable checkText) entries
    let criteria := required "match" checkCriteria entries
    let operations := required "operations" checkOperations entries
    (name.both (fun name criteria operations => Rule.mk criteria operations name) criteria).both
      (· ·) operations

/-- Why a document is no rule set. -/
inductive Rejection where
  /-- The root is not a list but a value of the named kind. -/
  | notList (kind : String)
  /-- The problems of the document. -/
  | issues (first : Issue) (rest : List Issue)
  /-- A title pattern asks for more rounds than can be counted. -/
  | uncountable
  deriving Repr, DecidableEq

/-- The rejection for the problems of a document. -/
def Rejection.ofIssues (first : Issue) (rest : List Issue) : Rejection :=
  if (first :: rest).any (·.cause == .uncountable) then .uncountable else .issues first rest

/-- The rule set that a decoded document describes. -/
def validate : Value → Except Rejection RuleSet
  | .list items =>
    match Checked.items checkRule 0 items with
    | .good rules => .ok ⟨rules⟩
    | .bad first rest => .error (.ofIssues first rest)
  | v => .error (.notList v.kind)

namespace Rejection

/-- The wording of a rejection: that of the first problem, behind its place. -/
def message : Rejection → String
  | .notList kind => "Expected a list of rules at the document root (got " ++ kind ++ ")"
  | .issues first _ => first.path ++ ": " ++ first.message
  | .uncountable => Cause.uncountable.message

/-- The place of a rejection. -/
def path : Rejection → String
  | .issues first _ => first.path
  | _ => "rules"

/-- The problems of a rejection. -/
def allIssues : Rejection → List Issue
  | .issues first rest => first :: rest
  | _ => []

end Rejection

end AudioPlan
