import AudioPlan.Text.LineEnd
import AudioPlan.Text.Replace
import AudioPlan.Yaml.Timestamp

/-!
# Tags

A tag says what a node stands for.  A plain scalar without a tag gets one from the way it is
written.
-/

namespace AudioPlan.Yaml

/-- What a node stands for. -/
inductive Tag where
  | null
  | bool
  | int
  | float
  | binary
  | timestamp
  | orderedMap
  | pairs
  | set
  | text
  | sequence
  | mapping
  /-- The key under which other mappings are merged in. -/
  | merge
  /-- The key of the main value of a mapping. -/
  | mainValue
  | unknown
  deriving Repr, DecidableEq, Inhabited

/-- What the names of the common tags start with. -/
def commonTags : String := "tag:yaml.org,2002:"

/-- The common tags by the rest of their names. -/
def Tag.names : List (String × Tag) :=
  [("null", .null), ("bool", .bool), ("int", .int), ("float", .float), ("binary", .binary),
   ("timestamp", .timestamp), ("omap", .orderedMap), ("pairs", .pairs), ("set", .set),
   ("str", .text), ("seq", .sequence), ("map", .mapping), ("merge", .merge), ("value", .mainValue)]

/-- The tag with a full name. -/
def Tag.ofName (name : String) : Tag :=
  ((Tag.names.find? fun (rest, _) => commonTags ++ rest == name).map Prod.snd).getD .unknown

/-! ## Plain scalars -/

/-- The truth values by their words. -/
def truthWords : List (String × Bool) :=
  [("yes", true), ("no", false), ("true", true), ("false", false), ("on", true), ("off", false)]

/-- The word in small letters, if it is written in small letters, with a capital or in capitals. -/
def wordForm? (word : String) (cs : List Char) : Bool :=
  let small := word.toList
  let capitals := small.map Char.toUpper
  cs == small || cs == capitals || cs == capitals.take 1 ++ small.drop 1

/-- Whether characters are a word for a truth value. -/
def isTruth (cs : List Char) : Bool :=
  truthWords.any fun (word, _) => wordForm? word cs

/-- Whether characters stand for null. -/
def isNull (cs : List Char) : Bool :=
  cs.isEmpty || cs == ['~'] || wordForm? "null" cs

/-- Behind a sign, if there is one. -/
def skipSign : List Char → List Char
  | '+' :: rest => rest
  | '-' :: rest => rest
  | rest => rest

/-- Whether characters are plain digits and underscores. -/
def areSpacedDigits (cs : List Char) : Bool :=
  cs.all fun c => Text.isPlainDigit c || c == '_'

/-- Whether characters are such digits behind a digit. -/
def isSpacedNumber : List Char → Bool
  | c :: rest => Text.isPlainDigit c && areSpacedDigits rest
  | [] => false

/-- Whether characters are a number below sixty with one or two digits. -/
def isSixtieth : List Char → Bool
  | [c] => Text.isPlainDigit c
  | [c, d] => '0' ≤ c && c ≤ '5' && Text.isPlainDigit d
  | _ => false

/-- Whether characters are a number followed by sixtieths behind colons. -/
def isBaseSixty (cs : List Char) : Bool :=
  match Text.splitOn ':' cs with
  | first :: second :: rest => isSpacedNumber first && (second :: rest).all isSixtieth
  | _ => false

/-- Whether characters are an exponent with a sign, or nothing. -/
def isExponent : List Char → Bool
  | [] => true
  | e :: sign :: rest =>
    (e == 'e' || e == 'E') && (sign == '+' || sign == '-') && !rest.isEmpty &&
      rest.all Text.isPlainDigit
  | _ => false

/-- Whether characters are digits and underscores, and then perhaps an exponent. -/
def isFraction (cs : List Char) : Bool :=
  isExponent (cs.dropWhile fun c => Text.isPlainDigit c || c == '_')

/-- Whether characters are a floating-point number. -/
def isFloat (cs : List Char) : Bool :=
  let body := skipSign cs
  let whole := body.takeWhile (· != '.')
  match body.dropWhile (· != '.') with
  | [] => false
  | _ :: fraction =>
    if whole.isEmpty then
      wordForm? "inf" fraction ||
        (cs == body &&
          (fraction ∈ ["nan".toList, "NaN".toList, "NAN".toList] ||
            (fraction.head?.any Text.isPlainDigit && isFraction fraction)))
    else if isSpacedNumber whole then isFraction fraction
    else isBaseSixty whole && areSpacedDigits fraction

/-- Whether characters are an integer. -/
def isInt (cs : List Char) : Bool :=
  match skipSign cs with
  | '0' :: 'b' :: rest => !rest.isEmpty && rest.all fun c => c == '0' || c == '1' || c == '_'
  | '0' :: 'x' :: rest =>
    !rest.isEmpty && rest.all fun c => c == '_' || (Text.baseDigit? c).any (· < 16)
  | '0' :: rest => rest.all fun c => c == '_' || ('0' ≤ c && c ≤ '7')
  | body => isSpacedNumber body || isBaseSixty body

/-- The tag of a plain scalar. -/
def Tag.ofPlain (cs : List Char) : Tag :=
  if isTruth cs then .bool
  else if isFloat cs then .float
  else if isInt cs then .int
  else if cs == ['<', '<'] then .merge
  else if isNull cs then .null
  else if Timestamp.isPlain cs then .timestamp
  else if cs == ['='] then .mainValue
  else .text

/-- The tag of a scalar that asks to be treated like a plain one.  A line feed at its end is
overlooked, but a line feed alone is a text. -/
def Tag.ofText (cs : List Char) : Tag :=
  if cs == ['\n'] then .text else .ofPlain (Text.dropLineFeed cs)

end AudioPlan.Yaml
