import AudioPlan.Fault
import AudioPlan.Json.Reader
import AudioPlan.Json.Writer
import AudioPlan.Rule.Document
import AudioPlan.Text.Base64
import AudioPlan.Text.Replace
import AudioPlan.Text.Utf8

/-!
# Markers

A processed file carries a marker that holds the rules it was processed with.  The token in it is
the canonical document of the rule set as compact JSON, in UTF-8 and base64, so equal rule sets have
equal markers and the rules can be recovered.

* `RuleSet.payload`, `RuleSet.token` and `RuleSet.watermark` are the texts;
* `RuleSet.marker` makes the marker, which fails for an integer with too many digits;
* `alreadyProcessed` and `appendMarker` are the guard against processing a file twice;
* `extractTokens` and `decodeToken` go back from marker texts to tokens and documents.
-/

namespace AudioPlan

/-- What a marker starts with. -/
def markerStart : String := "[trackrules:audio_rules:"

/-- What a marker ends with. -/
def markerEnd : String := "]"

/-- The canonical document as compact JSON. -/
def RuleSet.payload (rs : RuleSet) : String :=
  Json.compact.text rs.document

/-- The token that holds a text. -/
def tokenOf (payload : String) : String :=
  String.ofList (Text.encodeBase64 (Text.encodeUtf8 payload.toList))

/-- The token of a rule set. -/
def RuleSet.token (rs : RuleSet) : String :=
  tokenOf rs.payload

/-- The marker around a token. -/
def formatMarker (token : String) : String :=
  markerStart ++ token ++ markerEnd

/-- The marker of a rule set, its integers written out however long they are. -/
def RuleSet.watermark (rs : RuleSet) : String :=
  formatMarker rs.token

/-- The marker of a rule set, which is made only if all its integers can be written. -/
def RuleSet.marker (rs : RuleSet) : Except Fault String := do
  let payload ← Json.compact.render rs.document
  return formatMarker (tokenOf payload)

/-- Whether a marker text already carries a marker. -/
def alreadyProcessed (prior : Option String) (marker : String) : Bool :=
  match prior with
  | some prior => !prior.isEmpty && Text.occursIn marker.toList prior.toList
  | none => false

/-- The marker text to write; what was there stays, so other markers survive. -/
def appendMarker (prior : Option String) (marker : String) : String :=
  prior.getD "" ++ marker

/-- The token of a marker in front, which is any text in the alphabet with at most two signs of
padding. -/
def tokenAt? (cs : List Char) : Option (List Char) := do
  let rest ← Text.dropFront? markerStart.toList cs
  let isData (c : Char) : Bool := (Text.base64Value? c).isSome
  let data := rest.takeWhile isData
  let after := rest.dropWhile isData
  let pads := after.takeWhile (· == '=')
  if data.isEmpty || 2 < pads.length then none
  else if (after.dropWhile (· == '=')).head? == some ']' then some (data ++ pads)
  else none

/-- The tokens of all markers from left to right; `skip` characters belong to the last marker. -/
def tokensFrom : (skip : Nat) → List Char → List (List Char)
  | _, [] => []
  | skip + 1, _ :: cs => tokensFrom skip cs
  | 0, c :: cs =>
    match tokenAt? (c :: cs) with
    | some token => token :: tokensFrom (markerStart.length + token.length) cs
    | none => tokensFrom 0 cs

/-- The tokens of all markers in a text, in order. -/
def extractTokens (text : String) : List String :=
  (tokensFrom 0 text.toList).map String.ofList

/-- Why a token cannot be decoded. -/
inductive DecodeError where
  | notMarker (text : String)
  | notBase64 (problem : Text.Base64Problem)
  | notUtf8 (fault : Text.Utf8Fault)
  | notJson (error : Json.SyntaxError)
  | notList
  /-- The token has characters that no base64 text can have. -/
  | notAscii
  deriving Repr, DecidableEq

/-- The wording of an error. -/
def DecodeError.message : DecodeError → String
  | .notMarker text => "Not a trackrules marker: " ++ Text.quoted text
  | .notBase64 problem => "Invalid watermark token: " ++ problem.message
  | .notUtf8 fault => "Invalid watermark token: " ++ fault.message
  | .notJson error => "Watermark token is not JSON: " ++ error.message
  | .notList => "Watermark token does not hold a rule list"
  | .notAscii => "string argument should contain only ASCII characters"

/-- The document that a bare token holds. -/
def decodeBareToken (token : List Char) : Except DecodeError (List Value) := do
  if token.any fun c => 0x7f < c.toNat then throw .notAscii
  let bytes ← (Text.decodeBase64 token).mapError .notBase64
  let payload ← (Text.decodeUtf8 bytes).mapError .notUtf8
  match ← (Json.read (String.ofList payload)).mapError .notJson with
  | .list items => return items
  | _ => throw .notList

/-- The rule document that a token holds, or the first marker in a text that starts with a bracket.
Blanks around it are ignored. -/
def decodeToken (text : String) : Except DecodeError (List Value) :=
  match Text.trim text.toList with
  | '[' :: rest =>
    match tokensFrom 0 ('[' :: rest) with
    | token :: _ => decodeBareToken token
    | [] => .error (.notMarker (String.ofList ('[' :: rest)))
  | token => decodeBareToken token

end AudioPlan
