import AudioPlan.Rule.Basic
import AudioPlan.Value.Basic

/-!
# The canonical document of a rule set

A rule set as the document that describes it.  Fields that are not set are left out and each value
has one spelling, so that rule sets are equal exactly when their documents are.
-/

namespace AudioPlan

/-- The document form of the codecs of a rule. -/
def Selector.document : Selector → Value
  | .all => .text "*"
  | .anyOf codecs => .list (codecs.map .text)
  | .allExcept codec => .text ("!" ++ codec)

/-- The document form of flags. -/
def flagsDocument (flags : List (String × Bool)) : Value :=
  .map (flags.map fun (flag, value) => (flag, .bool value))

/-- An entry for a value that is set. -/
def optionalEntry {α : Type} (key : String) (form : α → Value) : Option α → List (String × Value)
  | some a => [(key, form a)]
  | none => []

/-- An entry for flags, if there are any. -/
def flagsEntry (flags : List (String × Bool)) : List (String × Value) :=
  if flags.isEmpty then [] else [("dispositions", flagsDocument flags)]

/-- An entry for conditions, if there are any. -/
def conditionsEntry (key : String) (conditions : List Condition) : List (String × Value) :=
  if conditions.isEmpty then []
  else [(key, .list (conditions.map fun c => .text c.text))]

/-- The document form of a title pattern. -/
def TitlePattern.document (t : TitlePattern) : Value :=
  .map [("pattern", .text t.pattern), ("caseSensitive", .bool t.caseSensitive)]

/-- The document form of criteria. -/
def Criteria.document (c : Criteria) : Value :=
  .map ([("codecs", c.codecs.document)] ++ conditionsEntry "channels" c.channels ++
    conditionsEntry "bitrate" c.bitRate ++
    optionalEntry "languages" (fun languages => .list (languages.map .text)) c.languages ++
    optionalEntry "dispositions" flagsDocument c.dispositions ++
    optionalEntry "title" TitlePattern.document c.title)

/-- The document form of an operation. -/
def Operation.document : Operation → Value
  | .copy o =>
    .map [("copy", .map (optionalEntry "title" .text o.title ++ flagsEntry o.dispositions))]
  | .transcode o =>
    .map [("transcode", .map ([("codec", .text o.codec)] ++
      optionalEntry "channels" .int o.channels ++ optionalEntry "bitrate" .int o.bitRate ++
      optionalEntry "title" .text o.title ++ optionalEntry "filters" .text o.filters ++
      flagsEntry o.dispositions))]

/-- The document form of a rule. -/
def Rule.document (r : Rule) : Value :=
  .map (optionalEntry "name" .text r.name ++
    [("match", r.criteria.document), ("operations", .list (r.operations.map Operation.document))])

/-- The canonical document of a rule set. -/
def RuleSet.document (rs : RuleSet) : Value :=
  .list (rs.rules.map Rule.document)

end AudioPlan
