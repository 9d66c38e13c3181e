import AudioPlan.Fault
import AudioPlan.Text.LineEnd
import AudioPlan.Text.Utf8

/-!
# Text files

The text that the bytes of a file stand for.
-/

namespace AudioPlan

/-- The text of bytes in UTF-8, with every line end as a line feed. -/
def fileText (bytes : List UInt8) : Except Fault String :=
  match Text.decodeUtf8 bytes with
  | .ok cs => .ok (String.ofList (Text.unifyLineEnds cs))
  | .error _ => .error .notUtf8

end AudioPlan
