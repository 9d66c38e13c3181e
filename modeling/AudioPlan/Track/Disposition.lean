/-!
# Disposition texts

Flags to set or clear as one text, in which order matters: a true flag in front stands bare and
replaces what the stream had, later ones are added or removed.
-/

namespace AudioPlan

/-- Flags behind the first one. -/
def encodeLaterFlags : List (String × Bool) → String
  | [] => ""
  | (flag, value) :: rest => (if value then "+" else "-") ++ flag ++ encodeLaterFlags rest

/-- Flags as one text, in order. -/
def encodeFlags : List (String × Bool) → String
  | [] => ""
  | (flag, value) :: rest => (if value then "" else "-") ++ flag ++ encodeLaterFlags rest

end AudioPlan
