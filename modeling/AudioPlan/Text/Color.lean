/-!
# Colour codes

Sequences that tell a terminal to change colour, which have no place in plain text: an escape
character, an opening bracket, parameters, and a letter.
-/

namespace AudioPlan.Text

/-- Whether a character may stand among the parameters of a colour code. -/
def isColorParameter (c : Char) : Bool :=
  c == ';' || c == '?' || ('0' ≤ c && c ≤ '9')

/-- How many characters the colour code in front takes. -/
def colorLength? : List Char → Option Nat
  | '\x1b' :: '[' :: rest =>
    match rest.dropWhile isColorParameter with
    | c :: _ =>
      if ('a' ≤ c && c ≤ 'z') || ('A' ≤ c && c ≤ 'Z') then
        some ((rest.takeWhile isColorParameter).length + 3)
      else none
    | [] => none
  | _ => none

/-- A text without colour codes; `skip` characters belong to the last code. -/
def dropColorsFrom : (skip : Nat) → List Char → List Char
  | _, [] => []
  | skip + 1, _ :: cs => dropColorsFrom skip cs
  | 0, c :: cs =>
    match colorLength? (c :: cs) with
    | some n => dropColorsFrom (n - 1) cs
    | none => c :: dropColorsFrom 0 cs

/-- A text without colour codes. -/
def dropColors (cs : List Char) : List Char :=
  dropColorsFrom 0 cs

end AudioPlan.Text
