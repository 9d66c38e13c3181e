import AudioPlan.Text.Quoted

/-!
# What can be wrong with a regular expression

The causes for which a regular expression is refused, and their wording.
-/

namespace AudioPlan.Regex

/-- Why an expression cannot be read. -/
inductive Problem where
  | escapeAtEnd
  | incompleteEscape (escape : String)
  | badEscape (escape : String)
  | missingBrace
  | missingName (what : String)
  | unterminatedName (terminator : String)
  | unknownCharacterName (name : String)
  | octalTooLarge (escape : String)
  | openGroup
  | groupBehind
  | invalidGroup (number : Nat)
  | unterminatedSet
  | badRange (first last : String)
  | repeatOrder
  | nothingToRepeat
  | multipleRepeat
  | unexpectedEnd
  | unknownExtension (text : String)
  | badGroupName (name : String)
  | unknownGroupName (name : String)
  | unterminatedComment
  | unterminatedGroup
  | badGroupNumber
  | tooManyBranches
  | flagsNotAtStart
  | groupRedefined (name : String) (index earlier : Nat)
  | localeFlag
  | incompatibleFlags
  | unknownFlag
  | missingFlagEnd
  | missingFlag
  | missingColon
  | turnOnGlobal
  | turnOffGlobal
  | turnOffAlphabet
  | turnedOnAndOff
  | unbalanced
  | variableBehind
  | tooFarBehind
  | templateRepeat (operator : String)
  deriving Repr, DecidableEq

/-- The wording of a problem. -/
def Problem.message : Problem → String
  | .escapeAtEnd => "bad escape (end of pattern)"
  | .incompleteEscape escape => "incomplete escape " ++ escape
  | .badEscape escape => "bad escape " ++ escape
  | .missingBrace => "missing \x7b"
  | .missingName what => "missing " ++ what
  | .unterminatedName terminator => "missing " ++ terminator ++ ", unterminated name"
  | .unknownCharacterName name => "undefined character name " ++ Text.quoted name
  | .octalTooLarge escape => "octal escape value " ++ escape ++ " outside of range 0-0o377"
  | .openGroup => "cannot refer to an open group"
  | .groupBehind => "cannot refer to group defined in the same lookbehind subpattern"
  | .invalidGroup number => s!"invalid group reference {number}"
  | .unterminatedSet => "unterminated character set"
  | .badRange first last => "bad character range " ++ first ++ "-" ++ last
  | .repeatOrder => "min repeat greater than max repeat"
  | .nothingToRepeat => "nothing to repeat"
  | .multipleRepeat => "multiple repeat"
  | .unexpectedEnd => "unexpected end of pattern"
  | .unknownExtension text => "unknown extension ?" ++ text
  | .badGroupName name => "bad character in group name " ++ Text.quoted name
  | .unknownGroupName name => "unknown group name " ++ Text.quoted name
  | .unterminatedComment => "missing ), unterminated comment"
  | .unterminatedGroup => "missing ), unterminated subpattern"
  | .badGroupNumber => "bad group number"
  | .tooManyBranches => "conditional backref with more than two branches"
  | .flagsNotAtStart => "global flags not at the start of the expression"
  | .groupRedefined name index earlier =>
    "redefinition of group name " ++ Text.quoted name ++ s!" as group {index}; was group {earlier}"
  | .localeFlag => "bad inline flags: cannot use 'L' flag with a str pattern"
  | .incompatibleFlags => "bad inline flags: flags 'a', 'u' and 'L' are incompatible"
  | .unknownFlag => "unknown flag"
  | .missingFlagEnd => "missing -, : or )"
  | .missingFlag => "missing flag"
  | .missingColon => "missing :"
  | .turnOnGlobal => "bad inline flags: cannot turn on global flag"
  | .turnOffGlobal => "bad inline flags: cannot turn off global flag"
  | .turnOffAlphabet => "bad inline flags: cannot turn off flags 'a', 'u' and 'L'"
  | .turnedOnAndOff => "bad inline flags: flag turned on and off"
  | .unbalanced => "unbalanced parenthesis"
  | .variableBehind => "look-behind requires fixed-width pattern"
  | .tooFarBehind => "looks too much behind"
  | .templateRepeat operator => "internal: unsupported template operator " ++ operator

/-- Why an expression is refused. -/
inductive Refusal where
  /-- A problem, with its offset where it has a place. -/
  | problem (problem : Problem) (offset : Option Nat)
  /-- The expression asks for two alphabets. -/
  | twoAlphabets
  /-- A number of rounds is beyond what can be counted. -/
  | tooManyRounds
  /-- A number of rounds has more digits than are read. -/
  | tooManyDigits (digits : Nat)
  deriving Repr, DecidableEq

/-- The wording of a problem in an expression.  The offset is followed by line and column when the
expression has several lines. -/
def Problem.describe (problem : Problem) (offset : Option Nat) (expression : List Char) : String :=
  match offset with
  | none => problem.message
  | some offset =>
    let before := expression.take offset
    let place := s!"{problem.message} at position {offset}"
    if '\n' ∈ expression then
      let line := before.count '\n' + 1
      let column := (before.reverse.takeWhile (· != '\n')).length + 1
      place ++ s!" (line {line}, column {column})"
    else place

end AudioPlan.Regex
