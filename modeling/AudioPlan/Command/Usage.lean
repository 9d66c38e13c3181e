import AudioPlan.Command.Answer
import AudioPlan.Text.Quoted
import AudioPlan.Text.Similar

/-!
# How commands are called

A command has a name, options that start with two dashes, and arguments.  When the words of a
command line do not fit, the answer names the form of the command and the first problem.

* `CommandForm` is the form of a command, `UsageProblem` what can be wrong;
* `Words.read` takes the words of a command apart;
* `misuse` ends a command for a problem.
-/

namespace AudioPlan

/-- An option of a command. -/
structure OptionForm where
  word : String
  takesValue : Bool := false
  deriving Repr, DecidableEq

/-- How a command is called. -/
structure CommandForm where
  /-- The words that call the command. -/
  path : String
  /-- What follows them. -/
  synopsis : String
  options : List OptionForm
  /-- Whether options may follow arguments. -/
  mixed : Bool := true
  deriving Repr, DecidableEq

/-- Why a value does not fit. -/
inductive ValueProblem where
  | folder (given : String)
  | notAmong (given : String) (choices : List String)
  deriving Repr, DecidableEq

/-- The wording of a problem with a value. -/
def ValueProblem.message : ValueProblem → String
  | .folder given => s!"File {Text.quoted given} is a directory."
  | .notAmong given choices =>
    Text.quoted given ++ " is not one of " ++ ", ".intercalate (choices.map Text.quoted) ++ "."

/-- What is wrong with the words of a command line. -/
inductive UsageProblem where
  | noSuchOption (word : String) (similar : List String)
  | noSuchCommand (word : String) (similar : List String)
  | noValue (option : String)
  | unwantedValue (option : String)
  | badValue (option : String) (problem : ValueProblem)
  | missingArgument (name : String)
  | missingCommand
  | extraArguments (words : List String)
  deriving Repr, DecidableEq

namespace UsageProblem

/-- The suggestion of similar words, if there are any. -/
def suggestion : List String → String
  | [] => ""
  | [word] => s!" Did you mean {Text.quoted word}?"
  | words => " (Did you mean one of: " ++ ", ".intercalate (words.map Text.quoted) ++ "?)"

/-- The wording of a problem. -/
def message : UsageProblem → String
  | .noSuchOption word similar => s!"No such option {Text.quoted word}.{suggestion similar}"
  | .noSuchCommand word similar => s!"No such command {Text.quoted word}.{suggestion similar}"
  | .noValue option => s!"Option {Text.quoted option} requires an argument."
  | .unwantedValue option => s!"Option {Text.quoted option} does not take a value."
  | .badValue option problem => s!"Invalid value for '{option}': {problem.message}"
  | .missingArgument name => s!"Missing argument '{name}'."
  | .missingCommand => "Missing command."
  | .extraArguments words =>
    "Got unexpected extra " ++ (if words.length = 1 then "argument" else "arguments") ++
      " (" ++ " ".intercalate words ++ ")"

end UsageProblem

namespace CommandForm

/-- The line that shows the form of a command. -/
def usage (f : CommandForm) : String :=
  s!"Usage: {f.path} {f.synopsis}\n"

/-- The text that names the form of a command and a problem. -/
def complaint (f : CommandForm) (problem : UsageProblem) : String :=
  shownLine (f.usage ++ s!"Try '{f.path} --help' for help.\n") ++
    shownLine ("Error: " ++ problem.message)

end CommandForm

/-- The exit code for words that do not fit. -/
def misuseCode : Int := 2

/-- Ends a command whose words do not fit. -/
def misuse {α : Type} (f : CommandForm) (problem : UsageProblem) : Command α := do
  Script.print .errors (f.complaint problem)
  throw (.exit misuseCode)

/-! ## Taking words apart -/

/-- The words of a command, options apart from arguments. -/
structure Words where
  /-- The options in the order in which they are given. -/
  options : List (String × Option String) := []
  arguments : List String := []
  deriving Repr, DecidableEq

namespace Words

/-- Whether a word is an option. -/
def isOption (word : String) : Bool :=
  word.startsWith "-" && word != "-"

/-- An option and the value behind its equals sign. -/
def splitValue (word : String) : String × Option String :=
  let cs := word.toList
  match cs.dropWhile (· != '=') with
  | [] => (word, none)
  | _ :: value => (String.ofList (cs.takeWhile (· != '=')), some (String.ofList value))

/-- The problem with an option that is not known.  Behind a single dash only its first letter
counts. -/
def unknown (known : List String) (word : String) : UsageProblem :=
  let name := (splitValue word).1
  if word.startsWith "--" then .noSuchOption name (Text.similarTo name known)
  else .noSuchOption (String.ofList (word.toList.take 2)) []

/-- The words with an option in front. -/
def withOption (option : String) (value : Option String) (w : Words) : Words :=
  { w with options := (option, value) :: w.options }

/-- The words with an argument in front. -/
def withArgument (word : String) (w : Words) : Words :=
  { w with arguments := word :: w.arguments }

/-- Takes the words of a command apart.  Two dashes alone end the options; where options may not
follow arguments, the first argument ends them too. -/
def read (f : CommandForm) : List String → Except UsageProblem Words
  | [] => .ok {}
  | word :: rest =>
    if word = "--" then .ok { arguments := rest }
    else if isOption word then
      match f.options.find? fun o => o.word == (splitValue word).1 with
      | none => .error (unknown (f.options.map OptionForm.word) word)
      | some option =>
        match option.takesValue, (splitValue word).2, rest with
        | true, some value, rest => (read f rest).map (withOption option.word (some value))
        | true, none, value :: rest => (read f rest).map (withOption option.word (some value))
        | true, none, [] => .error (.noValue option.word)
        | false, some _, _ => .error (.unwantedValue option.word)
        | false, none, rest => (read f rest).map (withOption option.word none)
    else if f.mixed then (read f rest).map (withArgument word)
    else .ok { arguments := word :: rest }

/-- The last value of an option. -/
def value? (w : Words) (option : String) : Option String :=
  (w.options.reverse.lookup option).join

/-- Whether an option is given. -/
def has (w : Words) (option : String) : Bool :=
  w.options.any fun (name, _) => name == option

/-- The options in the order in which they are first given. -/
def names (w : Words) : List String :=
  (w.options.map Prod.fst).eraseDups

/-- The one that is given last of an option that says yes and another that says no. -/
def choice? (w : Words) (yes no : String) : Option Bool :=
  match w.options.reverse.find? fun (name, _) => name == yes || name == no with
  | some (name, _) => some (name == yes)
  | none => none

end Words

/-! ## Pages and single arguments -/

/-- The option that asks how a command is called. -/
def helpOption : OptionForm := { word := "--help" }

/-- Shows how a command is called and ends.  Only the first line of the page is shown, without the
description of the command and the list of its options. -/
def help {α : Type} (f : CommandForm) : Command α := do
  Command.say f.usage
  throw (.exit 0)

/-- The words of a command, or the end of the command if they do not fit. -/
def wordsOf (f : CommandForm) (words : List String) : Command Words :=
  match Words.read f words with
  | .ok w => return w
  | .error problem => misuse f problem

/-- The single argument of a command. -/
def singleArgument (f : CommandForm) (name : String) (w : Words) : Command String :=
  match w.arguments with
  | [] => misuse f (.missingArgument name)
  | word :: _ => return word

/-- Ends a command that has more than one argument. -/
def noMoreArguments (f : CommandForm) (w : Words) : Command Unit :=
  if w.arguments.length ≤ 1 then return ()
  else misuse f (.extraArguments (w.arguments.drop 1))

/-- The path that a word names, which may be that of anything. -/
def anyPath (word : String) : Command Path := do
  if word.contains '\x00' then throw (.died .badValue)
  return Path.ofText word

/-- The path that the value of an option names, which may not be that of a folder.  A dash alone is
not looked at. -/
def filePath (f : CommandForm) (option word : String) : Command Path := do
  let path ← anyPath word
  if !word.isEmpty && word != "-" && (← Script.isFolder path) then
    misuse f (.badValue option (.folder word))
  return path

end AudioPlan
