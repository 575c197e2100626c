import BuildBench.Text.Quoted

/-!
# Refusals

A command line that cannot be acted on is refused before anything is done. The refusal says why; for
most of them the way the command is used is shown first.
-/

namespace BuildBench.CommandLine

inductive Refusal where
  /-- An option that the command does not have, and those that are spelled like it. -/
  | unknownOption (name : String) (similar : List String)
  /-- An option at the end of the line that needs a value. -/
  | valueMissing (name : String)
  /-- An option with a value that it does not take. -/
  | valueUnwanted (name : String)
  | optionMissing (place : String)
  | argumentMissing (place : String)
  /-- A value that is not acceptable; `place` says whose value it is. -/
  | badValue (place reason : String)
  /-- Words that nothing is left for. -/
  | surplus (words : List String)
  /-- A command that the program does not have, and those that are spelled like it. -/
  | unknownCommand (name : String) (similar : List String)
  | commandMissing
  /-- Settings with which no run can be made. -/
  | unacceptable (reason : String)
  deriving Repr, DecidableEq

namespace Refusal

/-- What is said about names spelled alike. -/
def similarText : List String → String
  | [] => ""
  | [name] => " Did you mean " ++ Text.quoted name ++ "?"
  | names =>
    " (Did you mean one of: " ++
      ", ".intercalate ((names.mergeSort fun a b => decide (a ≤ b)).map Text.quoted) ++ "?)"

def message : Refusal → String
  | .unknownOption name similar =>
    "No such option " ++ Text.quoted name ++ "." ++ similarText similar
  | .valueMissing name => "Option " ++ Text.quoted name ++ " requires an argument."
  | .valueUnwanted name => "Option " ++ Text.quoted name ++ " does not take a value."
  | .optionMissing place => "Missing option " ++ place ++ "."
  | .argumentMissing place => "Missing argument " ++ place ++ "."
  | .badValue place reason => "Invalid value for " ++ place ++ ": " ++ reason
  | .surplus words =>
    (if words.length = 1 then "Got unexpected extra argument ("
      else "Got unexpected extra arguments (") ++ " ".intercalate words ++ ")"
  | .unknownCommand name similar =>
    "No such command " ++ Text.quoted name ++ "." ++ similarText similar
  | .commandMissing => "Missing command."
  | .unacceptable reason => reason

/-- Whether the usage of the command is shown first. It is not when an option was used wrongly. -/
def showsUsage : Refusal → Bool
  | .valueMissing _ | .valueUnwanted _ => false
  | _ => true

end Refusal

/-- The exit code of a refused command line. -/
def refusedCode : Int := 2

end BuildBench.CommandLine
