import BuildBench.CommandLine.Queries
import BuildBench.CommandLine.Benching
import BuildBench.CommandLine.Help

/-!
# The command line

The first words are for the program itself; the command follows with words of its own. Acting on a
command line gives the exit code. A fault that no command handles is left to the caller.
-/

namespace BuildBench.CommandLine

open BuildBench.Action

inductive Command where
  | run
  | cacheKey
  | size
  | bench
  | shouldRun
  deriving Repr, DecidableEq

namespace Command

def all : List Command := [.bench, .cacheKey, .run, .shouldRun, .size]

def spec : Command → CommandSpec
  | .run => runCommand
  | .cacheKey => cacheKeyCommand
  | .size => sizeCommand
  | .bench => benchCommand
  | .shouldRun => shouldRunCommand

/-- The word that calls a command. -/
def word (c : Command) : String := c.spec.path.getLastD ""

def ofWord? (word : String) : Option Command := all.find? (·.word == word)

/-- Performs a command with what it is given. -/
def perform (g : Given) : Command → Guarded Int
  | .run => performRun (.ofGiven g)
  | .cacheKey => performCacheKey (g.path? "--profile") (g.value "--workdir")
  | .size => performSize ((g.path? "BINARY").getD (.parse ""))
  | .bench => performBench (.ofGiven g)
  | .shouldRun => performShouldRun (g.path? "--profile") (.ofGiven g)

end Command

/-- Says why a command line is refused. -/
def refuse (usage hint : String) (r : Refusal) : Action Int := do
  if r.showsUsage then stderr (usage ++ "\n" ++ hint ++ "\n\n")
  stderr ("Error: " ++ r.message ++ "\n")
  return refusedCode

/-- Performs an action, or says why it refuses the command line. -/
def answering (usage hint : String) (action : Guarded Int) : Action Int := do
  match ← action.run with
  | .ok code => return code
  | .error r => refuse usage hint r

/-- What stops a command that the user interrupts. -/
def stoppable (action : Action Int) : Action Int :=
  tryCatch action fun
    | .interrupted => do
      stderr "\nAborted!\n"
      return 1
    | f => throw f

/-- Acts on the words behind a command. -/
def actOnCommand (c : Command) (words : List String) : Action Int :=
  let spec := c.spec
  stoppable <| answering spec.usage spec.hint do
    match separate spec.allOptions true words with
    | .error r => throw r
    | .ok s =>
      if s.uses.any (·.option = helpOption) then
        stdout spec.page
        return 0
      else c.perform (← spec.read s)

/-! ## The program itself -/

def versionOption : OptionSpec where
  spellings := ["--version"]
  kind := .flag
  about := "Show the version and exit."

def programSpec : CommandSpec where
  path := [programName]
  about := "Build, benchmark and size-check a compiled command-line tool."
  options := [versionOption]

def programUsage : String := programSpec.usage ++ " COMMAND [ARGS]..."

def programPage : String :=
  programUsage ++ "\n\n  " ++ programSpec.about ++ "\n\nOptions:\n" ++
    columns (programSpec.allOptions.map OptionSpec.row) ++ "\n\nCommands:\n" ++
    columns (Command.all.map fun c => (c.word, c.spec.about)) ++ "\n"

def versionText : String := programName ++ ", version " ++ Fixture.version ++ "\n"

/-- Shows what an option of the program asks for. -/
def actOnOption (u : Use) : Action Int := do
  stdout (if u.option = versionOption then versionText else programPage)
  return 0

/-- What a word that calls no command is taken for: if it begins with a dash its options count, even
behind a word of two dashes. -/
def actOnUnknown (word : String) (rest : List String) : Guarded Int := do
  let unknown : Refusal :=
    .unknownCommand word (Text.similarNames word (Command.all.map Command.word))
  match separate programSpec.allOptions false (word :: rest) with
  | .error r => throw r
  | .ok s =>
    match s.uses with
    | u :: _ => actOnOption u
    | [] => throw unknown

/-- Acts on the options of the program, of which the first one counts, or else on the command. -/
def actOnSeparated (s : Separated) : Guarded Int := do
  match s.uses, s.arguments with
  | u :: _, _ => actOnOption u
  | [], [] => throw .commandMissing
  | [], word :: rest =>
    match Command.ofWord? word with
    | some c => actOnCommand c rest
    | none => actOnUnknown word rest

/-- Acts on a command line and gives the exit code. An empty one shows the help page. -/
def act (words : List String) : Action Int := do
  if words.isEmpty then
    stderr programPage
    return refusedCode
  else
    answering programUsage programSpec.hint do
      match separate programSpec.allOptions false words with
      | .error r => throw r
      | .ok s => actOnSeparated s

end BuildBench.CommandLine
