import BuildBench.World.Program
import BuildBench.Text.ShellWords
import BuildBench.Value.Shown

/-!
# Commands

A command is a line of shell words, or a list of arguments that are taken as they are.
-/

namespace BuildBench.Command

/-- The arguments that a command stands for. A missing command has none. -/
def words (command : Value) : Except Fault (List String) :=
  match command.bare with
  | .null => .ok []
  | .text s => Text.splitWords s
  | .list items => items.mapM Value.textOf
  | _ => .error .noSuchMember

/-- What is recorded before a command is run. -/
def runningText (argv : List String) (folder : Option PathName) : String :=
  "Running: " ++ Text.joinWords argv ++
    match folder with
    | some path => " (in " ++ path.display ++ ")"
    | none => ""

/-- Runs a command to its end. -/
def run (command : Value) (folder : Option PathName) (env : Option Environment)
    (timeout : Value) : Action Program.Completed := do
  let argv ← Action.ofResult (words command)
  Action.log .debug "stages" (runningText argv folder)
  Program.run
    { argv := argv, folder := folder.map PathName.display, env := env, timeout := timeout }

end BuildBench.Command
