import BuildBench.CommandLine.Running

/-!
# Timing from the command line

The command `bench` times a program that is there already against a fixture that is there already.
-/

namespace BuildBench.CommandLine

open BuildBench.Action

/-- What the command `bench` is given. -/
structure BenchRequest where
  binary : PathName
  fixture : PathName
  benchmark : BenchmarkSettings := {}
  verbose : Bool := false

def benchCommand : CommandSpec where
  path := [programName, "bench"]
  about := "Time BINARY against FIXTURE without building anything."
  options := [
    { spellings := ["--tool"], kind := .choice Finding.benchmarkTools, default := some "hyperfine"
      about := "What does the timing." },
    { spellings := ["--command"], kind := .text
      default := some "\x7bbinary\x7d build \x7bfixture\x7d"
      about := "Template of the command." },
    { spellings := ["--runs"], kind := .number, about := "Measured repetitions." },
    { spellings := ["--warmup"], kind := .number
      about := "Repetitions before the measured ones." },
    verboseOption]
  arguments := [⟨"BINARY", .existingFile⟩, ⟨"FIXTURE", .existingFile⟩]

def BenchRequest.ofGiven (g : Given) : BenchRequest where
  binary := (g.path? "BINARY").getD (.parse "")
  fixture := (g.path? "FIXTURE").getD (.parse "")
  benchmark :=
    { tool := g.value "--tool", command := g.value "--command", runs := g.value "--runs"
      warmup := g.value "--warmup" }
  verbose := g.flag "--verbose"

/-- The directory in which the program was started. -/
def currentFolder : Action PathName := do return ⟨.root, (← get).files.current⟩

/-- Shows why a measurement failed and gives the exit code. -/
def showFailure (f : StageFailure) : Action Int := do
  unless f.output.isEmpty do stderr (Text.stripFinalNewlines f.output ++ "\n")
  stderr ("Error: " ++ f.message ++ "\n")
  return if 0 < f.exitCode then f.exitCode else 1

/-- The command `bench`. -/
def performBench (r : BenchRequest) : Guarded Int := do
  setupLogging r.verbose (!r.verbose) none
  let folder ← currentFolder
  let command ← Measurement.benchmarkCommand r.benchmark.command r.binary r.fixture folder
  let env := Environment.ofVariables (← get).environment
  match ← (attempt (Timing.measure r.benchmark (.text command) folder env) : Action _) with
  | .ok (_, output) =>
    stdout (Text.stripFinalNewlines output ++ "\n")
    return 0
  | .error (.stage f) => showFailure f
  | .error f => (throw f : Action _)

end BuildBench.CommandLine
