import BuildBench.CommandLine.Source
import BuildBench.Logging
import BuildBench.Run.Basic

/-!
# Runs from the command line

The command `run` makes a run with the settings of a profile, which its options override, and shows
the timing and the size, or the whole report. The exit code is that of the report.
-/

namespace BuildBench.CommandLine

open BuildBench.Action

/-- What the command `run` is given. -/
structure RunRequest where
  profile : Option PathName := none
  overrides : List Override := []
  skipInstall : Bool := false
  noCache : Bool := false
  event : TriggerEvent := ⟨none, none, none⟩
  asJson : Bool := false
  verbose : Bool := false
  quiet : Bool := false
  logFile : Option PathName := none

/-- The options of `run` that override settings, each with the setting. -/
def overridingOptions : List (OptionSpec × String) := [
  (workdirOption, "workdir"),
  ({ spellings := ["--repo"], kind := .text
     about := "Repository to clone into the working directory." }, "checkout.repo"),
  ({ spellings := ["--ref"], kind := .text
     about := "Branch, tag or commit to check out." }, "checkout.ref"),
  ({ spellings := ["--artifact"], kind := .text
     about := "What the build makes, relative to the working directory." }, "build.artifact"),
  ({ spellings := ["--fixture-url"], kind := .text
     about := "Address of the benchmark's input." }, "fixture.url"),
  ({ spellings := ["--fixture-sha256"], kind := .text
     about := "Expected digest of that input." }, "fixture.sha256"),
  ({ spellings := ["--tool"], kind := .choice Finding.benchmarkTools
     about := "What does the timing." }, "benchmark.tool"),
  ({ spellings := ["--runs"], kind := .number
     about := "Measured repetitions." }, "benchmark.runs"),
  ({ spellings := ["--warmup"], kind := .number
     about := "Repetitions before the measured ones." }, "benchmark.warmup"),
  ({ spellings := ["--cache-dir"], kind := .folder
     about := "Directory of the cache." }, "cache.dir")]

def verboseOption : OptionSpec where
  spellings := ["-v", "--verbose"]
  kind := .flag
  about := "Show details."

def runCommand : CommandSpec where
  path := [programName, "run"]
  about := "Run the build, benchmark and size pipeline."
  options :=
    [profileOption] ++ overridingOptions.map (·.1) ++ [
      { spellings := ["--skip-install"], kind := .flag
        about := "Use the tools that are installed already." },
      { spellings := ["--no-cache"], kind := .flag
        about := "Neither restore nor save the cache." }] ++
    eventOptions false ++ [
      { spellings := ["--json"], kind := .flag, about := "Print the report as JSON." },
      verboseOption,
      { spellings := ["-q", "--quiet"], kind := .flag
        about := "Show warnings and errors only." },
      { spellings := ["--log-file"], kind := .path, about := "File for all log records." }]

namespace RunRequest

def ofGiven (g : Given) : RunRequest where
  profile := g.path? "--profile"
  overrides := overridingOptions.map fun (o, setting) => (setting, g.value o.name)
  skipInstall := g.flag "--skip-install"
  noCache := g.flag "--no-cache"
  event := .ofGiven g
  asJson := g.flag "--json"
  verbose := g.flag "--verbose"
  quiet := g.flag "--quiet"
  logFile := g.path? "--log-file"

/-- The settings of the run. -/
def settings (r : RunRequest) : Guarded Settings := do
  let s ← settingsOf r.profile r.overrides
  if r.noCache then
    return { s with cache := s.cache.modify ({ · with enabled := .bool false }) }
  else return s

end RunRequest

/-- What is said about an event that starts no run. -/
def skipText (e : TriggerEvent) (s : Settings) : String :=
  "Skipping: event '" ++ e.name.getD "None" ++ "' on '" ++ e.branchText ++
    "' does not trigger '" ++ s.name.display ++ "'.\n"

/-- The cache of a run, unless it does without one. -/
def storeFor (s : Settings) : Action (Option CacheStore) := do
  if (← ofResult s.cache.given).enabled.isPresent then
    let folder ← ofResult (s.cacheDir (← Disk.homes))
    return some (← CacheStore.atFolder folder)
  else return none

/-- What a finished run prints. -/
def reportText (asJson : Bool) (r : Report) : Except Fault String :=
  if asJson then do return Json.document (← r.toValue) ++ "\n"
  else
    return match r.measurement with
      | some m => Text.stripFinalNewlines m.timingOutput ++ "\n" ++ m.sizeLine ++ "\n"
      | none => ""

/-- What is said about the stage that failed. -/
def failureText (r : Report) : String :=
  match r.failedStage with
  | some s => "Error: stage '" ++ s.name ++ "' failed: " ++ s.detail ++ "\n"
  | none => ""

/-- Shows a report and gives the exit code. -/
def showReport (asJson : Bool) (r : Report) : Action Int := do
  stdout (← ofResult (reportText asJson r))
  if r.ok then return 0
  else
    stderr (failureText r)
    return r.exitCode

/-- The exit code of a run that the user interrupted. -/
def interruptedCode : Int := 130

/-- Makes a run and shows how it ended. Settings with errors refuse the command line. -/
def makeRun (r : RunRequest) (s : Settings) : Guarded Int := do
  let store ← storeFor s
  let plan : Run.Plan := { settings := s, store := store, skipInstall := r.skipInstall }
  match ← (attempt (Run.run plan) : Action _) with
  | .ok report => showReport r.asJson report
  | .error .interrupted => do
    stderr "\nPipeline interrupted.\n"
    return interruptedCode
  | .error f =>
    if f.isInvalidValue then throw (.unacceptable f.message) else (throw f : Action _)

/-- The command `run`. -/
def performRun (r : RunRequest) : Guarded Int := do
  setupLogging r.verbose r.quiet r.logFile
  let s ← r.settings
  let triggers ← (ofResult s.triggers.given : Action _)
  if r.event.admits triggers then makeRun r s
  else
    stdout (skipText r.event s)
    return 0

end BuildBench.CommandLine
