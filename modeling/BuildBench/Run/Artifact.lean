import BuildBench.Command.Words
import BuildBench.Command.Environment

/-!
# Building the artifact

The build command leaves an artifact. What stood at its place before is taken away first, so that
what stands there afterwards was built by this run.
-/

namespace BuildBench.Artifact

open BuildBench.Action

structure Built where
  artifact : PathName
  seconds : Float
  output : String

def failure (message : String) (exitCode : Int := 1) (output : String := "") : Fault :=
  .stage
    { stage := "build", kind := .build, message := message, exitCode := exitCode
      output := output }

/-- Whether something stands at a place, if only a link that leads nowhere. -/
def isTaken (path : PathName) : Action Bool := do
  if ← Disk.exists? path then return true else Disk.isLink path

/-- Takes away what stands at the artifact's place. -/
def removeStale (artifact : PathName) : Action Unit := do
  if ← isTaken artifact then
    log .debug "build" ("Removing stale artifact " ++ artifact.display)
    tryCatch (Disk.unlink artifact) fun f =>
      if f.isOutside then
        throw (failure
          ("Cannot remove stale artifact " ++ artifact.display ++ ": " ++ f.message))
      else throw f

/-- Runs the build command, which has to succeed, and gives its output. -/
def runBuild (build : BuildSettings) (workdir : PathName) (env : Environment) :
    Action String := do
  let p ← tryCatch (Command.run build.command (some workdir) (some env) build.timeout) fun
    | .system .notFound path => throw (failure ("Build tool not found: " ++ path))
    | .timedOut limit => throw (failure ("Build timed out after " ++ limit.display ++ "s"))
    | f => throw f
  if p.exitCode = 0 then return p.output
  else throw (failure ("Build failed (exit " ++ intText p.exitCode ++ ")") p.exitCode p.output)

/-- Refuses an artifact that is no program. The output of the build may explain it. -/
def checkArtifact (artifact : PathName) (output : String) : Action Unit := do
  if ← Disk.isFile artifact then
    if !(← Disk.isExecutable artifact) then
      throw (failure ("Build artifact is not executable: " ++ artifact.display) 1 output)
  else
    throw (failure ("Build succeeded but produced no artifact at " ++ artifact.display) 1 output)

/-- Records what is about to be built. -/
def announce (settings : BuildSettings) : Action Unit := do
  settings.env.forM fun (name, value) => log .debug "build" ("Build env: " ++ name ++ "=" ++ value)
  log .info "build" ("Building: " ++ settings.command.display)

/-- Checks what was built and records it. -/
def finish (artifact : PathName) (seconds : Float) (output : String) : Action Built := do
  checkArtifact artifact output
  logOutput .debug "build" output
  log .info "build" ("Built " ++ artifact.display ++ " in " ++ Decimal.fixed 1 seconds ++ "s")
  return ⟨artifact, seconds, output⟩

/-- Builds the artifact at a place that was cleared, in an environment with the variables of the
build over those of the run. -/
def buildCleared (settings : BuildSettings) (artifact workdir : PathName) (env : Environment) :
    Action Built := do
  announce settings
  let start := (← get).clock
  let output ← runBuild settings workdir (env.overlaid (Environment.ofVariables settings.env))
  finish artifact ((← get).clock - start) output

/-- Builds the artifact, which has to be a program afterwards. -/
def build (sec : Section BuildSettings) (artifact workdir : PathName) (env : Environment) :
    Action Built := do
  removeStale artifact
  buildCleared (← ofResult sec.given) artifact workdir env

end BuildBench.Artifact
