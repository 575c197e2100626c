import BuildBench.Run.Report
import BuildBench.Run.Preparation
import BuildBench.Run.Installation
import BuildBench.Run.Artifact
import BuildBench.Settings.Findings

/-!
# Runs

A run goes through its stages in order and ends with the first one that fails. After a successful
run that found no cache entry, an entry is saved; failing to save it is no failure of the run.
-/

namespace BuildBench.Run

open BuildBench.Action

/-- What a run is made with. -/
structure Plan where
  settings : Settings
  store : Option CacheStore := none
  skipInstall : Bool := false
  /-- Told the result of every stage. -/
  notify : StageResult → Action Unit := fun _ => pure ()

/-- Records warnings, and refuses settings that have errors. -/
def checkSettings (s : Settings) : Action Unit := do
  let findings ← ofResult s.findings
  (findings.filter (·.severity = .warning)).forM fun f =>
    log .warning "pipeline" ("Config warning: " ++ f.setting ++ ": " ++ f.message)
  let errors := findings.filter (·.severity = .error)
  unless errors.isEmpty do
    throw (.invalid ("Invalid pipeline configuration:\n" ++
      "\n".intercalate (errors.map fun f => "  " ++ f.setting ++ ": " ++ f.message)))

def succeeded (stage : Stage) (seconds : Float) : StageResult :=
  { name := stage.name, ok := true, seconds := .float seconds }

def failedAs (stage : Stage) (seconds : Float) (f : StageFailure) : StageResult :=
  { name := stage.name, ok := false, exitCode := f.exitCode, seconds := .float seconds
    output := f.output, failed := some f.kind.name, detail := f.message }

/-- Reports how a stage ended. Faults that are no failure of a stage end the run. -/
def conclude {α : Type} (plan : Plan) (name : Stage) (start : Float) :
    Except Fault α → Action (StageResult × Option α)
  | .ok value => do
    let seconds := (← get).clock - start
    let r := succeeded name seconds
    log .info "pipeline" ("Stage '" ++ name.name ++ "' finished in " ++
      Decimal.fixed 1 seconds ++ "s")
    plan.notify r
    return (r, some value)
  | .error (.stage f) => do
    let r := failedAs name ((← get).clock - start) f
    logOutput .error "pipeline" f.output
    log .error "pipeline" ("Stage '" ++ name.name ++ "' failed (" ++ f.kind.name ++ " error): " ++
      f.message)
    plan.notify r
    return (r, none)
  | .error f => throw f

/-- Runs one stage: its result for the report, and its value if it succeeded. -/
def stage {α : Type} (plan : Plan) (name : Stage) (action : Action α) :
    Action (StageResult × Option α) := do
  log .info "pipeline" ("==> " ++ name.name)
  pass (.begins name.name)
  let start := (← get).clock
  let result ← attempt action
  pass (.ends name.name)
  conclude plan name start result

/-- Whether nothing is to be installed. -/
def skipsInstall (plan : Plan) : Action Bool := do
  if plan.skipInstall then return true
  else return !(← ofResult plan.settings.install.given).enabled.isPresent

/-- Installs the configured packages, unless that is not wanted. -/
def installStage (plan : Plan) (env : Environment) : Action Unit := do
  if ← skipsInstall plan then log .info "pipeline" "Tool installation skipped"
  else
    let _ ← Installation.install (← ofResult plan.settings.install.given) env

def buildStage (s : Settings) (workdir : PathName) (env : Environment) :
    Action Artifact.Built := do
  let artifact ← ofResult (s.artifactPath (← Disk.homes))
  Artifact.build s.build artifact workdir env

def measureStage (s : Settings) (artifact workdir : PathName) (env : Environment) :
    Action Measurement := do
  let fixture ← ofResult s.fixture.given
  Measurement.take artifact fixture s.benchmark workdir env

/-- Saves what was prepared, if there is a cache and it had no entry. -/
def saveCache (plan : Plan) (prepared : Prepared) : Action Unit := do
  match plan.store with
  | none => return ()
  | some store =>
    unless prepared.cacheHit do
      match ← attempt (store.save prepared.cacheKey prepared.cachePaths) with
      | .ok _ => return ()
      | .error (.stage f) => log .warning "pipeline" ("Could not save cache entry: " ++ f.message)
      | .error f => throw f

/-- The environment of the processes of a run. -/
def environment (s : Settings) : Action Environment := do
  let w ← get
  let env ← ofResult (Environment.merge w.environment [s.env])
  ofResult (env.withPrograms (← Disk.homes) (← ofResult s.install.given))

/-- The stages after preparation. -/
def fromInstall (plan : Plan) (env : Environment) (report : Report) (prepared : Prepared) :
    Action Report := do
  let s := plan.settings
  let (installed, value) ← stage plan .install (installStage plan env)
  let report := { report with stages := report.stages ++ [installed] }
  match value with
  | none => return report
  | some _ =>
    let (built, value) ← stage plan .build (buildStage s prepared.workdir env)
    let report := { report with stages := report.stages ++ [built] }
    match value with
    | none => return report
    | some product =>
      let report := { report with artifact := some product.artifact }
      let (measured, value) ←
        stage plan .measure (measureStage s product.artifact prepared.workdir env)
      let report := { report with stages := report.stages ++ [measured] }
      match value with
      | none => return report
      | some m =>
        saveCache plan prepared
        log .info "pipeline" ("Pipeline '" ++ s.name.display ++ "' completed")
        return { report with measurement := some m }

/-- Runs all stages. -/
def run (plan : Plan) : Action Report := do
  let s := plan.settings
  checkSettings s
  let env ← environment s
  let report : Report := { name := s.name }
  let (result, value) ← stage plan .prepare (prepare s plan.store)
  let report := { report with stages := [result] }
  match value with
  | none => return report
  | some prepared =>
    fromInstall plan env
      { report with
        cacheKey := prepared.cacheKey, cacheHit := prepared.cacheHit
        revision := prepared.revision }
      prepared

end BuildBench.Run
