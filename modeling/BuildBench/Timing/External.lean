import BuildBench.Timing.Repeated
import BuildBench.Timing.Export
import BuildBench.Settings.Basic

/-!
# Timing by an external program

`hyperfine` runs the command and prints a report of its own, which is passed on as it is. It also
writes what it measured to a temporary file, which is taken away whatever happens. A file that
cannot be read leaves the summary out.
-/

namespace BuildBench.Timing

open BuildBench.Action

/-- An option and its argument, if that is given. -/
def optionWords (name : String) (v : Value) : Except Fault (List Value) := do
  if v.isNull then return [] else return [.text name, .text (← v.textOf)]

/-- The arguments that have one command timed. -/
def timerCommand (command : Value) (report : Option PathName) (warmup runs : Value)
    (program : String := "hyperfine") : Except Fault (List Value) := do
  let reporting := match report with
    | some path => [.text "--export-json", .text path.display]
    | none => []
  return [.text program] ++ (← optionWords "--warmup" warmup) ++ (← optionWords "--runs" runs) ++
    reporting ++ [command]

/-- A temporary file that nobody else uses. -/
def makeReportFile : Action PathName := do
  let w ← get
  let path := w.temporary.child ("binbench-hyperfine-" ++ w.unique ++ ".json")
  match w.files.place false path with
  | .ok ⟨location, none⟩ =>
    set { w with files := w.files.put location (.file ByteArray.empty false) }
    return path
  | .ok _ => throw (Disk.systemFault path .exists)
  | .error e => throw (Disk.systemFault path e)

/-- Faults that mean that a report cannot be used. -/
def isUnusable : Fault → Bool
  | .wrongType | .missingKey _ => true
  | f => f.isOutside || f.isInvalidValue

/-- The summary in a report, if it can be used. -/
def readReport (path : PathName) : Action (Option TimingSummary) := do
  let read : Action (Option TimingSummary) := do
    let document ← ofResult (readDocument (← Disk.readText path))
    return some (← ofResult (summaryOfExport document))
  tryCatch read fun f => do
    if isUnusable f then
      log .warning "bench.hyperfine" ("Could not parse hyperfine export: " ++ f.message)
      return none
    else throw f

/-- Has a command timed; the report goes to a file that exists. -/
def timeWithReport (report : PathName) (command : Value) (folder : PathName) (env : Environment)
    (warmup runs : Value) : Action (Option TimingSummary × String) := do
  let argv ← ofResult (timerCommand command (some report) warmup runs)
  let p ← tryCatch (Command.run (.list argv) (some folder) (some env) .null) fun
    | .system .notFound _ =>
      throw (measureFailure "hyperfine not found on PATH; was the install stage skipped?")
    | f => throw f
  if p.exitCode = 0 then
    logOutput .debug "bench.hyperfine" p.stderr
    return (← readReport report, p.stdout)
  else
    throw (measureFailure ("hyperfine failed (exit " ++ intText p.exitCode ++ ")") p.exitCode
      p.output)

/-- Has a command timed by the external program. The temporary file is taken away in the end. -/
def measureExternally (command : Value) (folder : PathName) (env : Environment)
    (warmup runs : Value) : Action (Option TimingSummary × String) := do
  let report ← makeReportFile
  thenAlways (timeWithReport report command folder env warmup runs) (Disk.unlinkIfThere report)

/-- Times a command with the configured tool. -/
def measure (benchmark : BenchmarkSettings) (command : Value) (folder : PathName)
    (env : Environment) : Action (Option TimingSummary × String) := do
  log .info "measure" ("Timing with " ++ benchmark.tool.display ++ ": " ++ command.display)
  if benchmark.tool.isText "builtin" then
    let (summary, output) ←
      measureRepeatedly command folder env benchmark.warmup benchmark.runs benchmark.timeout
    return (some summary, output)
  else if benchmark.tool.isText "hyperfine" then
    measureExternally command folder env benchmark.warmup benchmark.runs
  else
    throw (.invalid ("Unknown benchmark tool: " ++ (← ofResult benchmark.tool.textOf)))

end BuildBench.Timing
