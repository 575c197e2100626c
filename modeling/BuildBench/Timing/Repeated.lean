import BuildBench.Timing.Repetition
import BuildBench.Timing.Layout

/-!
# Repeated runs

A command is run several times to warm up, and several times to be measured. Each of these runs has
to succeed; the first that does not ends the measurement.
-/

namespace BuildBench.Timing

open BuildBench.Action

def defaultWarmup : Int := 0

def defaultRuns : Int := 10

def measureFailure (message : String) (exitCode : Int := 1) (output : String := "") : Fault :=
  .stage
    { stage := "measure", kind := .measure, message := message, exitCode := exitCode
      output := output }

/-- A whole number as a setting. -/
def countOf (default : Int) : Value → Except Fault Int
  | .null => .ok default
  | .int i => .ok i
  | .bool b => .ok (if b then 1 else 0)
  | _ => .error .wrongType

/-- Refuses a repetition that did not succeed. -/
def checkRepetition (r : Repetition) (limit : Value) (number : Nat) : Except Fault Unit :=
  if r.timedOut then
    .error (measureFailure ("Command timed out after " ++ limit.display ++ "s on repetition " ++
      toString number) 1 r.stderr)
  else if r.exitCode ≠ 0 then
    .error (measureFailure ("Command terminated with non-zero exit code " ++ intText r.exitCode ++
      " on repetition " ++ toString number) r.exitCode (r.stdout ++ r.stderr))
  else .ok ()

/-- One repetition that has to succeed. -/
def successful (command : Value) (folder : PathName) (env : Environment) (limit : Value)
    (isWarmup : Bool) (number : Nat) : Action Repetition := do
  let r ← tryCatch (repetition command (some folder.display) (some env) limit) fun
    | .system .notFound path => throw (measureFailure ("Benchmarked command not found: " ++ path))
    | f => throw f
  ofResult (checkRepetition r limit number)
  log .debug "bench.builtin" ((if isWarmup then "warmup" else "run") ++ " " ++ toString number ++
    ": " ++ Decimal.fixed 6 r.wall ++ "s")
  return r

/-- The measured ones of `left` more repetitions, of which the first `warmup` are not measured.
`done` repetitions came before. -/
def repetitions (command : Value) (folder : PathName) (env : Environment) (limit : Value) :
    Nat → Nat → Nat → Action (List Repetition)
  | 0, _, _ => return []
  | left + 1, warmup, done => do
    let r ← successful command folder env limit (0 < warmup) (done + 1)
    let rest ← repetitions command folder env limit left (warmup - 1) (done + 1)
    return if 0 < warmup then rest else r :: rest

/-- The summary of measured repetitions. -/
def summaryOf (command : Value) (measured : List Repetition) : Except Fault TimingSummary :=
  TimingSummary.ofSamples command (measured.map (·.wall)) (measured.map (·.user))
    (measured.map (·.system))

/-- Runs a command as often as asked and summarises the measured runs, also as text. -/
def measureRepeatedly (command : Value) (folder : PathName) (env : Environment)
    (warmup runs limit : Value) : Action (TimingSummary × String) := do
  let warmup ← ofResult (countOf defaultWarmup warmup)
  let runs ← ofResult (countOf defaultRuns runs)
  let measured ← repetitions command folder env limit (warmup + runs).toNat warmup.toNat 0
  let summary ← ofResult (summaryOf command measured)
  return (summary, ← ofResult (layOut summary 1))

end BuildBench.Timing
