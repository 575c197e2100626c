import BuildBench.World.Disk
import BuildBench.Value.Compare

/-!
# Processes

A process is started and waited for, at most as long as a time limit allows. A process that ends in
time has changed the files as it wanted; one that is stopped has changed them as far as it came. What
a process wrote is read when it has ended, and has to be text.
-/

namespace BuildBench.Program

open BuildBench.Action

/-- How a process ended. -/
structure Completed where
  exitCode : Int
  stdout : String
  stderr : String

/-- What a process wrote, first the one stream, then the other. -/
def Completed.output (c : Completed) : String := Text.joinStreams c.stdout c.stderr

/-- How to start a process. -/
structure Command where
  argv : List String
  /-- The name of the folder to start in, as it was given. -/
  folder : Option String := none
  env : Option Environment := none
  timeout : Value := .null

def Command.event (c : Command) : Event :=
  .start c.argv c.folder c.env c.timeout

/-- The argument behind `--export-json`: the file that a process is asked to report to. -/
def reportFile? : List String → Option PathName
  | "--export-json" :: path :: _ => some (.parse path)
  | _ :: rest => reportFile? rest
  | [] => none

/-- The changes to files that a process makes. -/
def changes (o : Outcome) (argv : List String) : List FileEdit :=
  o.edits ++
    match reportFile? argv with
    | none => []
    | some path =>
      (match o.report with
        | some content => [FileEdit.write path content false]
        | none => []) ++
      (if o.removesReport then [FileEdit.remove path] else [])

/-- The world after changes to its files, one after the other. -/
def applyAll (edits : List FileEdit) (w : World) : World :=
  edits.foldl (fun w edit => w.withFiles (edit.apply w.files)) w

/-- Lets some time pass. -/
def pause (seconds : Float) : Action Unit := modify fun w => { w with clock := w.clock + seconds }

/-- Starts a process: the next outcome is what it will do. -/
def launch (c : Command) : Action Outcome := do
  note c.event
  let w ← get
  let (outcome, rest) := w.processes.next
  set { w with processes := rest }
  match outcome.launch with
  | .started => return outcome
  | .notFound => throw (.system .notFound (c.argv.headD ""))
  | .refused reason => throw (reason.fault (c.argv.headD ""))
  | .interrupted =>
    modify (applyAll outcome.earlyEdits)
    throw .interrupted

/-- The longest wait that the system offers, in milliseconds. -/
def longestWait : Int := 2147483647

/-- Why nobody can wait for as long as a number of seconds. A time that is over already is no
problem, if only a float can hold it. -/
def waitFault? : Value → Option Fault
  | .int i => if longestWait < 1000 * i || (Decimal.ofInt? i).isNone then some .tooLarge else none
  | .float x =>
    match Decimal.toRat? x with
    | some seconds => if longestWait < 1000 * seconds then some .tooLarge else none
    | none =>
      if x.isNaN then some (.invalid "cannot convert float NaN to integer")
      else if 0.0 < x then some .tooLarge
      else none
  | _ => none

/-- Whether a process that runs for some time runs out of time, if one can wait for that at all. -/
def runsOut (limit : Value) (wall : Float) : Except Fault Bool :=
  if limit.isNull then .ok false
  else
    match limit.lessThan? wall, waitFault? limit with
    | none, _ => .error .wrongType
    | some _, some f => .error f
    | some late, none => .ok late

/-- Waits until a process ends, or until the time limit. Whether it ended. -/
def await (o : Outcome) (argv : List String) (limit : Value) : Action Bool := do
  match runsOut limit o.wall with
  | .ok false =>
    modify fun w => applyAll (changes o argv) { w with clock := w.clock + o.wall }
    return true
  | .ok true =>
    modify fun w => applyAll o.earlyEdits { w with clock := w.clock + limit.toFloat }
    return false
  | .error f =>
    modify (applyAll o.earlyEdits)
    throw f

/-- What is known of a process that has ended, if what it wrote can be read. -/
def completed (o : Outcome) : Except Fault Completed := do
  let stdout ← o.stdout.read
  let stderr ← o.stderr.read
  return ⟨o.exitCode, stdout, stderr⟩

/-- Runs a process to its end. One that does not end in time, or whose time cannot be waited for, is
stopped. -/
def run (c : Command) : Action Completed := do
  let outcome ← launch c
  let inTime ← tryCatch (await outcome c.argv c.timeout) fun f => do
    pause outcome.dying
    throw f
  if inTime then ofResult (completed outcome)
  else
    pause outcome.dying
    throw (.timedOut c.timeout)

end BuildBench.Program
