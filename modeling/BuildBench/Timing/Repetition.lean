import BuildBench.Command.Words

/-!
# One repetition

A command is run once and its times are taken. When it does not end within its limit, its whole
group is ended, and the process itself if that was not enough; either way the repetition is over
only when the process has been waited for. If nobody can wait for as long as the limit says, the
repetition fails and leaves the process behind.
-/

namespace BuildBench.Timing

open BuildBench.Action

/-- What one repetition took and how it ended. Times are in seconds with six decimal places. -/
structure Repetition where
  wall : Float
  user : Float
  system : Float
  exitCode : Int
  stdout : String
  stderr : String
  timedOut : Bool

def Repetition.cpu (r : Repetition) : Float := r.user + r.system

/-- How long the process may take to end once its group was told to. -/
def graceSeconds : Int := 5

/-- The CPU times of a process that was waited for are added to those of all of them. -/
def collect (o : Outcome) : Action Unit :=
  modify fun w =>
    { w with childUser := w.childUser + o.user, childSystem := w.childSystem + o.system }

/-- Tells the group of a process to end. The system may refuse that. -/
def tellGroup (o : Outcome) : Action Unit := do
  note .endGroup
  if o.groupSurvives then throw (.system .noProcess "")

/-- Ends the group of a process. It does not matter if the system refuses. -/
def endGroup (o : Outcome) : Action Unit :=
  tryCatch (tellGroup o) fun
    | .system _ _ => pure ()
    | f => throw f

/-- Ends a process that ran out of time, and waits for it. -/
def endProcess (o : Outcome) : Action Unit := do
  endGroup o
  note (.wait (.int graceSeconds))
  Program.pause o.grace
  if o.stubborn then
    note .endProcess
    note (.wait .null)
    Program.pause o.dying
  collect o

/-- Waits for a process within a limit and ends it after that. Whether it ran out of time. -/
def waitOrEnd (o : Outcome) (argv : List String) (limit : Value) : Action Bool := do
  note (.wait limit)
  if ← Program.await o argv limit then
    collect o
    return false
  else
    endProcess o
    return true

/-- A time without its negative part. -/
def notNegative (x : Float) : Float := if 0.0 > x then 0.0 else x

/-- What a process took between two worlds. -/
def Repetition.between (before after : World) (p : Program.Completed) (timedOut : Bool) :
    Repetition where
  wall := Decimal.roundPlaces 6 (after.clock - before.clock)
  user := Decimal.roundPlaces 6 (notNegative (after.childUser - before.childUser))
  system := Decimal.roundPlaces 6 (notNegative (after.childSystem - before.childSystem))
  exitCode := if timedOut then -1 else p.exitCode
  stdout := p.stdout
  stderr := p.stderr
  timedOut := timedOut

/-- Runs a command once. An empty name of a folder counts as none. -/
def repetition (command : Value) (folder : Option String) (env : Option Environment)
    (limit : Value) : Action Repetition := do
  let before ← get
  let argv ← ofResult (Command.words command)
  let o ← Program.launch { argv := argv, folder := folder.filter (!·.isEmpty), env := env }
  let timedOut ← waitOrEnd o argv limit
  let p ← ofResult (Program.completed o)
  return Repetition.between before (← get) p timedOut

end BuildBench.Timing
