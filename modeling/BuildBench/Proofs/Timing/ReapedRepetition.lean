import BuildBench.Proofs.History.Processes
import BuildBench.Proofs.Statistics.DescribedSamples

/-!
# One repetition to its end

A process that was started is waited for until it is over. If it does not end within its limit, its
group is told to end, and if it outlasts that too, the process itself is; after each of these it is
waited for again. What is told of the repetition is read off the clock and the counters before the
start and after the last wait, and does not depend on whether the system let the group be ended.

A limit for which nobody can wait is another matter: then the repetition fails in the first wait, and
nothing more is done to the process.
-/

namespace BuildBench

open BuildBench.Action

/-- The same world with another outcome for the next process. -/
def World.expecting (w : World) (o : Outcome) : World :=
  { w with processes := { w.processes.next.2 with queued := o :: w.processes.next.2.queued } }

/-! ## Times are not negative -/

namespace Decimal

/-- Rounding to decimal places makes nothing negative. -/
theorem roundPlaces_notNegative (places : Nat) {x : Float}
    (atLeast : ¬ (Binary.ofFloat x).IsNegative) :
    ¬ (Binary.ofFloat (roundPlaces places x)).IsNegative := by
  unfold roundPlaces
  rcases read : Binary.ofFloat x with ⟨negative, mantissa, exponent⟩ | _ | _ <;> dsimp only
  case infinite | notANumber => exact atLeast
  split
  · exact atLeast
  have some : 0 < Nat.pow 10 places := Nat.pow_pos (by norm_num)
  -- A value that is not negative in spite of its sign is zero, and stays zero.
  have none (minus : negative = true) : unitsOf places mantissa exponent = 0 := by
    have zero : mantissa = 0 := by simpa [read, Binary.IsNegative, minus] using atLeast
    simp [unitsOf, scaled, roundDiv, zero]
  rcases found : nearest? negative (unitsOf places mantissa exponent) (Nat.pow 10 places) with _ | y <;>
    rw [nearest, found]
  · cases negative with
    | false =>
      have plus : Binary.ofFloat infinity = .infinite false :=
        (Binary.ofFloat_ofBits _).trans (by decide)
      change ¬ (Binary.ofFloat infinity).IsNegative
      rw [plus]
      exact Bool.false_ne_true
    | true =>
      rw [none rfl] at found
      cases found
  · obtain ⟨m, e, rounded, zero⟩ := nearest?_finite some found
    change ¬ (Binary.ofFloat y).IsNegative
    rw [rounded]
    rintro ⟨minus, nonzero⟩
    exact nonzero (zero (none minus))

end Decimal

namespace Timing

/-- A negative number is replaced by 0, and 0 is not negative. -/
theorem notNegative_notNegative (x : Float) :
    ¬ (Decimal.Binary.ofFloat (notNegative x)).IsNegative := by
  rw [← Decimal.lt_zero_iff, notNegative]
  split
  · rw [Decimal.lt_zero_iff]
    rintro ⟨minus, -⟩
    cases minus
  · assumption

/-- A difference of CPU times as it is told is never less than zero. -/
theorem told_notNegative (x : Float) : ¬ Decimal.roundPlaces 6 (notNegative x) < 0.0 := by
  rw [Decimal.lt_zero_iff]
  exact Decimal.roundPlaces_notNegative 6 (notNegative_notNegative x)

/-! ## Clock and counters -/

/-- What times are read from: the clock, and the CPU times of all processes that were waited for. -/
structure Meters where
  clock : Float
  user : Float
  system : Float

def metersOf (w : World) : Meters := ⟨w.clock, w.childUser, w.childSystem⟩

/-- What the clock shows when a process is over that was waited for within a limit. One that was late
took all of its limit, and what it was given then. -/
def clockPast (limit : Value) (late : Bool) (o : Outcome) (clock : Float) : Float :=
  if late then
    let ended := clock + limit.toFloat + o.grace
    if o.stubborn then ended + o.dying else ended
  else clock + o.wall

/-- The meters after a process that was waited for within a limit, and ended if it was late. -/
def Meters.past (m : Meters) (limit : Value) (late : Bool) (o : Outcome) : Meters :=
  ⟨clockPast limit late o m.clock, m.user + o.user, m.system + o.system⟩

/-- Two worlds with the same meters, the same events behind them and the same outcomes to come. -/
structure SameMeters (w v : World) : Prop where
  meters : metersOf v = metersOf w
  events : v.events = w.events
  processes : v.processes = w.processes

instance : Law SameMeters where
  refl _ := ⟨rfl, rfl, rfl⟩
  trans first second :=
    ⟨second.meters.trans first.meters, second.events.trans first.events,
      second.processes.trans first.processes⟩

/-- By induction on the edits: each changes files only. -/
theorem applyAll_sameMeters (edits : List FileEdit) (w : World) :
    SameMeters w (Program.applyAll edits w) := by
  induction edits generalizing w with
  | nil => exact Law.refl w
  | cons edit rest ih =>
    have changed : SameMeters w (w.withFiles (edit.apply w.files)) := ⟨rfl, rfl, rfl⟩
    exact Law.trans changed (ih _)

/-! ## What is done to a process -/

/-- What is done to a process after its start. A wait may run out of time. -/
inductive Handling where
  | wait (limit : Value) (ranOut : Bool)
  | endGroup
  | endProcess

def Handling.event : Handling → Event
  | .wait limit _ => .wait limit
  | .endGroup => .endGroup
  | .endProcess => .endProcess

def Handling.ranOut? : Handling → Option Bool
  | .wait _ ranOut => some ranOut
  | _ => none

def Handling.isEndGroup : Handling → Bool
  | .endGroup => true
  | _ => false

def Handling.isEndProcess : Handling → Bool
  | .endProcess => true
  | _ => false

/-- All that is done to a process, by whether it is late and whether it outlasts the end of its
group. -/
def handling (limit : Value) (late stubborn : Bool) : List Handling :=
  .wait limit late ::
    if late then
      .endGroup :: .wait (.int graceSeconds) stubborn ::
        if stubborn then [.endProcess, .wait .null false] else []
    else []

/-- A process was waited for until it was over, and told to end as often as waits ran out. -/
structure IsReaped (hs : List Handling) : Prop where
  /-- The last thing done is the one wait that did not run out. -/
  ended : ∃ before limit, hs = before ++ [.wait limit false] ∧
    ∀ h ∈ before, h.ranOut? ≠ some false
  /-- The group is told to end if the first wait ran out, and then once. -/
  group : hs.countP Handling.isEndGroup =
    if (hs.filterMap Handling.ranOut?)[0]? = some true then 1 else 0
  /-- The process itself is told to end if the second wait ran out too, and then once. -/
  process : hs.countP Handling.isEndProcess =
    if (hs.filterMap Handling.ranOut?)[1]? = some true then 1 else 0

/-- By whether the process was late and whether it was stubborn: each trace ends with the last wait.
-/
theorem handling_isReaped (limit : Value) (late stubborn : Bool) :
    IsReaped (handling limit late stubborn) := by
  cases late with
  | false => exact ⟨⟨[], limit, rfl, nofun⟩, rfl, rfl⟩
  | true =>
    cases stubborn with
    | false =>
      refine ⟨⟨[.wait limit true, .endGroup], .int graceSeconds, rfl, ?_⟩, rfl, rfl⟩
      simp [Handling.ranOut?]
    | true =>
      refine ⟨⟨[.wait limit true, .endGroup, .wait (.int graceSeconds) true, .endProcess], .null,
        rfl, ?_⟩, rfl, rfl⟩
      simp [Handling.ranOut?]

/-- A time limit: none, or a number of seconds that one can wait for. -/
inductive IsLimit : Value → Prop
  | none : IsLimit .null
  | whole {i : Int} (waitable : Program.waitFault? (.int i) = Option.none) : IsLimit (.int i)
  | seconds {x : Float} (waitable : Program.waitFault? (.float x) = Option.none) :
    IsLimit (.float x)

/-- By the kind of the limit: each can be compared with a duration. -/
theorem IsLimit.tells {limit : Value} (limited : IsLimit limit) (wall : Float) :
    ∃ late, Program.runsOut limit wall = .ok late := by
  cases limited with
  | none => exact ⟨false, rfl⟩
  | whole waitable | seconds waitable =>
    simp [Program.runsOut, Value.isNull, Value.lessThan?, waitable]

/-- What is left when a process that was started is over. -/
structure Handled (limit : Value) (late : Bool) (o : Outcome) (w v : World) : Prop where
  events : v.events = w.events ++ (handling limit late o.stubborn).map Handling.event
  meters : metersOf v = (metersOf w).past limit late o
  processes : v.processes = w.processes

/-- Ending a process that was late always works: it is told to end as often as needed, and the time
that it is given passes. -/
theorem endProcess_ends (o : Outcome) (w : World) :
    ∃ v, endProcess o w = (.ok (), v) ∧
      v.events = w.events ++ ((handling .null true o.stubborn).drop 1).map Handling.event ∧
      metersOf v = ⟨if o.stubborn then w.clock + o.grace + o.dying else w.clock + o.grace,
        w.childUser + o.user, w.childSystem + o.system⟩ ∧
      v.processes = w.processes := by
  rw [endProcess, endGroup_eq]
  cases stubborn : o.stubborn <;>
    exact ⟨_, rfl, by simp [handling, Handling.event], rfl, rfl⟩

/-- While a process is waited for, the clock goes on by what it takes, or by the whole limit. -/
theorem awaited_meters {o : Outcome} {limit : Value} {late : Bool}
    (known : Program.runsOut limit o.wall = .ok late) (argv : List String) (w : World) :
    SameMeters { w with clock := w.clock + if late then limit.toFloat else o.wall }
      (Program.awaited o argv limit w) := by
  rw [Program.awaited, known]
  cases late <;> exact applyAll_sameMeters _ _

/-- However long a process takes, waiting for it comes to an end. -/
theorem waitOrEnd_handles {o : Outcome} {limit : Value} {late : Bool}
    (known : Program.runsOut limit o.wall = .ok late) (argv : List String) (w : World) :
    ∃ v, waitOrEnd o argv limit w = (.ok late, v) ∧ Handled limit late o w v := by
  have waited := awaited_meters known argv (noted (.wait limit) w)
  unfold waitOrEnd
  rw [bind_run, note_run]
  dsimp only
  rw [bind_run, Program.await_run, known]
  generalize Program.awaited o argv limit (noted (.wait limit) w) = u at waited
  obtain ⟨clock, user, system⟩ := Meters.mk.inj waited.meters
  cases late with
  | false =>
    refine ⟨_, rfl, waited.events, ?_, waited.processes⟩
    change Meters.mk u.clock (u.childUser + o.user) (u.childSystem + o.system) = _
    rw [clock, user, system]
    rfl
  | true =>
    obtain ⟨v, ended, events, meters, processes⟩ := endProcess_ends o u
    refine ⟨v, ?_, ?_, ?_, processes.trans waited.processes⟩
    · simp only [Except.map, Bool.not_true, Bool.false_eq_true, if_false]
      rw [bind_run, ended]
      rfl
    · rw [events, waited.events]
      exact List.append_assoc _ [_] _
    · rw [meters, clock, user, system]
      rfl

/-- A limit for which nobody can wait fails the wait, and the process is left to itself. -/
theorem waitOrEnd_unwaitable {o : Outcome} {limit : Value} {f : Fault}
    (unwaited : Program.runsOut limit o.wall = .error f) (argv : List String) (w : World) :
    ∃ v, waitOrEnd o argv limit w = (.error f, v) ∧
      v.events = w.events ++ [.wait limit] ∧ v.processes = w.processes := by
  have same := applyAll_sameMeters o.earlyEdits (noted (.wait limit) w)
  unfold waitOrEnd
  rw [bind_run, note_run]
  dsimp only
  rw [bind_run, Program.await_run, Program.awaited, unwaited]
  exact ⟨_, rfl, same.events, same.processes⟩

/-- How a command is started. -/
def startOf (argv : List String) (folder : Option String) (env : Option Environment) :
    Program.Command :=
  { argv := argv, folder := folder.filter (!·.isEmpty), env := env }

/-- A deed that is the run of a process within a limit. A process that is not found is not waited
for. -/
def IsRun (c : Program.Command) (limit : Value) (o : Outcome) (d : Deed) : Prop :=
  ∃ files, d = .process c (if o.launch = .started then limit else c.timeout) o files

section Repetition

variable {command : Value} {argv : List String} {folder : Option String}
  {env : Option Environment} {limit : Value} {w : World}

/-- The words of the command have been read. -/
theorem repetition_run (read : Command.words command = .ok argv) :
    repetition command folder env limit w =
      (do
        let o ← Program.launch (startOf argv folder env)
        let timedOut ← waitOrEnd o argv limit
        let p ← ofResult (Program.completed o)
        return Repetition.between w (← get) p timedOut : Action Repetition) w := by
  unfold repetition
  rw [bind_run, get_run, read]
  rfl

/-- A process that was started is waited for in the world after its start. What is told of it when it
is over depends on whether what it wrote can be read. -/
theorem repetition_waited (read : Command.words command = .ok argv)
    (started : w.processes.next.1.launch = .started) {timedOut : Bool} {v : World}
    (waited : waitOrEnd w.processes.next.1 argv limit (Program.launched (startOf argv folder env) w) =
      (.ok timedOut, v)) :
    repetition command folder env limit w =
        ((Program.completed w.processes.next.1).map fun p =>
          Repetition.between w v p timedOut, v) ∧
      ∃ d, IsRun (startOf argv folder env) limit w.processes.next.1 d ∧ Enacted w [d] v := by
  constructor
  · rw [repetition_run read, bind_run, Program.launch_run, started]
    dsimp only
    rw [bind_run, waited]
    dsimp only
    rw [bind_run, ofResult_run]
    rcases Program.completed w.processes.next.1 with f | p <;> rfl
  · have aside := (waitOrEnd_setAside w.processes.next.1 argv limit
      (Program.launched (startOf argv folder env) w)).1
    rw [waited] at aside
    exact ⟨_, ⟨w.files, by rw [if_pos started]⟩, enacted_of_waited aside⟩

/-- The process is not started, so nothing is waited for. -/
theorem repetition_notFound (read : Command.words command = .ok argv)
    (missing : w.processes.next.1.launch = .notFound) :
    repetition command folder env limit w =
        (.error (.system .notFound (argv.headD "")),
          Program.launched (startOf argv folder env) w) ∧
      ∃ d, IsRun (startOf argv folder env) limit w.processes.next.1 d ∧
        Enacted w [d] (Program.launched (startOf argv folder env) w) := by
  constructor
  · rw [repetition_run read, bind_run, Program.launch_run, missing]
    rfl
  · exact ⟨_, ⟨w.files, by rw [if_neg (by simp [missing])]⟩,
      Program.enacted_of_launched (Law.refl _)⟩

/-- It makes no difference to a wait whether the system lets the group of a process be ended. -/
theorem waitOrEnd_refused (o : Outcome) (refused : Bool) (argv : List String) (limit : Value) :
    waitOrEnd { o with groupSurvives := refused } argv limit = waitOrEnd o argv limit := by
  have same : endProcess { o with groupSurvives := refused } = endProcess o := by
    unfold endProcess
    rw [endGroup_eq, endGroup_eq]
    rfl
  unfold waitOrEnd
  rw [same]
  rfl

/-- What is told of a process that was started in one world and was over in another. -/
structure Repetition.Tells (w v : World) (p : Program.Completed) (late : Bool) (r : Repetition) :
    Prop where
  timedOut : r.timedOut = late
  exitCode : r.exitCode = if late then -1 else p.exitCode
  output : r.stdout = p.stdout ∧ r.stderr = p.stderr
  wall : r.wall = Decimal.roundPlaces 6 (v.clock - w.clock)
  user : r.user = Decimal.roundPlaces 6 (notNegative (v.childUser - w.childUser))
  system : r.system = Decimal.roundPlaces 6 (notNegative (v.childSystem - w.childSystem))
  userAtLeast : ¬ r.user < 0.0
  systemAtLeast : ¬ r.system < 0.0

/-- Field by field. -/
theorem between_tells (w v : World) (p : Program.Completed) (late : Bool) :
    (Repetition.between w v p late).Tells w v p late where
  timedOut := rfl
  exitCode := rfl
  output := ⟨rfl, rfl⟩
  wall := rfl
  user := rfl
  system := rfl
  userAtLeast := told_notNegative _
  systemAtLeast := told_notNegative _

/-- How a repetition ends whose process was started, by whether the process was late: it is over only
when a wait has not run out; the group was ended once if the first wait ran out, and the process
itself once if the second one did too. What is told is told of all these waits together, if what the
process wrote can be read. -/
structure Reaps (c : Program.Command) (limit : Value) (o : Outcome) (late : Bool) (w v : World)
    (ended : Except Fault Repetition) : Prop where
  events : v.events = w.events ++ c.event :: (handling limit late o.stubborn).map Handling.event
  reaped : IsReaped (handling limit late o.stubborn)
  meters : metersOf v = (metersOf w).past limit late o
  told : ∀ p, Program.completed o = .ok p → ∃ r, ended = .ok r ∧ r.Tells w v p late
  untold : ∀ f, Program.completed o = .error f → ended = .error f

end Repetition

/-- A process that nothing but its own end can stop, and whose group must not be ended. -/
def obstinate : World where
  files := { root := [] }
  processes := ⟨[{ wall := 9.0, user := -1.0, stubborn := true, groupSurvives := true }], {}⟩
  replies := ⟨[], .refused .connection ""⟩

end Timing

end BuildBench
