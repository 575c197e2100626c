import BuildBench.Proofs.Logging.Records

/-!
# Actions that reach the outside

There are three of them: running a process to its end, timing one repetition of a command, and
asking a server for the fixture. Each adds one deed to the history, and its result tells how the
deed went. A command that cannot be read starts nothing at all.

`StartsOne` says this of a process in the form in which the parts of a run use it: they give names
of their own to the faults of starting and waiting, and look at the exit code.
-/

namespace BuildBench

open BuildBench.Action

variable {α β : Type}

/-! ## What came of a deed -/

/-- How a process ended, if it could be started, ended within its limit, and wrote what can be read. -/
def Outcome.end? (limit : Value) (o : Outcome) : Option Program.Completed :=
  match o.launch, Program.runsOut limit o.wall with
  | .started, .ok false => (Program.completed o).toOption
  | _, _ => none

/-- The exit code with which a process ended. -/
def Outcome.exit? (limit : Value) (o : Outcome) : Option Int := (o.end? limit).map (·.exitCode)

/-- How a process that was started ended is a matter of its limit and of what it wrote. -/
theorem Outcome.end_of_started (limit : Value) {o : Outcome} (started : o.launch = .started) :
    o.end? limit =
      match Program.runsOut limit o.wall with
      | .ok false => (Program.completed o).toOption
      | _ => none := by
  rw [Outcome.end?, started]
  split <;> simp_all

/-- A process that never ran has no exit code. -/
theorem Outcome.exit_of_not_started {limit : Value} {o : Outcome} (idle : o.launch ≠ .started) :
    o.exit? limit = none := by
  unfold Outcome.exit? Outcome.end?
  split
  · next launches _ => exact absurd launches idle
  · rfl

/-- A process that ended was started, and did not run out of time. -/
theorem Outcome.started_of_end {limit : Value} {o : Outcome} {p : Program.Completed}
    (ended : o.end? limit = some p) :
    o.launch = .started ∧ Program.runsOut limit o.wall = .ok false := by
  unfold Outcome.end? at ended
  split at ended
  · next launch waited => exact ⟨launch, waited⟩
  · cases ended

/-- What is known of a process that ended was read from its streams. -/
theorem Outcome.stdout_of_end {limit : Value} {o : Outcome} {p : Program.Completed}
    (ended : o.end? limit = some p) : o.stdout.read = .ok p.stdout := by
  unfold Outcome.end? at ended
  split at ended
  · rcases known : Program.completed o with f | q <;> rw [known] at ended <;> cases ended
    exact (Program.completed_eq_ok.mp known).2.1
  · cases ended

/-- A process that is not found, or that starts and writes what can be read. -/
def Outcome.IsOrdinary (o : Outcome) : Prop :=
  o.launch = .notFound ∨ o.launch = .started ∧ ∃ p, Program.completed o = .ok p

/-- What was received of an answer that is a success and was not cut short. -/
def Reply.received? : Reply → Option ByteArray
  | .answer status chunks none =>
    if Fixture.isSuccess status then some (Fixture.Body.content ⟨chunks, none⟩) else none
  | _ => none

/-- Whether content has the digest that is wanted, if one is. -/
def hasDigest (digest : Value) (content : ByteArray) : Bool :=
  match digest with
  | .null => true
  | _ =>
    match Fixture.expectedDigest digest with
    | .ok expected => Digest.hex (Digest.sha256 content) == expected
    | .error _ => false

/-! ## One start in the history -/

/-- Marks that belong to a deed before them: waiting for a process, ending it, reading a body. -/
def Milestone.isAside : Milestone → Bool
  | .event (.wait _) | .event .endGroup | .event .endProcess | .event (.readBody _) => true
  | _ => false

/-- By induction on the marks: none of them begins a deed, so the history goes on with what is
behind. -/
theorem history_aside {processes : Supply Outcome} {replies : Supply Reply}
    {asides more : List Mark} (all : ∀ mark ∈ asides, mark.milestone.isAside) :
    history processes replies (asides ++ more) = history processes replies more := by
  induction asides with
  | nil => rfl
  | cons mark rest ih =>
    have here := all mark (by simp)
    rcases mark with ⟨_ | _ | event, files⟩
    · simp [Milestone.isAside] at here
    · simp [Milestone.isAside] at here
    · cases event <;> first
        | exact ih fun other among => all other (by simp [among])
        | simp [Milestone.isAside] at here

/-- A trail that goes on with a start, and with marks that belong to it, tells of one process. -/
theorem Enacted.start {w v : World} {c : Program.Command} {limit : Value} (asides : List Mark)
    (host : SameHost w v) (trail : v.trail = w.trail ++ ⟨.event c.event, w.files⟩ :: asides)
    (processes : v.processes = w.processes.next.2) (replies : v.replies = w.replies)
    (all : ∀ mark ∈ asides, mark.milestone.isAside)
    (limited : ∀ more, Unwaited more → limitOf c.timeout (asides ++ more) = limit) :
    Enacted w [.process c limit w.processes.next.1 w.files] v := by
  refine ⟨host, _, trail, trivial, fun more cut => ?_⟩
  simp only [List.cons_append, Program.Command.event, history, limited more cut,
    history_aside all, processes, replies, List.nil_append]

/-- Nothing but marks that belong to a deed before them was added to the trail. -/
structure SetAside (w v : World) : Prop extends SameHost w v where
  trail : ∃ asides, v.trail = w.trail ++ asides ∧ ∀ mark ∈ asides, mark.milestone.isAside
  processes : v.processes = w.processes
  replies : v.replies = w.replies

instance : Law SetAside where
  refl _ := ⟨.rfl, ⟨[], by simp, by simp⟩, rfl, rfl⟩
  trans first second := by
    obtain ⟨asides, trail, all⟩ := first.trail
    obtain ⟨others, otherTrail, otherAll⟩ := second.trail
    refine ⟨first.toSameHost.trans second.toSameHost,
      ⟨asides ++ others, by simp [otherTrail, trail], fun mark among => ?_⟩,
      second.processes.trans first.processes, second.replies.trans first.replies⟩
    rcases List.mem_append.mp among with here | there
    · exact all mark here
    · exact otherAll mark there

/-- Where the trail is the same there are no marks to set aside. -/
theorem Untouched.setAside {w v : World} (untouched : Untouched w v) : SetAside w v :=
  ⟨untouched.toSameHost, ⟨[], by simp [untouched.trail], by simp⟩, untouched.processes,
    untouched.replies⟩

/-- The world after an event was noted. -/
def noted (event : Event) (w : World) : World :=
  { w with
    events := w.events ++ [event], trail := w.trail ++ [⟨.event event, w.files⟩] }

/-- Taking a note cannot fail. -/
theorem note_run (event : Event) (w : World) : note event w = (.ok (), noted event w) := rfl

/-- A note is no change of the machine. -/
theorem noted_host (event : Event) (w : World) : SameHost w (noted event w) :=
  ⟨rfl, rfl, rfl, fun _ opened => opened⟩

/-- A note about a deed before it adds no deed. -/
theorem note_setAside {event : Event} {F : Fault → Prop}
    (aside : (Milestone.event event).isAside) : Keeps SetAside F (note event) :=
  fun w => ⟨⟨noted_host event w, ⟨[⟨.event event, w.files⟩], rfl, by simpa using aside⟩, rfl, rfl⟩,
    fun _ failed => by simp [note_run] at failed⟩

/-! ## Bounds of stages -/

/-- The world after a milestone was passed. -/
def passed (milestone : Milestone) (w : World) : World :=
  { w with trail := w.trail ++ [⟨milestone, w.files⟩] }

/-- Passing a milestone cannot fail. -/
theorem pass_run (milestone : Milestone) (w : World) :
    pass milestone w = (.ok (), passed milestone w) := rfl

/-- The beginning of a stage is a deed of its own, which keeps how the files were. -/
theorem begins_enacted (stage : String) (w : World) :
    Enacted w [.begins stage w.files] (passed (.begins stage) w) :=
  ⟨⟨rfl, rfl, rfl, fun _ opened => opened⟩, [⟨.begins stage, w.files⟩], rfl, trivial, fun _ _ => rfl⟩

/-- So is its end. -/
theorem ends_enacted (stage : String) (w : World) :
    Enacted w [.ends stage w.files] (passed (.ends stage) w) :=
  ⟨⟨rfl, rfl, rfl, fun _ opened => opened⟩, [⟨.ends stage, w.files⟩], rfl, trivial, fun _ _ => rfl⟩

/-! ## Processes -/

namespace Program

/-- The world after the start of a process. -/
def launched (c : Command) (w : World) : World :=
  { noted c.event w with processes := w.processes.next.2 }

/-- Starting a process takes the next outcome, whatever comes of it. Only an interruption changes
files: the process has begun by then. -/
theorem launch_run (c : Command) (w : World) :
    launch c w =
      match w.processes.next.1.launch with
      | .started => (.ok w.processes.next.1, launched c w)
      | .notFound => (.error (.system .notFound (c.argv.headD "")), launched c w)
      | .refused reason => (.error (reason.fault (c.argv.headD "")), launched c w)
      | .interrupted =>
        (.error .interrupted, applyAll w.processes.next.1.earlyEdits (launched c w)) := by
  unfold launch
  simp only [bind_run, note_run, get_run, set_run]
  rcases launches : w.processes.next.1.launch <;> simp only [noted, launches] <;> rfl

/-- The machine is the same after a start; an outcome has been used up. -/
theorem launched_host (c : Command) (w : World) : SameHost w (launched c w) :=
  ⟨rfl, rfl, rfl, fun _ opened => opened⟩

/-- By induction on the changes: each one changes files and nothing else. -/
theorem applyAll_untouched (edits : List FileEdit) (w : World) :
    Untouched w (applyAll edits w) := by
  induction edits generalizing w with
  | nil => exact Law.refl w
  | cons edit rest ih => exact Law.trans (withFiles_untouched w _) (ih _)

/-- Time passes without a trace in the history. -/
theorem clock_untouched (w : World) (clock : Float) : Untouched w { w with clock := clock } :=
  ⟨⟨rfl, rfl, rfl, fun _ opened => opened⟩, rfl, rfl, rfl⟩

/-- The world when the wait for a process is over, one way or another. -/
def awaited (o : Outcome) (argv : List String) (limit : Value) (w : World) : World :=
  match runsOut limit o.wall with
  | .ok false => applyAll (changes o argv) { w with clock := w.clock + o.wall }
  | .ok true => applyAll o.earlyEdits { w with clock := w.clock + limit.toFloat }
  | .error _ => applyAll o.earlyEdits w

/-- Waiting tells whether a process ended in time, if one can wait for that at all. -/
theorem await_run (o : Outcome) (argv : List String) (limit : Value) (w : World) :
    await o argv limit w =
      ((runsOut limit o.wall).map (!·), awaited o argv limit w) := by
  unfold await awaited
  rcases runsOut limit o.wall with f | _ | _ <;> rfl

/-- While a process is waited for only the clock and the files move. -/
theorem awaited_untouched (o : Outcome) (argv : List String) (limit : Value) (w : World) :
    Untouched w (awaited o argv limit w) := by
  unfold awaited
  split
  · exact Law.trans (clock_untouched w _) (applyAll_untouched _ _)
  · exact Law.trans (clock_untouched w _) (applyAll_untouched _ _)
  · exact applyAll_untouched _ _

/-! ### To the end -/

/-- How running a process to its end comes out. -/
def verdict (c : Command) (o : Outcome) : Except Fault Completed :=
  match o.launch with
  | .notFound => .error (.system .notFound (c.argv.headD ""))
  | .refused reason => .error (reason.fault (c.argv.headD ""))
  | .interrupted => .error .interrupted
  | .started =>
    match runsOut c.timeout o.wall with
    | .ok false => completed o
    | .ok true => .error (.timedOut c.timeout)
    | .error f => .error f

/-- No way in which a process comes out is the failure of a stage: that name is given to it later.
-/
theorem verdict_plain (c : Command) (o : Outcome) : Plain (verdict c o) := by
  unfold verdict
  split
  · exact .error rfl
  · next reason _ => exact .error (reason.fault_isStage _)
  · exact .error rfl
  · split
    · exact completed_plain o
    · exact .error rfl
    · next failed => exact .error (runsOut_plain _ _ _ failed)

/-- The world when a process that was run to its end is over. -/
def ended (c : Command) (w : World) : World :=
  let o := w.processes.next.1
  match o.launch with
  | .started =>
    let v := awaited o c.argv c.timeout (launched c w)
    match runsOut c.timeout o.wall with
    | .ok false => v
    | _ => { v with clock := v.clock + o.dying }
  | .interrupted => applyAll o.earlyEdits (launched c w)
  | _ => launched c w

/-- Running a process to its end is told by its outcome, and so is the world after it. -/
theorem run_run (c : Command) (w : World) : run c w = (verdict c w.processes.next.1, ended c w) := by
  unfold run verdict ended
  rw [bind_run, launch_run]
  rcases launches : w.processes.next.1.launch <;> simp only [launches]
  rw [bind_run, tryCatch_run, await_run]
  rcases runsOut c.timeout w.processes.next.1.wall with f | _ | _
  · rfl
  · exact ofResult_run _ _
  · rfl

/-- All that is added to the trail is added by the start. -/
theorem ended_untouched (c : Command) (w : World) : Untouched (launched c w) (ended c w) := by
  have waited := awaited_untouched w.processes.next.1 c.argv c.timeout (launched c w)
  unfold ended
  dsimp only
  split
  · split
    · exact waited
    · exact Law.trans waited (clock_untouched _ _)
  · exact applyAll_untouched _ _
  · exact Law.refl _

/-- Running a process to its end comes out well exactly if it ended. -/
theorem toOption_verdict (c : Command) (o : Outcome) : (verdict c o).toOption = o.end? c.timeout := by
  unfold Outcome.end? verdict
  rcases o.launch <;> try rfl
  rcases runsOut c.timeout o.wall with f | _ | _ <;> rfl

/-- Why nothing can be told of how a process ended, apart from a program that is not there and a
time that is over: it was not let start, it was interrupted, nobody can wait for as long as its limit
says, or what it wrote is no text. -/
inductive Breaks (program : String) (limit : Value) (o : Outcome) : Fault → Prop
  | refused {reason : Refusal} (launch : o.launch = .refused reason) :
    Breaks program limit o (reason.fault program)
  | interrupted (launch : o.launch = .interrupted) : Breaks program limit o .interrupted
  | unwaitable {f : Fault} (launch : o.launch = .started)
    (unwaited : runsOut limit o.wall = .error f) : Breaks program limit o f
  | unreadable {f : Fault} (launch : o.launch = .started)
    (inTime : runsOut limit o.wall = .ok false) (unread : completed o = .error f) :
    Breaks program limit o f

/-- The ways in which running a process to its end can come out. -/
inductive ComesOut (c : Command) (o : Outcome) : Except Fault Completed → Prop
  | ended {p : Completed} (known : o.end? c.timeout = some p) : ComesOut c o (.ok p)
  | notFound (launch : o.launch = .notFound) :
    ComesOut c o (.error (.system .notFound (c.argv.headD "")))
  | late (launch : o.launch = .started) (late : runsOut c.timeout o.wall = .ok true) :
    ComesOut c o (.error (.timedOut c.timeout))
  | broken {f : Fault} (breaks : Breaks (c.argv.headD "") c.timeout o f) : ComesOut c o (.error f)

/-- By how the start went, then by the limit, then by what was written. -/
theorem verdict_comesOut (c : Command) (o : Outcome) : ComesOut c o (verdict c o) := by
  unfold verdict
  rcases launch : o.launch <;> dsimp only
  case notFound => exact .notFound launch
  case refused => exact .broken (.refused launch)
  case interrupted => exact .broken (.interrupted launch)
  have known := Outcome.end_of_started c.timeout launch
  rcases waited : runsOut c.timeout o.wall with f | _ | _ <;> rw [waited] at known <;> dsimp only
  · exact .broken (.unwaitable launch waited)
  · rcases read : completed o with f | p <;> rw [read] at known
    · exact .broken (.unreadable launch waited read)
    · exact .ended known
  · exact .late launch waited

section Breaks

variable {program : String} {limit : Value} {o : Outcome} {f : Fault}

/-- A fault for which there is a message of its own is not among those that a broken process has. -/
theorem Breaks.unnamed (breaks : Breaks program limit o f) :
    (∀ path, f ≠ .system .notFound path) ∧ ∀ limit, f ≠ .timedOut limit := by
  cases breaks with
  | @refused reason => cases reason <;> exact ⟨nofun, nofun⟩
  | interrupted => exact ⟨nofun, nofun⟩
  | unwaitable launch unwaited =>
    rcases runsOut_error unwaited with rfl | rfl | ⟨text, rfl⟩ <;> exact ⟨nofun, nofun⟩
  | unreadable launch inTime unread =>
    obtain ⟨p, read⟩ | ⟨reason, read⟩ := completed_cases o <;> rw [read] at unread <;> cases unread
    exact ⟨nofun, nofun⟩

/-- It is no failure of a stage either: no handler has turned it into one. -/
theorem Breaks.isStage (breaks : Breaks program limit o f) : f.isStage = false := by
  cases breaks with
  | refused => exact Refusal.fault_isStage _ _
  | interrupted => rfl
  | unwaitable launch unwaited => exact runsOut_plain _ _ _ unwaited
  | unreadable launch inTime unread => exact completed_plain _ _ unread

/-- A broken process has no end to tell of. -/
theorem Breaks.endless (breaks : Breaks program limit o f) : o.end? limit = none := by
  cases breaks with
  | refused launch | interrupted launch => simp [Outcome.end?, launch]
  | unwaitable launch unwaited => simp [Outcome.end_of_started _ launch, unwaited]
  | unreadable launch inTime unread =>
    simp [Outcome.end_of_started _ launch, inTime, unread, Except.toOption]

end Breaks

end Program

/-! ## At most one process -/

/-- At most one process was started, by a command that is known and with files that are known. When
there is a value, `exit` reads off it how the process ended. A fault that is the failure of a stage
is no exit code. -/
inductive StartsOne (known : Program.Command → Files → Prop) (exit : α → Option Int)
    (kinds : FailureKind → Prop) : List Deed → Except Fault α → Prop
  | unstarted {f : Fault} (uncoded : f.IsInternal kinds) :
    StartsOne known exit kinds [] (.error f)
  | ended {c : Program.Command} {limit : Value} {o : Outcome} {files : Files} {x : α}
    (command : known c files) (told : exit x = o.exit? limit) :
    StartsOne known exit kinds [.process c limit o files] (.ok x)
  | failed {c : Program.Command} {limit : Value} {o : Outcome} {files : Files} {f : Fault}
    (command : known c files) (untold : o.exit? limit = none) (uncoded : f.IsInternal kinds) :
    StartsOne known exit kinds [.process c limit o files] (.error f)

/-- No kind of failure. Faults of no kind are no failures of a stage. -/
def noKind : FailureKind → Prop := fun _ => False

/-- An action that starts at most one process. What is known of it depends on the world before. -/
abbrev Action.Starts (known : World → Program.Command → Files → Prop) (exit : α → Option Int)
    (kinds : FailureKind → Prop) (a : Action α) : Prop :=
  a.Enacts fun w ds r _ => StartsOne (known w) exit kinds ds r

namespace Action.Starts

variable {known wider : World → Program.Command → Files → Prop} {kinds : FailureKind → Prop}

/-- What is known of a command may be known in less detail. -/
theorem mono {exit : α → Option Int} {a : Action α} (one : a.Starts known exit kinds)
    (includes : ∀ w c files, known w c files → wider w c files) : a.Starts wider exit kinds := by
  refine Enacts.mono one fun w ds r v one => ?_
  cases one with
  | unstarted uncoded => exact .unstarted uncoded
  | ended command told => exact .ended (includes _ _ _ command) told
  | failed command untold uncoded => exact .failed (includes _ _ _ command) untold uncoded

/-- The faults of starting and waiting may get other names. -/
theorem renamed {exit : α → Option Int} {a : Action α} {handler : Fault → Action α}
    (one : a.Starts known exit noKind)
    (renames : ∀ f, f.isStage = false → ∃ g, handler f = throw g ∧ g.IsInternal kinds) :
    (tryCatch a handler).Starts known exit kinds := by
  have other : ∀ f : Fault, f.IsInternal noKind → f.isStage = false := by
    intro f internal
    cases f with
    | stage s => exact (internal s rfl).1.elim
    | _ => rfl
  intro w
  obtain ⟨ds, enacted, holds⟩ := one w
  rcases ran : a w with ⟨f | x, v⟩ <;> rw [ran] at enacted holds <;>
    simp only [tryCatch_run, ran]
  · cases holds with
    | unstarted uncoded =>
      obtain ⟨g, same, internal⟩ := renames f (other f uncoded)
      rw [same]
      exact ⟨[], enacted, .unstarted internal⟩
    | failed command untold uncoded =>
      obtain ⟨g, same, internal⟩ := renames f (other f uncoded)
      rw [same]
      exact ⟨_, enacted, .failed command untold internal⟩
  · cases holds with
    | ended command told => exact ⟨_, enacted, .ended command told⟩

/-- Records may be written before the start. -/
theorem after {exit : β → Option Int} {a : Action α} {next : α → Action β} (logs : OnlyLogs a)
    (one : ∀ x, (next x).Starts known exit kinds)
    (moves : ∀ w u c files, Logged w u → known u c files → known w c files) :
    (a >>= next).Starts known exit kinds := by
  intro w
  have before := logs w
  rcases ran : a w with ⟨f | x, u⟩ <;> rw [ran] at before <;> simp only [bind_run, ran]
  · exact ⟨[], before.1.toUntouched.enacted, .unstarted (Fault.isInternal_of_other
      (before.2 f rfl))⟩
  · obtain ⟨ds, enacted, holds⟩ := one x u
    refine ⟨ds, before.1.toUntouched.enacted.trans enacted, ?_⟩
    rcases ended : next x u with ⟨r, v⟩
    rw [ended] at holds
    cases holds with
    | unstarted uncoded => exact .unstarted uncoded
    | ended command told => exact .ended (moves _ _ _ _ before.1 command) told
    | failed command untold uncoded =>
      exact .failed (moves _ _ _ _ before.1 command) untold uncoded

/-- A process of which a command is known is of every sort that such commands are. -/
theorem does {exit : α → Option Int} {a : Action α} {sort : Deed → Prop}
    (one : a.Starts known exit kinds)
    (sorted : ∀ w c limit o files, known w c files → sort (.process c limit o files)) :
    a.Does sort := by
  refine Enacts.mono one ?_
  rintro w ds r v (- | ⟨command, -⟩ | ⟨command, -, -⟩) d among
  · simp at among
  · obtain rfl := List.mem_singleton.mp among
    exact sorted _ _ _ _ _ command
  · obtain rfl := List.mem_singleton.mp among
    exact sorted _ _ _ _ _ command

/-- A value that cannot be computed starts nothing. -/
theorem given {exit : β → Option Int} {r : Except Fault α} {next : α → Action β}
    (plain : Plain r) (one : ∀ x, r = .ok x → (next x).Starts known exit kinds) :
    (ofResult r >>= next).Starts known exit kinds := by
  cases r with
  | error f =>
    exact fun w => ⟨[], Law.refl (R := Idle) w, .unstarted (Fault.isInternal_of_other (plain f rfl))⟩
  | ok x => exact one x rfl

end Action.Starts

/-- A start that is not followed by a wait of its own has the limit of its command. -/
theorem Program.enacted_of_launched {c : Command} {w v : World}
    (untouched : Untouched (launched c w) v) :
    Enacted w [.process c c.timeout w.processes.next.1 w.files] v :=
  .start [] ((launched_host c w).trans untouched.toSameHost) untouched.trail untouched.processes
    untouched.replies (by simp) fun _ cut => limitOf_unwaited cut

/-- A process that is run to its end tells its exit code. -/
theorem Program.run_starts (c : Command) :
    (Program.run c).Starts (fun w command files => command = c ∧ files = w.files)
      (fun p : Completed => some p.exitCode) noKind := by
  intro w
  have told := toOption_verdict c w.processes.next.1
  rw [run_run]
  refine ⟨_, enacted_of_launched (ended_untouched c w), ?_⟩
  dsimp only
  rcases came : verdict c w.processes.next.1 with f | p <;> rw [came] at told
  · exact .failed ⟨rfl, rfl⟩ (by rw [Outcome.exit?, ← told]; rfl)
      (Fault.isInternal_of_other (verdict_plain _ _ f came))
  · exact .ended ⟨rfl, rfl⟩ (by rw [Outcome.exit?, ← told]; rfl)

/-- A process without a limit ends unless it cannot be started. -/
theorem Program.run_unlimited (argv : List String) (folder : Option String) :
    (Program.run { argv := argv, folder := folder }).Tells fun ds r =>
      ∃ o files, ds = [.process { argv := argv, folder := folder } .null o files] ∧
        r = verdict { argv := argv, folder := folder } o := by
  intro w
  rw [run_run]
  exact ⟨_, enacted_of_launched (ended_untouched _ w), _, _, rfl, rfl⟩

/-- The process that a configured command stands for, when only records were written before its
start. -/
structure Command.Means (command : Value) (folder : Option String) (env : Option Environment)
    (w : World) (c : Program.Command) (files : Files) : Prop where
  argv : words command = .ok c.argv
  folder : c.folder = folder
  env : c.env = env
  logged : ∃ u, Logged w u ∧ files = u.files

/-- Records before the start belong to the same command. -/
theorem Command.Means.after {command : Value} {folder : Option String} {env : Option Environment}
    {w u : World} {c : Program.Command} {files : Files} (means : Means command folder env u c files)
    (logged : Logged w u) : Means command folder env w c files := by
  obtain ⟨v, later, same⟩ := means.logged
  exact ⟨means.argv, means.folder, means.env, v, Law.trans logged later, same⟩

/-- A configured command runs at most one process, in its folder and environment. -/
theorem Command.run_starts (command : Value) (folder : Option PathName)
    (env : Option Environment) (timeout : Value) :
    (Command.run command folder env timeout).Starts
      (Means command (folder.map PathName.display) env)
      (fun p : Program.Completed => some p.exitCode) noKind := by
  refine Starts.given (words_plain command) fun argv read => ?_
  refine Starts.after (log_onlyLogs _ _ _) (fun _ => ?_) fun _ _ _ _ logged means =>
    means.after logged
  refine (Program.run_starts _).mono ?_
  rintro w c files ⟨rfl, rfl⟩
  exact ⟨read, rfl, rfl, w, Law.refl w, rfl⟩

/-! ## Repetitions -/

namespace Timing

/-- How a repetition ended. One that ran out of time has no exit code of its own. -/
def Repetition.exit? (r : Repetition) : Option Int := if r.timedOut then none else some r.exitCode

/-- A repetition that was late tells no exit code of its own. -/
theorem Repetition.exit_between (before after : World) (p : Program.Completed) (timedOut : Bool) :
    (Repetition.between before after p timedOut).exit? =
      if timedOut then none else some p.exitCode := by
  cases timedOut <;> rfl

/-- Counting CPU times adds nothing to the trail. -/
theorem collect_setAside {F : Fault → Prop} (o : Outcome) : Keeps SetAside F (collect o) :=
  .modify fun _ => ⟨⟨rfl, rfl, rfl, fun _ opened => opened⟩, ⟨[], by simp, by simp⟩, rfl, rfl⟩

/-- A group that cannot be ended is passed over. -/
theorem endGroup_eq (o : Outcome) : endGroup o = note .endGroup := by
  funext w
  rw [endGroup, tryCatch_run, tellGroup, bind_run, note_run]
  cases o.groupSurvives <;> rfl

/-- Neither does waiting. -/
theorem pause_setAside {F : Fault → Prop} (seconds : Float) :
    Keeps SetAside F (Program.pause seconds) :=
  .modify fun w => (Program.clock_untouched w _).setAside

/-- All notes about the end of a process belong to its start. -/
theorem endProcess_setAside {F : Fault → Prop} (o : Outcome) : Keeps SetAside F (endProcess o) := by
  rw [endProcess, endGroup_eq]
  refine .bind (note_setAside rfl) fun _ => .bind (note_setAside rfl) fun _ =>
    .bind (pause_setAside _) fun _ => ?_
  dsimp only
  split
  · exact .bind (note_setAside rfl) fun _ => .bind (note_setAside rfl) fun _ =>
      .bind (pause_setAside _) fun _ => collect_setAside o
  · exact collect_setAside o

/-- Waiting for a process tells whether it ran out of time, if one can wait for that at all. -/
theorem waitOrEnd_setAside (o : Outcome) (argv : List String) (limit : Value) (w : World) :
    SetAside (noted (.wait limit) w) (waitOrEnd o argv limit w).2 ∧
      (waitOrEnd o argv limit w).1 = Program.runsOut limit o.wall := by
  have waited := (Program.awaited_untouched o argv limit (noted (.wait limit) w)).setAside
  unfold waitOrEnd
  simp only [bind_run, note_run, Program.await_run]
  generalize Program.awaited o argv limit (noted (.wait limit) w) = v at waited
  rcases Program.runsOut limit o.wall with f | _ | _ <;>
    simp only [Except.map, Bool.not_true, Bool.not_false, Bool.false_eq_true, if_false, if_true]
  · exact ⟨waited, trivial⟩
  · exact ⟨Law.trans waited (collect_setAside (F := fun _ => False) o v).1, rfl⟩
  · have ended := endProcess_setAside (F := fun _ => False) o v
    rcases ending : endProcess o v with ⟨f | x, u⟩ <;> rw [ending] at ended
    · exact (ended.2 f rfl).elim
    · rw [bind_run, ending]
      exact ⟨Law.trans waited ended.1, rfl⟩

/-- A start that is followed by a wait of its own has the limit of that wait. -/
theorem enacted_of_waited {c : Program.Command} {limit : Value} {w v : World}
    (aside : SetAside (noted (.wait limit) (Program.launched c w)) v) :
    Enacted w [.process c limit w.processes.next.1 w.files] v := by
  obtain ⟨asides, trail, all⟩ := aside.trail
  refine .start (⟨.event (.wait limit), w.files⟩ :: asides)
    ((Program.launched_host c w).trans ((noted_host _ _).trans aside.toSameHost)) ?_
    aside.processes aside.replies ?_ fun _ _ => rfl
  · simp [trail, noted, Program.launched]
  · simpa [Milestone.isAside] using all

/-- A repetition runs at most one process, in its environment. -/
theorem repetition_starts (command : Value) (folder : Option String)
    (env : Option Environment) (limit : Value) :
    (repetition command folder env limit).Starts
      (Command.Means command (folder.filter (!·.isEmpty)) env) Repetition.exit? noKind := by
  intro w
  unfold repetition
  rw [bind_run, get_run]
  dsimp only
  rcases read : Command.words command with f | argv
  · have other := Command.words_plain command f read
    rw [bind_run, ofResult_run]
    exact ⟨[], (Law.refl w : Idle w w), .unstarted (Fault.isInternal_of_other other)⟩
  rw [ofResult_ok_bind]
  generalize commanded : ({ argv := argv, folder := folder.filter (!·.isEmpty), env := env } :
    Program.Command) = c
  have known : Command.Means command (folder.filter (!·.isEmpty)) env w c w.files := by
    subst commanded
    exact ⟨read, rfl, rfl, w, Law.refl w, rfl⟩
  have unstarted {v : World} (untouched : Untouched (Program.launched c w) v) {f : Fault}
      (idle : w.processes.next.1.launch ≠ .started) (other : f.isStage = false) :
      ∃ ds, Enacted w ds v ∧
        StartsOne (Command.Means command (folder.filter (!·.isEmpty)) env w) Repetition.exit? noKind
          ds (.error f) :=
    ⟨_, Program.enacted_of_launched untouched,
      .failed known (Outcome.exit_of_not_started idle) (Fault.isInternal_of_other other)⟩
  rw [bind_run, Program.launch_run]
  rcases launches : w.processes.next.1.launch with _ | _ | reason | _ <;> dsimp only
  case notFound => exact unstarted (Law.refl _) (by simp [launches]) rfl
  case refused => exact unstarted (Law.refl _) (by simp [launches]) (reason.fault_isStage _)
  case interrupted =>
    exact unstarted (Program.applyAll_untouched _ _) (by simp [launches]) rfl
  obtain ⟨aside, came⟩ := waitOrEnd_setAside w.processes.next.1 argv limit (Program.launched c w)
  have told := congrArg (Option.map Program.Completed.exitCode)
    (Outcome.end_of_started limit launches)
  have enacted := enacted_of_waited aside
  rcases ran : waitOrEnd w.processes.next.1 argv limit (Program.launched c w) with ⟨f | late, v⟩ <;>
    rw [ran] at came enacted <;> rw [bind_run, ran] <;> rw [← came] at told
  · have other := Program.runsOut_plain _ _ f came.symm
    exact ⟨_, enacted, .failed known told (Fault.isInternal_of_other other)⟩
  dsimp only
  rw [bind_run, ofResult_run]
  rcases read : Program.completed w.processes.next.1 with f | p <;> rw [read] at told
  · have untold : w.processes.next.1.exit? limit = none := by cases late <;> exact told
    exact ⟨_, enacted, .failed known untold
      (Fault.isInternal_of_other (Program.completed_plain _ f read))⟩
  · refine ⟨_, enacted, .ended known ((Repetition.exit_between _ _ _ _).trans ?_)⟩
    cases late <;> exact told.symm

end Timing

/-! ## Downloads -/

namespace Fixture

/-- What an answer means for the request that got it. -/
def Answers (reply : Reply) : Except Fault Body → Prop
  | .ok body => ∃ status, reply = .answer status body.chunks body.cut ∧ isSuccess status
  | .error f => reply.received? = none ∧ f.IsInternal (· = .fixture)

/-- A failure of the download is a failure of its kind. -/
theorem failure_isInternal (message : String) : (failure message).IsInternal (· = .fixture) := by
  rintro s ⟨⟩
  exact ⟨rfl, rfl⟩

/-- One request is one download, and what it gives is read off the reply. -/
theorem request_tells (url timeout : Value) :
    (request url timeout).Tells fun ds r =>
      ∃ reply files, ds = [.download url reply files] ∧ Answers reply r := by
  intro w
  have enacted : Enacted w [.download url w.replies.next.1 w.files]
      { noted (.request url timeout userAgent) w with replies := w.replies.next.2 } :=
    ⟨⟨rfl, rfl, rfl, fun _ opened => opened⟩, [⟨.event (.request url timeout userAgent), w.files⟩], rfl, trivial,
      fun _ _ => rfl⟩
  unfold request
  simp only [bind_run, note_run, get_run, set_run]
  rcases replied : w.replies.next.1 with ⟨status, chunks, cut⟩ | ⟨_ | _ | _, text⟩ <;>
    simp only [noted, replied]
  · split
    · next success =>
      exact ⟨_, replied ▸ enacted, _, _, rfl, status, rfl, success⟩
    · next refused =>
      refine ⟨_, replied ▸ enacted, _, _, rfl, ?_, failure_isInternal _⟩
      cases cut <;> simp [Reply.received?, refused]
  all_goals exact ⟨_, replied ▸ enacted, _, _, rfl, rfl, failure_isInternal _⟩

/-- Taking the file of a failed download away asks no server. -/
theorem remove_idle (target : PathName) {f : Fault} (fixture : f.IsInternal (· = .fixture)) :
    Keeps Idle (Fault.IsInternal (· = .fixture))
      (do Disk.unlinkIfThere target; throw f : Action α) :=
  .bind (Disk.unlinkIfThere_quiet _).stage.idle fun _ => .throw fixture

/-- Storing a body writes to the disk only. -/
theorem store_idle (url : Value) (target : PathName) (body : Body) :
    Keeps Idle (Fault.IsInternal (· = .fixture)) (store url target body) := by
  have written : QuietStage (· = .fixture) (Disk.write target ByteArray.empty) :=
    (Disk.change_quiet _ _).stage
  refine .bind (.tryCatch written.idle fun f internal => ?_) fun _ =>
    .bind (fun w => ?_) fun _ => .bind (Disk.change_quiet _ _).stage.idle fun _ => ?_
  · split
    · exact remove_idle target (failure_isInternal _)
    · exact .throw internal
  · exact ⟨⟨noted_host _ w, [⟨.event (.readBody chunkSize), w.files⟩], rfl, trivial,
      fun _ _ => rfl⟩, fun _ failed => by simp [note_run] at failed⟩
  · split
    · exact remove_idle target (failure_isInternal _)
    · exact .pure _

/-- What is stored is whole, and it is found where it was stored. -/
theorem store_ok {url : Value} {target : PathName} {body : Body} {w v : World} {x : Unit}
    (stored : store url target body w = (.ok x, v)) :
    body.cut = none ∧ v.files.read target = .ok body.content := by
  obtain ⟨_, _, _, stored⟩ := ok_of_bind_ok stored
  obtain ⟨_, _, _, stored⟩ := ok_of_bind_ok stored
  obtain ⟨_, u, written, stored⟩ := ok_of_bind_ok stored
  rcases cut : body.cut with _ | ⟨problem, text⟩ <;> rw [cut] at stored
  · obtain ⟨-, rfl⟩ := Prod.mk.inj stored
    obtain ⟨files, done, rfl⟩ := Disk.change_ok written
    obtain ⟨location, executable, leads, closed, rfl⟩ := Files.write_ok done
    exact ⟨rfl, Files.read_eq_ok_iff.mpr ⟨executable, Files.lookUp_put_file leads closed⟩⟩
  · obtain ⟨_, _, _, thrown⟩ := ok_of_bind_ok stored
    exact absurd thrown throw_not_ok

/-- A digest is computed from what was received. -/
theorem verify_idle (sha256 : Value) (target : PathName) (body : Body) :
    Keeps Idle (Fault.IsInternal (· = .fixture)) (verify sha256 target body) := by
  unfold verify
  split
  · exact .pure _
  · refine .bind (.ofResult fun f failed => ?_) fun expected => ?_
    · exact Fault.isInternal_of_other (expectedDigest_plain _ f failed)
    · dsimp only
      split
      · exact .pure _
      · exact remove_idle target (failure_isInternal _)

/-- A download is only kept if the digest that is wanted is the one it has. -/
theorem verify_ok {sha256 : Value} {target : PathName} {body : Body} {w v : World} {x : Unit}
    (verified : verify sha256 target body w = (.ok x, v)) :
    v = w ∧ hasDigest sha256 body.content := by
  unfold verify at verified
  unfold hasDigest
  split at verified
  · exact ⟨(Prod.mk.inj verified).2.symm, rfl⟩
  · obtain ⟨expected, u, read, verified⟩ := ok_of_bind_ok verified
    rw [ofResult_run] at read
    obtain ⟨known, rfl⟩ := Prod.mk.inj read
    dsimp only at verified
    split at verified
    · next same => exact ⟨(Prod.mk.inj verified).2.symm, by simpa [known] using same⟩
    · obtain ⟨_, _, _, thrown⟩ := ok_of_bind_ok verified
      exact absurd thrown throw_not_ok

/-- What is done with a body that was received reaches no server any more. -/
theorem keep_idle (url sha256 : Value) (target : PathName) (body : Body) :
    Keeps Idle (Fault.IsInternal (· = .fixture)) (keep url sha256 target body) :=
  .bind (store_idle _ _ _) fun _ => .bind (verify_idle _ _ _) fun _ =>
    .bind (log_quiet _ _ _).stage.idle fun _ => .pure _

/-- A download that is kept is whole, has the digest that is wanted, and is in its file. -/
theorem keep_ok {url sha256 : Value} {target file : PathName} {body : Body} {w v : World}
    (kept : keep url sha256 target body w = (.ok file, v)) :
    file = target ∧ body.cut = none ∧ hasDigest sha256 body.content ∧
      w.Holds v.files target body.content := by
  obtain ⟨_, u, stored, later⟩ := ok_of_bind_ok kept
  obtain ⟨_, t, verified, later⟩ := ok_of_bind_ok later
  obtain ⟨_, s, logged, later⟩ := ok_of_bind_ok later
  obtain ⟨same, rfl⟩ := Prod.mk.inj later
  have host := (store_idle url target body w).1.toSameHost
  rw [stored] at host
  obtain ⟨uncut, read⟩ := store_ok stored
  obtain ⟨rfl, wanted⟩ := verify_ok verified
  have recorded := (log_onlyLogs .info "fixture" ("Fixture saved to " ++ target.display ++ " (" ++
    toString body.content.size ++ " bytes)") t).1
  rw [logged] at recorded
  have holds : w.Holds t.files target body.content :=
    ⟨ByteArray.empty, by rw [ByteArray.append_empty]; exact read, .inl rfl⟩
  exact ⟨(Except.ok.inj same).symm, uncut, wanted, holds.extended host recorded.toExtended⟩

/-- At most one download was made. If it gave a file then it was received whole, with the digest
that is wanted, and the file holds it. -/
inductive Fetches (url digest : Value) (folder : PathName) (w v : World) :
    List Deed → Except Fault PathName → Prop
  | unasked {f : Fault} (internal : f.IsInternal (· = .fixture)) :
    Fetches url digest folder w v [] (.error f)
  | fetched {reply : Reply} {files : Files} {content : ByteArray} {name : String}
    (named : fileName url = .ok name) (received : reply.received? = some content)
    (wanted : hasDigest digest content)
    (holds : w.Holds v.files (folder.join (.parse name)) content) :
    Fetches url digest folder w v [.download url reply files] (.ok (folder.join (.parse name)))
  | failed {reply : Reply} {files : Files} {f : Fault} (internal : f.IsInternal (· = .fixture)) :
    Fetches url digest folder w v [.download url reply files] (.error f)

/-- One request is made at most, by whether the address names a file; what comes then only touches
the disk. -/
theorem fetch_fetches (url : Value) (folder : PathName) (timeout sha256 : Value) :
    (fetch url folder timeout sha256).Enacts fun w ds r v => Fetches url sha256 folder w v ds r := by
  intro w
  unfold fetch
  rcases named : fileName url with f | name
  · simp only [bind_run, ofResult_run]
    exact ⟨[], Law.refl (R := Idle) w,
      .unasked (Fault.isInternal_of_other (fileName_plain url f named))⟩
  have logged := log_onlyLogs .info "fixture" ("Fetching fixture " ++ url.display) w
  rw [ofResult_ok_bind]
  rcases announced : log .info "fixture" ("Fetching fixture " ++ url.display) w with ⟨f | x, u⟩ <;>
    rw [announced] at logged <;> simp only [bind_run, announced]
  · exact ⟨[], logged.1.idle, .unasked (Fault.isInternal_of_other (logged.2 f rfl))⟩
  obtain ⟨_, asked, reply, files, rfl, answers⟩ := request_tells url timeout u
  rcases answered : request url timeout u with ⟨f | body, t⟩ <;>
    rw [answered] at asked answers <;> dsimp only
  · exact ⟨_, Enacted.trans logged.1.idle asked, .failed answers.2⟩
  have idle := keep_idle url sha256 (folder.join (.parse name)) body t
  rcases kept : keep url sha256 (folder.join (.parse name)) body t with ⟨f | file, v⟩ <;>
    rw [kept] at idle
  · exact ⟨_, Enacted.trans logged.1.idle (asked.trans idle.1), .failed (idle.2 f rfl)⟩
  · obtain ⟨status, rfl, success⟩ := answers
    obtain ⟨rfl, uncut, wanted, added, read, opened⟩ := keep_ok kept
    have host := logged.1.toSameHost.trans asked.toSameHost
    refine ⟨_, Enacted.trans logged.1.idle (asked.trans idle.1), .fetched named ?_ wanted
      ⟨added, read, opened.imp_right ?_⟩⟩
    · rw [uncut]
      exact if_pos success
    · rintro ⟨place, placed, isLog⟩
      exact ⟨place, placed, host.logs _ isLog⟩

end Fixture

end BuildBench
