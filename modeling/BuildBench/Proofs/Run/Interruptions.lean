import BuildBench.Proofs.Run.HandedEnvironments

/-!
# Interrupted runs

A run that its user interrupts while a process runs gives no report. The functions of a stage give
other names to some faults of running a process, but they let an interruption through, so that it is
what the stage fails with. Only one thing may put another fault in its place: a measurement takes its
temporary file away whatever happens, and that may fail.
-/

namespace BuildBench

open BuildBench.Action

variable {α β : Type}

/-- A process that was running when the user interrupted the run. -/
def Deed.IsInterruption : Deed → Prop
  | .process _ _ o _ => o.launch = .interrupted
  | _ => False

/-- An action that fails when it is interrupted, and with one of these faults. -/
abbrev Action.Breaks (faults : Fault → Prop) (a : Action α) : Prop :=
  a.Tells fun ds r => (∃ d ∈ ds, d.IsInterruption) → ∃ f, r = .error f ∧ faults f

/-- The interruption itself. -/
abbrev Fault.IsInterruption : Fault → Prop := (· = .interrupted)

/-- The fault of taking a file away when everything else is over. -/
def Fault.IsCleanUp (f : Fault) : Prop :=
  ∃ (path : PathName) (w : World), (Disk.unlinkIfThere path w).1 = .error f

/-- With what a run ends that is interrupted. -/
def Fault.EndsRun (f : Fault) : Prop := f.IsInterruption ∨ f.IsCleanUp

/-- It is the first of the two ways. -/
theorem Fault.IsInterruption.endsRun {f : Fault} (interrupted : f.IsInterruption) : f.EndsRun :=
  .inl interrupted

/-- Neither is a failure of a stage, so neither is reported. -/
theorem Fault.EndsRun.isStage {f : Fault} (ends : f.EndsRun) : f.isStage = false := by
  obtain rfl | ⟨path, w, failed⟩ := ends
  · rfl
  · exact (Disk.unlinkIfThere_quiet path w).2 f failed

namespace Action.Breaks

variable {faults wider : Fault → Prop} {F : Fault → Prop} {a : Action α} {next : α → Action β}

/-- No deed was interrupted. -/
theorem of_does (others : a.Does (¬ ·.IsInterruption)) : a.Breaks faults :=
  Enacts.mono others fun _ _ _ _ none ⟨d, among, interrupts⟩ => absurd interrupts (none d among)

/-- Where nothing is done nothing is interrupted. -/
theorem of_idle (idle : Keeps Idle F a) : a.Breaks faults := .of_does (.of_idle idle)

/-- No process runs meanwhile. -/
theorem pure (x : α) : (Pure.pure x : Action α).Breaks faults := .of_does (.pure x)

/-- No process runs meanwhile. -/
theorem throw (f : Fault) : (MonadExcept.throw f : Action α).Breaks faults := .of_does (.throw f)

/-- The fault is among the wider ones as well. -/
theorem mono (breaks : a.Breaks faults) (includes : ∀ f, faults f → wider f) : a.Breaks wider :=
  Enacts.mono breaks fun _ _ _ _ breaks interrupted =>
    let ⟨f, failed, among⟩ := breaks interrupted
    ⟨f, failed, includes f among⟩

/-- What fails with the interruption itself ends the run. -/
theorem endsRun (breaks : a.Breaks Fault.IsInterruption) : a.Breaks Fault.EndsRun :=
  breaks.mono fun _ => Fault.IsInterruption.endsRun

/-- An interruption during the first action is its fault, and the second is not begun. Otherwise it
is one of the second action. -/
theorem bind (first : a.Breaks faults) (second : ∀ x, (next x).Breaks faults) :
    (a >>= next).Breaks faults := by
  refine Enacts.bind first second ?_ ?_
  · rintro w ds f v breaks interrupted
    obtain ⟨_, ⟨⟩, among⟩ := breaks interrupted
    exact ⟨f, rfl, among⟩
  · rintro w ds x u more r v before after ⟨d, among, interrupts⟩
    rcases List.mem_append.mp among with here | there
    · obtain ⟨f, failed, -⟩ := before ⟨d, here, interrupts⟩
      cases failed
    · exact after ⟨d, there, interrupts⟩

/-- What is idle cannot be interrupted. -/
theorem after (idle : Keeps Idle F a) (second : ∀ x, (next x).Breaks faults) :
    (a >>= next).Breaks faults :=
  .bind (.of_idle idle) second

/-- What cannot be computed starts nothing. -/
theorem given {r : Except Fault α} (second : ∀ x, (next x).Breaks faults) :
    (ofResult r >>= next).Breaks faults :=
  .after (F := fun _ => True) (.ofResult fun _ _ => trivial) second

/-- A handler that lets an interruption through. -/
theorem tryCatch {handler : Fault → Action α} (first : a.Breaks Fault.IsInterruption)
    (passes : handler .interrupted = MonadExcept.throw .interrupted)
    (handled : ∀ f, (handler f).Breaks Fault.IsInterruption) :
    (MonadExcept.tryCatch a handler).Breaks Fault.IsInterruption := by
  intro w
  obtain ⟨ds, enacted, breaks⟩ := first w
  rcases ran : a w with ⟨f | x, u⟩ <;> rw [ran] at enacted breaks <;> simp only [tryCatch_run, ran]
  · by_cases interrupted : ∃ d ∈ ds, d.IsInterruption
    · obtain ⟨_, ⟨⟩, rfl⟩ := breaks interrupted
      rw [passes]
      exact ⟨ds, enacted, fun _ => ⟨_, rfl, rfl⟩⟩
    · obtain ⟨more, after, later⟩ := handled f u
      refine ⟨ds ++ more, enacted.trans after, ?_⟩
      rintro ⟨d, among, interrupts⟩
      rcases List.mem_append.mp among with here | there
      · exact absurd ⟨d, here, interrupts⟩ interrupted
      · exact later ⟨d, there, interrupts⟩
  · exact ⟨ds, enacted, breaks⟩

/-- Taking a file away in the end may put a fault of its own in the place of the interruption. -/
theorem thenUnlinked {path : PathName} (first : a.Breaks Fault.IsInterruption) :
    (thenAlways a (Disk.unlinkIfThere path)).Breaks Fault.EndsRun := by
  refine Enacts.bind (Q := fun result _ ds r _ => ds = [] ∧
      (r = result ∨ ∃ f, r = .error f ∧ f.IsCleanUp))
    (Enacts.attempt first) (fun result w => ?_) ?_ ?_
  · have quiet := (Disk.unlinkIfThere_quiet path).idle w
    rcases ran : Disk.unlinkIfThere path w with ⟨f | x, v⟩ <;> rw [ran] at quiet <;>
      rw [bind_run, ran]
    · exact ⟨[], quiet.1, rfl, .inr ⟨f, rfl, path, w, congrArg Prod.fst ran⟩⟩
    · dsimp only
      rw [ofResult_run]
      exact ⟨[], quiet.1, rfl, .inl rfl⟩
  · rintro w ds f v ⟨result, failed, -⟩
    simp at failed
  · rintro w ds result u more r v ⟨_, ⟨⟩, breaks⟩ ⟨rfl, rfl | ⟨f, rfl, cleanUp⟩⟩ interrupted
    · obtain ⟨f, failed, interruption⟩ := breaks (by simpa using interrupted)
      exact ⟨_, failed, interruption.endsRun⟩
    · exact ⟨f, rfl, .inr cleanUp⟩

/-- An action that starts at most one process fails with an interruption at its start. -/
theorem of_starts {known : World → Program.Command → Files → Prop} {exit : α → Option Int}
    {kinds : FailureKind → Prop} (one : a.Starts known exit kinds)
    (interrupted : ∀ w c files, known w c files → w.processes.next.1.launch = .interrupted →
      (a w).1 = .error .interrupted) :
    a.Breaks Fault.IsInterruption := by
  intro w
  obtain ⟨ds, enacted, started⟩ := one w
  refine ⟨ds, enacted, ?_⟩
  have fails {c : Program.Command} {limit : Value} {o : Outcome} {files : Files}
      (same : ds = [.process c limit o files]) (command : known w c files)
      (interrupts : ∃ d ∈ ds, d.IsInterruption) : ∃ f, (a w).1 = .error f ∧ f = .interrupted := by
    subst same
    obtain rfl := enacted.outcome_eq
    have launch : w.processes.next.1.launch = .interrupted := by
      simpa [Deed.IsInterruption] using interrupts
    exact ⟨_, interrupted w c files command launch, rfl⟩
  cases given : (a w).1 <;> rw [given] at started fails
  · cases started with
    | unstarted => rintro ⟨d, ⟨⟩, -⟩
    | failed command => exact fails rfl command
  · cases started with
    | ended command => exact fails rfl command

end Action.Breaks

/-! ## Processes -/

/-- The fault is thrown as soon as the start has come out so. -/
theorem Program.run_interrupted {c : Command} {w : World}
    (interrupted : w.processes.next.1.launch = .interrupted) :
    (run c w).1 = .error .interrupted := by
  rw [run, bind_run, launch_run, interrupted]

/-- One process, and its interruption is the fault. -/
theorem Program.run_breaks (c : Command) : (run c).Breaks Fault.IsInterruption :=
  .of_starts (run_starts c) fun _ _ _ _ => run_interrupted

/-- Nothing runs before the process. -/
theorem Command.run_breaks (command : Value) (folder : Option PathName) (env : Option Environment)
    (timeout : Value) : (Command.run command folder env timeout).Breaks Fault.IsInterruption :=
  .given fun _ => .after (log_quiet _ _ _).idle fun _ => Program.run_breaks _

/-! ## Preparation -/

namespace Checkout

/-- The handler renames other faults and passes an interruption on. -/
theorem git_breaks (args : List Value) (folder : Option PathName) :
    (git args folder).Breaks Fault.IsInterruption := by
  refine .given fun _ => .after (log_quiet _ _ _).idle fun _ =>
    .tryCatch (Program.run_breaks _) rfl fun f => ?_
  split <;> exact .throw _

/-- Only the failures of a stage are taken for no revision. -/
theorem headRevision_breaks (folder : PathName) :
    (headRevision folder).Breaks Fault.IsInterruption := by
  refine .tryCatch (.bind (git_breaks _ _) fun _ => .pure _) rfl fun f => ?_
  split
  · exact .after (log_quiet _ _ _).idle fun _ => .pure _
  · exact .throw _

/-- By induction on the steps: an interruption ends the script. -/
theorem runSteps_breaks (repo : Value) (steps : List Step) :
    (runSteps repo steps).Breaks Fault.IsInterruption := by
  induction steps with
  | nil => exact .pure _
  | cons step rest ih =>
    refine .bind (git_breaks _ _) fun p => ?_
    split
    · exact ih
    · exact .throw _

/-- By which script is run. -/
theorem checkOut_breaks (repo : Value) (folder : PathName) (ref depth : Value) :
    (checkOut repo folder ref depth).Breaks Fault.IsInterruption := by
  unfold checkOut
  split
  · refine .after (Disk.isFolder_quiet _).idle fun there => ?_
    split
    · exact headRevision_breaks folder
    · exact .throw _
  · refine .after (Disk.exists_quiet _).idle fun isCheckout => .given fun s => ?_
    refine .after (log_quiet _ _ _).idle fun _ => .given fun steps => ?_
    refine .bind (runSteps_breaks _ _) fun _ => .bind (headRevision_breaks _) fun revision => ?_
    exact .after (log_quiet _ _ _).idle fun _ => .pure _

end Checkout

/-- Nothing runs but the checkout. -/
theorem prepare_breaks (s : Settings) (store : Option CacheStore) :
    (prepare s store).Breaks Fault.IsInterruption := by
  refine .given fun source => .after (makeRoom_quiet _ _).idle fun _ => ?_
  refine .bind (Checkout.checkOut_breaks _ _ _ _) fun revision => ?_
  refine .after (workdirKey_quiet s).idle fun key => .after Disk.homes_asks.quiet.idle fun homes => ?_
  refine .given fun cache => .given fun paths => .after (log_quiet _ _ _).idle fun _ => ?_
  exact .after (restoreCache_quiet _ _ _).idle fun hit => .pure _

/-! ## Installation -/

namespace Installation

variable (install : InstallSettings) (env : Environment)

/-- The handler has names for other faults. -/
theorem runInstaller_breaks (command : Value) (what : String) :
    (runInstaller command what install env).Breaks Fault.IsInterruption := by
  refine .bind (.tryCatch (Command.run_breaks _ _ _ _) rfl fun f => ?_) fun p => ?_
  · split <;> exact .throw _
  · split
    · exact .pure _
    · exact .throw _

/-- One process, run in the same way. -/
theorem bootstrap_breaks : (bootstrap install env).Breaks Fault.IsInterruption := by
  unfold bootstrap
  dsimp only
  split
  · exact .throw _
  · refine .after (log_quiet _ _ _).idle fun _ =>
      .bind (runInstaller_breaks _ _ _ _) fun output => ?_
    refine .after (Disk.which_asks _ _).quiet.idle fun path => ?_
    split
    · exact .throw _
    · exact .pure _

/-- Nothing runs but the bootstrap. -/
theorem ensureInstaller_breaks (checked : Bool) :
    (ensureInstaller install env checked).Breaks Fault.IsInterruption := by
  unfold ensureInstaller
  split
  · refine .after (Disk.which_asks _ _).quiet.idle fun path => ?_
    split
    · exact bootstrap_breaks install env
    · exact .pure _
  · exact .pure _

/-- Nothing runs but the installer. -/
theorem installPackage_breaks (package : Value) :
    (installPackage install env package).Breaks Fault.IsInterruption := by
  refine .after (log_quiet _ _ _).idle fun _ => .given fun command => ?_
  refine .bind (runInstaller_breaks _ _ _ _) fun output => ?_
  refine .after (Disk.which_asks _ _).quiet.idle fun path => ?_
  split
  · exact .after (log_quiet _ _ _).idle fun _ => .pure _
  · exact .throw _

/-- By induction on the packages. -/
theorem installAll_breaks (checked : Bool) (packages : List Value) :
    (installAll install env checked packages).Breaks Fault.IsInterruption := by
  induction packages generalizing checked with
  | nil => exact .pure _
  | cons package rest ih =>
    refine .after (Disk.which_asks _ _).quiet.idle fun path => ?_
    split
    · exact .after (log_quiet _ _ _).idle fun _ => .bind (ih checked) fun _ => .pure _
    · refine .bind (ensureInstaller_breaks install env checked) fun _ => ?_
      refine .bind (installPackage_breaks install env package) fun tool => ?_
      exact .bind (ih true) fun _ => .pure _

end Installation

/-- A stage that is skipped runs nothing. -/
theorem installStage_breaks (plan : Run.Plan) (env : Environment) :
    (Run.installStage plan env).Breaks Fault.IsInterruption := by
  refine .after (skipsInstall_asks plan).quiet.idle fun skipped => ?_
  split
  · exact .of_idle (log_quiet _ _ _).idle
  · exact .given fun install => .bind (Installation.installAll_breaks _ _ _ _) fun _ => .pure _

/-! ## Building -/

/-- The build is the only process, and its handler has names for other faults. -/
theorem buildStage_breaks (s : Settings) (workdir : PathName) (env : Environment) :
    (Run.buildStage s workdir env).Breaks Fault.IsInterruption := by
  refine .after Disk.homes_asks.quiet.idle fun homes => .given fun artifact => ?_
  refine .after (Artifact.removeStale_quiet _).idle fun _ => .given fun settings => ?_
  refine .after (Artifact.announce_onlyLogs _).quiet.idle fun _ =>
    .after (F := fun _ => True) .get fun _ => ?_
  refine .bind ?_ fun output => .after (F := fun _ => True) .get fun _ =>
    .of_idle (Artifact.finish_quiet _ _ _).idle
  refine .bind (.tryCatch (Command.run_breaks _ _ _ _) rfl fun f => ?_) fun p => ?_
  · split <;> exact .throw _
  · split
    · exact .pure _
    · exact .throw _

/-! ## Measurement -/

namespace Timing

variable (command : Value) (folder : PathName) (env : Environment)

/-- The interruption comes out of the start, and nothing catches it. -/
theorem repetition_breaks (folder : Option String) (env : Option Environment) (limit : Value) :
    (repetition command folder env limit).Breaks Fault.IsInterruption := by
  refine .of_starts (repetition_starts command folder env limit) fun w c files means interrupted => ?_
  rw [repetition, bind_run, get_run]
  dsimp only
  rw [means.argv, ofResult_ok_bind, bind_run, Program.launch_run, interrupted]

/-- The handler has a name for a missing program only. -/
theorem successful_breaks (limit : Value) (isWarmup : Bool) (number : Nat) :
    (successful command folder env limit isWarmup number).Breaks Fault.IsInterruption := by
  refine .bind (.tryCatch (repetition_breaks _ _ _ _) rfl fun f => ?_) fun r => ?_
  · split <;> exact .throw _
  · exact .given fun _ => .after (log_quiet _ _ _).idle fun _ => .pure _

/-- By induction on how many are left. -/
theorem repetitions_breaks (limit : Value) (left warmup done : Nat) :
    (repetitions command folder env limit left warmup done).Breaks Fault.IsInterruption := by
  induction left generalizing warmup done with
  | zero => exact .pure _
  | succ left ih => exact .bind (successful_breaks _ _ _ _ _ _) fun r => .bind (ih _ _) fun _ => .pure _

/-- The handler has names for other faults. -/
theorem timeWithReport_breaks (report : PathName) (warmup runs : Value) :
    (timeWithReport report command folder env warmup runs).Breaks Fault.IsInterruption := by
  refine .given fun argv => .bind (.tryCatch (Command.run_breaks _ _ _ _) rfl fun f => ?_) fun p => ?_
  · split <;> exact .throw _
  · split
    · exact .after (logOutput_quiet _ _ _).idle fun _ =>
        .after (readReport_quiet _).idle fun _ => .pure _
    · exact .throw _

/-- The temporary file of a measurement is taken away also after an interruption. -/
theorem measure_breaks (benchmark : BenchmarkSettings) :
    (measure benchmark command folder env).Breaks Fault.EndsRun := by
  refine .after (log_quiet _ _ _).idle fun _ => ?_
  split
  · refine .bind (.given fun warmup => .given fun runs => ?_) fun _ => .pure _
    refine .bind (repetitions_breaks _ _ _ _ _ _ _).endsRun fun measured => ?_
    exact .given fun summary => .given fun text => .pure _
  · split
    · exact .after makeReportFile_quiet.idle fun report =>
        .thenUnlinked (timeWithReport_breaks _ _ _ _ _ _)
    · exact .given fun _ => .throw _

end Timing

/-- A download is no process. After an interruption the report file is still taken away, and if that
fails its fault takes the place of the interruption. -/
theorem measureStage_breaks (s : Settings) (artifact workdir : PathName) (env : Environment) :
    (Run.measureStage s artifact workdir env).Breaks Fault.EndsRun := by
  have fetched (fixture : FixtureSettings) :
      (Fixture.fetch fixture.url workdir fixture.timeout fixture.sha256).Does
        (¬ ·.IsInterruption) := by
    refine Enacts.mono (Fixture.fetch_fetches _ _ _ _) ?_
    rintro w ds r v (- | - | -) <;> simp [Deed.IsInterruption]
  refine .given fun fixture => .bind (.of_does (fetched fixture)) fun file => .given fun benchmark => ?_
  refine .after (Measurement.benchmarkCommand_asks _ _ _ _).quiet.idle fun command => ?_
  refine .bind (Timing.measure_breaks _ _ _ _) fun timing => ?_
  refine .after (Measurement.measureSize_quiet artifact).idle fun size => ?_
  exact .after (log_quiet _ _ _).idle fun _ => .pure _

/-! ## Runs -/

namespace Run

variable {plan : Plan}

/-- A stage that is interrupted ends the run, because only failures of a stage are reported. -/
theorem stage_breaks (listening : plan.Listening) (name : Stage) {action : Action α}
    (breaks : action.Breaks Fault.EndsRun) : (stage plan name action).Breaks Fault.EndsRun := by
  refine Enacts.mono (stage_bounded listening name breaks) ?_
  rintro w ds r v ⟨u, inner, result, t, ended, -, concludes, rfl⟩ ⟨d, among, interrupts⟩
  have inside : d ∈ inner := by
    rcases List.mem_cons.mp among with rfl | among
    · cases interrupts
    · rcases List.mem_append.mp among with inside | atEnd
      · exact inside
      · obtain rfl := List.mem_singleton.mp atEnd
        cases interrupts
  obtain ⟨f, rfl, ends⟩ := ended ⟨d, inside, interrupts⟩
  rcases r with g | ⟨reported, _ | x⟩
  · exact ⟨g, rfl, concludes f rfl ends.isStage ▸ ends⟩
  · obtain ⟨s, seconds, same, -⟩ := concludes
    cases same
    cases ends.isStage
  · cases concludes.1

/-- Stage by stage: no stage reports an interruption, so it ends the run. -/
theorem fromInstall_breaks (listening : plan.Listening) (env : Environment) (report : Report)
    (prepared : Prepared) : (fromInstall plan env report prepared).Breaks Fault.EndsRun := by
  refine .bind (stage_breaks listening .install (installStage_breaks _ _).endsRun) fun (_, value) => ?_
  rcases value with _ | _
  · exact .pure _
  refine .bind (stage_breaks listening .build (buildStage_breaks _ _ _).endsRun) fun (_, value) => ?_
  rcases value with _ | product
  · exact .pure _
  refine .bind (stage_breaks listening .measure (measureStage_breaks _ _ _ _)) fun (_, value) => ?_
  rcases value with _ | m
  · exact .pure _
  · exact .after (saveCache_untouched plan prepared |>.weaken fun _ _ => Untouched.enacted) fun _ =>
      .after (log_quiet _ _ _).idle fun _ => .pure _

/-- A run that is interrupted while a process runs gives no report. -/
theorem run_breaks (listening : plan.Listening) : (run plan).Breaks Fault.EndsRun := by
  refine .after ((checkSettings_untouched _).weaken fun _ _ => Untouched.enacted) fun _ => ?_
  refine .after ((environment_untouched _).weaken fun _ _ => Untouched.enacted) fun env => ?_
  refine .bind (stage_breaks listening .prepare (prepare_breaks _ _).endsRun) fun (_, value) => ?_
  rcases value with _ | prepared
  · exact .pure _
  · exact fromInstall_breaks listening _ _ _

end Run

end BuildBench
