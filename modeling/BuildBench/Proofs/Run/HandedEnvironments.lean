import BuildBench.Proofs.Run.FailFast
import BuildBench.Proofs.Run.MeasurementGate
import BuildBench.Proofs.Run.SearchPath

/-!
# What processes are handed

Main statement: `Run.run_hands`. A run makes one environment before its first stage. Whatever is
installed or timed is handed exactly this one, the build is handed its own variables over it, and
version control inherits the variables of the program.

As in the laws about the order of deeds, each function of a stage hands on what the functions that
it calls do.
-/

namespace BuildBench

open BuildBench.Action

variable {α β : Type}

/-! ## Deeds of one sort -/

namespace Action

variable {sort : Deed → Prop} {F : Fault → Prop} {a : Action α} {next : α → Action β}

/-- A value that is given back is no deed. -/
theorem Does.pure (x : α) : (Pure.pure x : Action α).Does sort :=
  .of_idle (F := fun _ => True) (.pure x)

/-- A fault is no deed. -/
theorem Does.throw (f : Fault) : (MonadExcept.throw f : Action α).Does sort :=
  .of_idle (F := fun _ => True) (.throw trivial)

/-- What is idle adds no deed. -/
theorem Does.after (idle : Keeps Idle F a) (second : ∀ x, (next x).Does sort) :
    (a >>= next).Does sort :=
  .bind (.of_idle idle) second

/-- What cannot be computed starts nothing. -/
theorem Does.given {r : Except Fault α} (second : ∀ x, r = .ok x → (next x).Does sort) :
    (ofResult r >>= next).Does sort :=
  Tells.given (fun _ _ => by simp) second

/-- Deeds are those of the action, followed by those of the handler if it is needed. -/
theorem Does.tryCatch {handler : Fault → Action α} (done : a.Does sort)
    (handled : ∀ f, (handler f).Does sort) : (tryCatch a handler).Does sort := by
  intro w
  obtain ⟨ds, enacted, all⟩ := done w
  rcases ran : a w with ⟨f | x, u⟩ <;> rw [ran] at enacted <;> simp only [tryCatch_run, ran]
  · obtain ⟨more, after, others⟩ := handled f u
    exact ⟨ds ++ more, enacted.trans after, List.forall_mem_append.mpr ⟨all, others⟩⟩
  · exact ⟨ds, enacted, all⟩

/-- What is done in any case at the end is no deed. -/
theorem Does.thenAlways {last : Action Unit} (done : a.Does sort) (idle : Keeps Idle F last) :
    (thenAlways a last).Does sort := by
  have resumed : ∀ result : Except Fault α, (ofResult result).Does sort := fun result =>
    Does.of_idle (F := fun _ => True) (.ofResult fun _ _ => trivial)
  refine Enacts.bind (Q := fun _ _ ds _ _ => ∀ d ∈ ds, sort d) (Enacts.attempt done)
    (fun result => Does.after idle fun _ => resumed result) ?_ ?_
  · rintro w ds f v ⟨result, failed, -⟩
    simp at failed
  · rintro w ds result u more r v ⟨_, -, all⟩ others
    exact List.forall_mem_append.mpr ⟨all, others⟩

end Action

/-- A deed within a stage whose process, if it is one, was started by a command of some sort. -/
def Deed.Starts (sort : Program.Command → Prop) : Deed → Prop
  | .process c .. => sort c
  | .download .. => True
  | _ => False

/-- A deed within a stage whose process is handed this environment. -/
abbrev Deed.Gets (env : Environment) : Deed → Prop := Deed.Starts (·.env = some env)

/-- A command of version control, which inherits the variables of the program. -/
def Program.Command.Inherits (c : Program.Command) : Prop :=
  c.env = none ∧ ∃ args, c.argv = "git" :: args

/-! ## Preparation -/

namespace Checkout

/-- The command of a checkout names no environment. -/
theorem git_inherits (args : List Value) (folder : Option PathName) :
    (git args folder).Does (Deed.Starts Program.Command.Inherits) := by
  refine (git_starts args folder).does ?_
  rintro w c limit o files ⟨texts, -, rfl⟩
  exact ⟨rfl, texts, rfl⟩

/-- The probe is a command of that kind. -/
theorem headRevision_inherits (folder : PathName) :
    (headRevision folder).Does (Deed.Starts Program.Command.Inherits) := by
  refine (headRevision_tells folder).mono ?_
  rintro ds r ⟨o, files, rfl, -⟩
  simp [Deed.Starts, probe, command, Program.Command.Inherits]

/-- By induction on the steps, each of which is such a command. -/
theorem runSteps_inherits (repo : Value) (steps : List Step) :
    (runSteps repo steps).Does (Deed.Starts Program.Command.Inherits) := by
  induction steps with
  | nil => exact .pure _
  | cons step rest ih =>
    refine .bind (git_inherits _ _) fun p => ?_
    split
    · exact ih
    · exact .throw _

/-- Whichever script is chosen, it and the probe are of that kind. -/
theorem checkOut_inherits (repo : Value) (folder : PathName) (ref depth : Value) :
    (checkOut repo folder ref depth).Does (Deed.Starts Program.Command.Inherits) := by
  unfold checkOut
  split
  · refine .after (Disk.isFolder_quiet _).idle fun there => ?_
    split
    · exact headRevision_inherits folder
    · exact .throw _
  · refine .after (Disk.exists_quiet _).idle fun isCheckout => .given fun s _ => ?_
    refine .after (log_quiet _ _ _).idle fun _ => .given fun steps _ => ?_
    refine .bind (runSteps_inherits _ _) fun _ => .bind (headRevision_inherits _) fun revision => ?_
    exact .after (log_quiet _ _ _).idle fun _ => .pure _

end Checkout

/-- The checkout is all that starts processes in a preparation. -/
theorem prepare_inherits (s : Settings) (store : Option CacheStore) :
    (prepare s store).Does (Deed.Starts Program.Command.Inherits) := by
  refine .given fun source _ => .after (makeRoom_quiet _ _).idle fun _ => ?_
  refine .bind (Checkout.checkOut_inherits _ _ _ _) fun revision => ?_
  refine .after (workdirKey_quiet s).idle fun key => .after Disk.homes_asks.quiet.idle fun homes => ?_
  refine .given fun cache _ => .given fun paths _ => .after (log_quiet _ _ _).idle fun _ => ?_
  exact .after (restoreCache_quiet _ _ _).idle fun hit => .pure _

/-! ## Installation -/

namespace Installation

variable (install : InstallSettings) (env : Environment)

/-- The installer is started with the environment that it is given. -/
theorem runInstaller_gets (command : Value) (what : String) :
    (runInstaller command what install env).Does (Deed.Gets env) := by
  refine .bind (.tryCatch ((Command.run_starts _ _ _ _).does fun _ _ _ _ _ means => means.env)
    fun f => ?_) fun p => ?_
  · split <;> exact .throw _
  · split
    · exact .pure _
    · exact .throw _

/-- So is the bootstrap, which is run in the same way. -/
theorem bootstrap_gets : (bootstrap install env).Does (Deed.Gets env) := by
  unfold bootstrap
  dsimp only
  split
  · exact .throw _
  · refine .after (log_quiet _ _ _).idle fun _ => .bind (runInstaller_gets _ _ _ _) fun output => ?_
    refine .after (Disk.which_asks _ _).quiet.idle fun path => ?_
    split
    · exact .throw _
    · exact .pure _

/-- It starts nothing but the bootstrap. -/
theorem ensureInstaller_gets (checked : Bool) :
    (ensureInstaller install env checked).Does (Deed.Gets env) := by
  unfold ensureInstaller
  split
  · refine .after (Disk.which_asks _ _).quiet.idle fun path => ?_
    split
    · exact bootstrap_gets install env
    · exact .pure _
  · exact .pure _

/-- It starts nothing but the installer. -/
theorem installPackage_gets (package : Value) :
    (installPackage install env package).Does (Deed.Gets env) := by
  refine .after (log_quiet _ _ _).idle fun _ => .given fun command _ => ?_
  refine .bind (runInstaller_gets _ _ _ _) fun output => ?_
  refine .after (Disk.which_asks _ _).quiet.idle fun path => ?_
  split
  · exact .after (log_quiet _ _ _).idle fun _ => .pure _
  · exact .throw _

/-- By induction on the packages. -/
theorem installAll_gets (checked : Bool) (packages : List Value) :
    (installAll install env checked packages).Does (Deed.Gets env) := by
  induction packages generalizing checked with
  | nil => exact .pure _
  | cons package rest ih =>
    refine .after (Disk.which_asks _ _).quiet.idle fun path => ?_
    split
    · exact .after (log_quiet _ _ _).idle fun _ => .bind (ih checked) fun _ => .pure _
    · refine .bind (ensureInstaller_gets install env checked) fun _ => ?_
      refine .bind (installPackage_gets install env package) fun tool => ?_
      exact .bind (ih true) fun _ => .pure _

end Installation

/-! ## Building -/

/-- A command of the build gets the variables of the build over the environment of the run. -/
def Program.Command.GetsOver (c : Program.Command) (env : Environment)
    (sec : Section BuildSettings) : Prop :=
  ∃ settings, sec.given = .ok settings ∧ c.env = some (env.overlaid (.ofVariables settings.env))

/-- The build is the only process, and its environment has the variables of the build over it. -/
theorem Artifact.build_gets (sec : Section BuildSettings) (artifact workdir : PathName)
    (env : Environment) :
    (build sec artifact workdir env).Does (Deed.Starts fun c => c.GetsOver env sec) := by
  refine .after (removeStale_quiet _).idle fun _ => .given fun settings given => ?_
  refine .after (announce_onlyLogs _).quiet.idle fun _ => .after (F := fun _ => True) .get fun _ => ?_
  refine .bind ?_ fun output => .after (F := fun _ => True) .get fun _ =>
    .of_idle (finish_quiet _ _ _).idle
  refine .bind (.tryCatch ((Command.run_starts _ _ _ _).does fun _ _ _ _ _ means =>
    ⟨settings, given, means.env⟩) fun f => ?_) fun p => ?_
  · split <;> exact .throw _
  · split
    · exact .pure _
    · exact .throw _

/-! ## Measurement -/

namespace Timing

variable (command : Value) (folder : PathName) (env : Environment)

/-- A repetition is started with the environment that it is given. -/
theorem successful_gets (limit : Value) (isWarmup : Bool) (number : Nat) :
    (successful command folder env limit isWarmup number).Does (Deed.Gets env) := by
  refine .bind (.tryCatch ((repetition_starts _ _ _ _).does fun _ _ _ _ _ means => means.env)
    fun f => ?_) fun r => ?_
  · split <;> exact .throw _
  · exact .given fun _ _ => .after (log_quiet _ _ _).idle fun _ => .pure _

/-- By induction on how many are left. -/
theorem repetitions_gets (limit : Value) (left warmup done : Nat) :
    (repetitions command folder env limit left warmup done).Does (Deed.Gets env) := by
  induction left generalizing warmup done with
  | zero => exact .pure _
  | succ left ih =>
    refine .bind (successful_gets _ _ _ _ _ _) fun r => .bind (ih _ _) fun rest => .pure _

/-- The external program is started with the environment that it is given. -/
theorem timeWithReport_gets (report : PathName) (warmup runs : Value) :
    (timeWithReport report command folder env warmup runs).Does (Deed.Gets env) := by
  refine .given fun argv _ => .bind (.tryCatch
    ((Command.run_starts _ _ _ _).does fun _ _ _ _ _ means => means.env) fun f => ?_) fun p => ?_
  · split <;> exact .throw _
  · split
    · refine .after (logOutput_quiet _ _ _).idle fun _ => ?_
      exact .after (readReport_quiet _).idle fun _ => .pure _
    · exact .throw _

/-- By which timer is to be used. -/
theorem measure_gets (benchmark : BenchmarkSettings) :
    (measure benchmark command folder env).Does (Deed.Gets env) := by
  refine .after (log_quiet _ _ _).idle fun _ => ?_
  split
  · refine .bind ?_ fun _ => .pure _
    refine .given fun warmup _ => .given fun runs _ => ?_
    refine .bind (repetitions_gets _ _ _ _ _ _ _) fun measured => ?_
    exact .given fun summary _ => .given fun text _ => .pure _
  · split
    · exact .after makeReportFile_quiet.idle fun report =>
        .thenAlways (timeWithReport_gets _ _ _ _ _ _) (Disk.unlinkIfThere_quiet _).idle
    · exact .given fun _ _ => .throw _

end Timing

/-- The download starts no process, and the rest is a measurement. -/
theorem Measurement.take_gets (artifact : PathName) (fixture : FixtureSettings)
    (sec : Section BenchmarkSettings) (workdir : PathName) (env : Environment) :
    (take artifact fixture sec workdir env).Does (Deed.Gets env) := by
  refine .bind (Enacts.mono (Fixture.fetch_fetches _ _ _ _) ?_) fun file => .given fun benchmark _ => ?_
  · rintro w ds r v (- | - | -) <;> simp [Deed.Starts]
  refine .after (benchmarkCommand_asks _ _ _ _).quiet.idle fun command => ?_
  refine .bind (Timing.measure_gets _ _ _ _) fun timing => ?_
  refine .after (measureSize_quiet artifact).idle fun size => ?_
  exact .after (log_quiet _ _ _).idle fun _ => .pure _

namespace Run

/-! ## The environment of a run -/

/-- The environment of the processes of a run that is begun in a world. -/
def environmentIn (s : Settings) (w : World) : Except Fault Environment := do
  let env ← Environment.merge w.environment [s.env]
  env.withPrograms w.homes (← s.install.given)

/-- It reads the world and computes; the fault of each step is the fault of the whole. -/
theorem environment_run (s : Settings) (w : World) : environment s w = (environmentIn s w, w) := by
  simp only [environment, environmentIn, bind_run, get_run, ofResult_run, Disk.homes, pure_run]
  cases Environment.merge w.environment [s.env] with
  | error f => rfl
  | ok env =>
    dsimp only
    cases s.install.given <;> rfl

/-- The text that a run has for a variable: that of its settings, if they have one. -/
def variableText? (s : Settings) (vars : Variables) (name : String) : Option String :=
  (Environment.layerText? s.env name).or (vars.lookup name)

/-- An environment gives every variable the text that a run has for it. Only in the search path does
the folder of installed programs come first, unless it is in there already. -/
structure Provides (s : Settings) (w : World) (env : Environment) : Prop where
  others : ∀ name ≠ "PATH", member? name env = (variableText? s w.environment name).map .text
  path : ∃ install folder, s.install.given = .ok install ∧
    Environment.programFolder w.homes install = .ok folder ∧
    ∀ path, variableText? s w.environment "PATH" = path →
      member? "PATH" env = .map .text (if folder.display ∈ Environment.foldersOf path then path
        else some (":".intercalate (folder.display :: Environment.foldersOf path)))

/-- An environment that could be made went through both steps, each of which could be computed. -/
theorem environmentIn_provides {s : Settings} {w : World} {env : Environment}
    (made : environmentIn s w = .ok env) : Provides s w env := by
  unfold environmentIn at made
  rcases merged : Environment.merge w.environment [s.env] with f | base <;> rw [merged] at made
  · cases made
  rcases given : s.install.given with f | install <;> rw [given] at made
  · cases made
  have texts : ∀ name, member? name base = (variableText? s w.environment name).map .text :=
    Environment.merge_ok merged
  have textPath : base.HasTextPath := by
    intro v found
    obtain ⟨t, -, rfl⟩ := Option.map_eq_some_iff.mp ((texts "PATH").symm.trans found)
    exact ⟨t, rfl⟩
  obtain ⟨folder, named, done⟩ := Environment.withPrograms_ok made
  rw [Environment.withFolder_eq textPath, Environment.folders_eq (texts "PATH")] at done
  obtain rfl := Except.ok.inj done
  refine ⟨fun name other => ?_, install, folder, given, named, ?_⟩
  · rw [← texts]
    split
    · rfl
    · exact member?_insertEntry.trans (if_neg other)
  · rintro path rfl
    split
    · exact texts "PATH"
    · exact member?_insertEntry.trans (if_pos rfl)

/-! ## Processes and their stages -/

/-- The commands of a history, each with the stage that was under way when it was started. -/
def commandsIn (now : Option String) : List Deed → List (Option String × Program.Command)
  | [] => []
  | .begins stage _ :: rest => commandsIn (some stage) rest
  | .ends .. :: rest => commandsIn none rest
  | .process c .. :: rest => (now, c) :: commandsIn now rest
  | .download .. :: rest => commandsIn now rest

/-- What the processes of a stage are handed. -/
def Hands (s : Settings) (env : Environment) : Stage → Program.Command → Prop
  | .prepare, c => c.Inherits
  | .install, c | .measure, c => c.env = some env
  | .build, c => c.GetsOver env s.build

/-- Every process of a history belongs to a stage and is handed what the stage hands on. -/
def HandsOn (s : Settings) (env : Environment) (ds : List Deed) : Prop :=
  ∀ started ∈ commandsIn none ds, ∃ stage : Stage, started.1 = some stage.name ∧
    Hands s env stage started.2

/-- By induction on the deeds: none of them is a bound, so the stage stays the one it was. -/
theorem commandsIn_within {sort : Program.Command → Prop} {inner : List Deed} (now : Option String)
    (within : ∀ d ∈ inner, Deed.Starts sort d) (more : List Deed) :
    commandsIn now (inner ++ more) =
      commandsIn now inner ++ commandsIn now more ∧ ∀ started ∈ commandsIn now inner,
        started.1 = now ∧ sort started.2 := by
  induction inner with
  | nil => simp [commandsIn]
  | cons d rest ih =>
    obtain ⟨here, later⟩ := List.forall_mem_cons.mp within
    obtain ⟨joined, all⟩ := ih later
    cases d with
    | process c limit o files =>
      refine ⟨congrArg ((now, c) :: ·) joined, List.forall_mem_cons.mpr ⟨⟨rfl, here⟩, all⟩⟩
    | download => exact ⟨joined, all⟩
    | begins => exact here.elim
    | ends => exact here.elim

/-- After a stage the history goes on outside of all stages. -/
theorem HandsOn.bounded {s : Settings} {env : Environment} {name : Stage} {first last : Files}
    {inner more : List Deed} (within : ∀ d ∈ inner, Deed.Starts (Hands s env name) d)
    (later : HandsOn s env more) :
    HandsOn s env ((.begins name.name first :: inner ++ [.ends name.name last]) ++ more) := by
  intro started among
  obtain ⟨joined, all⟩ := commandsIn_within (some name.name) within
    (.ends name.name last :: more)
  have whole : commandsIn none ((.begins name.name first :: inner ++ [.ends name.name last]) ++ more)
      = commandsIn (some name.name) inner ++ commandsIn none more := by
    rw [List.append_assoc, List.cons_append, List.singleton_append]
    exact joined
  rw [whole] at among
  rcases List.mem_append.mp among with here | there
  · exact ⟨name, (all started here).1, (all started here).2⟩
  · exact later started there

/-- A stage hands on what it has to, and so does what comes after it. -/
theorem stage_handsOn {s : Settings} {env : Environment} {plan : Plan} {action : Action α}
    {next : StageResult × Option α → Action Report} (listening : plan.Listening) (name : Stage)
    (hands : action.Does (Deed.Starts (Hands s env name)))
    (second : ∀ told, (next told).Tells fun ds _ => HandsOn s env ds) :
    (stage plan name action >>= next).Tells fun ds _ => HandsOn s env ds := by
  refine Enacts.chain (stage_bounded listening name hands) ?_ ?_
  · rintro w ds f v ⟨u, inner, result, last, within, -, -, rfl⟩
    exact List.append_nil (_ :: inner ++ _) ▸ HandsOn.bounded within (by simp [HandsOn, commandsIn])
  · rintro w ds told u ⟨first, inner, result, last, within, -, -, rfl⟩
    obtain ⟨more, enacted, later⟩ := second told u
    exact ⟨more, enacted, HandsOn.bounded within later⟩

/-- No process, nothing handed. -/
theorem handsOn_nil {s : Settings} {env : Environment} : HandsOn s env [] := by
  simp [HandsOn, commandsIn]

/-- A report that is given back starts nothing. -/
theorem pure_handsOn {s : Settings} {env : Environment} (report : Report) :
    (pure report : Action Report).Tells fun ds _ => HandsOn s env ds :=
  fun w => ⟨[], Law.refl (R := Idle) w, handsOn_nil⟩

/-- Stage by stage: the processes of each of them get what is meant for that stage. -/
theorem fromInstall_handsOn {plan : Plan} (listening : plan.Listening) (env : Environment)
    (report : Report) (prepared : Prepared) :
    (fromInstall plan env report prepared).Tells fun ds _ => HandsOn plan.settings env ds := by
  have idle : ∀ {a : Action Unit}, Keeps Untouched (fun _ => True) a →
      Keeps Idle (fun _ => True) a := fun kept => kept.weaken fun _ _ => Untouched.enacted
  have install : (installStage plan env).Does (Deed.Gets env) := by
    refine Does.after (skipsInstall_asks plan).quiet.idle fun skipped => ?_
    split
    · exact Does.of_idle (log_quiet _ _ _).idle
    · exact .given fun install _ => .bind (Installation.installAll_gets _ _ _ _) fun _ => .pure _
  refine stage_handsOn listening .install install ?_
  rintro ⟨installed, _ | value⟩
  · exact pure_handsOn _
  refine stage_handsOn listening .build (Does.after Disk.homes_asks.quiet.idle fun homes =>
    .given fun artifact _ => Artifact.build_gets _ _ _ _) ?_
  rintro ⟨built, _ | product⟩
  · exact pure_handsOn _
  refine stage_handsOn listening .measure
    (Does.given fun fixture _ => Measurement.take_gets _ _ _ _ _) ?_
  rintro ⟨measured, _ | m⟩
  · exact pure_handsOn _
  refine Tells.after (idle (saveCache_untouched plan prepared)) (fun _ _ => handsOn_nil) fun _ => ?_
  exact Tells.after (idle (record_untouched _)) (fun _ _ => handsOn_nil) fun _ => pure_handsOn _

/-- It depends on the variables and the accounts of the machine only. -/
theorem environmentIn_eq {s : Settings} {w u : World} (host : SameHost w u) :
    environmentIn s u = environmentIn s w := by
  rw [environmentIn, environmentIn, homes_eq host, host.environment]

/-- A run hands on what it provided in the beginning. Without an environment it starts nothing. -/
theorem run_handsOn {plan : Plan} (listening : plan.Listening) :
    (run plan).Enacts fun w ds _ _ =>
      (∀ f, environmentIn plan.settings w = .error f → commandsIn none ds = []) ∧
      ∀ env, environmentIn plan.settings w = .ok env → HandsOn plan.settings env ds := by
  refine Enacts.after (checkSettings_untouched _) (fun _ _ untouched => untouched.enacted)
    (fun _ _ _ => ⟨fun _ _ => rfl, fun _ _ => handsOn_nil⟩) (fun _ => ?_) ?_
  · intro w
    rw [bind_run, environment_run]
    rcases made : environmentIn plan.settings w with f | env <;> dsimp only
    · exact ⟨[], Law.refl (R := Idle) w, fun _ _ => rfl, fun _ => nofun⟩
    · have provided {a : Action Report} (handed : a.Tells fun ds _ => HandsOn plan.settings env ds) :
          ∃ ds, Enacted w ds (a w).2 ∧
            (∀ f, environmentIn plan.settings w = .error f → commandsIn none ds = []) ∧
            ∀ env, environmentIn plan.settings w = .ok env → HandsOn plan.settings env ds := by
        obtain ⟨ds, enacted, hands⟩ := handed w
        refine ⟨ds, enacted, fun f failed => ?_, fun other same => ?_⟩
        · cases made.symm.trans failed
        · cases made.symm.trans same
          exact hands
      refine provided (stage_handsOn listening .prepare (prepare_inherits _ _) ?_)
      rintro ⟨result, _ | prepared⟩
      · exact pure_handsOn _
      · exact fromInstall_handsOn listening env _ prepared
  · rintro w u ds r v untouched hands
    rwa [environmentIn_eq untouched.toSameHost] at hands

/-- A run provides one environment and hands it on to its processes: unchanged to whatever is
installed or timed, with the variables of the build over it to the build, and not at all to version
control. Putting a folder that is one entry of a search path in front of any search path keeps all
entries and all other variables, adds no entry without a name, and has nothing to do the second
time. -/
theorem run_hands (plan : Plan) (w : World) (listening : plan.Listening) :
    (∀ f, environmentIn plan.settings w = .error f →
      commandsIn none (w.deedsUntil (run plan w).2) = []) ∧
    (∀ env, environmentIn plan.settings w = .ok env →
      Provides plan.settings w env ∧ HandsOn plan.settings env (w.deedsUntil (run plan w).2)) ∧
    ∀ (homes : Homes) (install : InstallSettings) (folder : PathName) (env : Environment),
      Environment.programFolder homes install = .ok folder → ':' ∉ folder.display.toList →
      env.HasTextPath → ∃ env', env.withPrograms homes install = .ok env' ∧
        env'.withPrograms homes install = .ok env' ∧
        (env'.folders = if folder.display ∈ env.folders then env.folders
          else folder.display :: env.folders) ∧
        env'.filter (!·.1.isText "PATH") = env.filter (!·.1.isText "PATH") ∧
        ("" ∈ env'.folders → "" ∈ env.folders) := by
  obtain ⟨ds, enacted, failed, hands⟩ := run_handsOn listening w
  rw [enacted.deedsUntil_eq]
  refine ⟨failed, fun env made => ⟨environmentIn_provides made, hands env made⟩, ?_⟩
  intro homes install folder env named whole text
  have given := Environment.display_ne_empty folder
  obtain ⟨env', done, first⟩ := Environment.withFolder_first given whole text
  refine ⟨env', ?_, ?_, first.folders, first.others, first.named given⟩
  · exact (Environment.withPrograms_eq named env).trans done
  · exact (Environment.withPrograms_eq named env').trans first.again

/-- The sample run prepares, builds its tool and times it, and a folder that stands in front of the
search path already is not put there again. -/
theorem run_hands_builtTool :
    samplePlan.Listening ∧ (∃ env, environmentIn samplePlan.settings builtTool = .ok env ∧
      HandsOn samplePlan.settings env (builtTool.deedsUntil (run samplePlan builtTool).2)) ∧
    (commandsIn none (builtTool.deedsUntil (run samplePlan builtTool).2)).map (·.1) =
      [some "prepare", some "build", some "measure"] ∧
    ∃ env', Environment.withPrograms ⟨"/h", []⟩ {} [] = .ok env' ∧
      Environment.withPrograms ⟨"/h", []⟩ {} env' = .ok env' ∧ env'.folders = ["/h/.cargo/bin"] := by
  obtain ⟨-, provided, folder⟩ := run_hands samplePlan builtTool samplePlan_listening
  refine ⟨samplePlan_listening, ?_, by decide +kernel, ?_⟩
  · rcases made : environmentIn samplePlan.settings builtTool with f | env
    · have none : (environmentIn samplePlan.settings builtTool).isOk = true := by decide +kernel
      rw [made] at none
      cases none
    · exact ⟨env, rfl, (provided env made).2⟩
  · obtain ⟨env', done, again, folders, -⟩ := folder ⟨"/h", []⟩ {} ⟨.root, ["h", ".cargo", "bin"]⟩ []
      rfl (by decide +kernel) (by simp [Environment.HasTextPath, member?])
    exact ⟨env', done, again, folders.trans (by decide +kernel)⟩

/-- A tilde may stand for a folder with an end of an entry in its name. Then the folder of installed
programs counts as two entries, and is put in front once more each time. -/
theorem withPrograms_repeats :
    ∃ env env', Environment.withPrograms ⟨"/a:b", []⟩ { binDir := .text "~/bin" }
        [(.text "PATH", .text "/x")] = .ok env ∧
      Environment.withPrograms ⟨"/a:b", []⟩ { binDir := .text "~/bin" } env = .ok env' ∧
      ':' ∉ "~/bin".toList ∧ env' ≠ env ∧ env.folders = ["/a", "b/bin", "/x"] ∧
      env'.folders = ["/a", "b/bin", "/a", "b/bin", "/x"] := by
  have first : Environment.withPrograms ⟨"/a:b", []⟩ { binDir := .text "~/bin" }
      [(.text "PATH", .text "/x")] = .ok [(.text "PATH", .text "/a:b/bin:/x")] := by
    rfl
  have second : Environment.withPrograms ⟨"/a:b", []⟩ { binDir := .text "~/bin" }
      [(.text "PATH", .text "/a:b/bin:/x")] =
        .ok [(.text "PATH", .text "/a:b/bin:/a:b/bin:/x")] := by
    rfl
  exact ⟨_, _, first, second, by decide, by simp, by decide +kernel, by decide +kernel⟩

end Run

end BuildBench
