import BuildBench.Proofs.Run.FailFast

/-!
# What a run does because its parts do

Most functions of a run write records, ask questions and run processes, and do nothing else. A law
that records and processes obey is obeyed by all of these functions, however they end. What is left
over are the few functions that change files themselves.
-/

namespace BuildBench

open BuildBench.Action

variable {α β : Type} {R : World → World → Prop}

/-- An action obeys a law, however it ends. -/
abbrev Action.Obeys (R : World → World → Prop) (a : Action α) : Prop := Keeps R (fun _ => True) a

/-- A law that records and processes obey. -/
structure Conduct (R : World → World → Prop) : Prop where
  records : ∀ r, (record r).Obeys R
  processes : ∀ c, (Program.run c).Obeys R
  repetitions : ∀ command folder env limit,
    (Timing.repetition command folder env limit).Obeys R

/-- A line of the log is a record, and records obey. -/
theorem Conduct.log (conduct : Conduct R) (level : Level) (part text : String) :
    (log level part text).Obeys R :=
  conduct.records _

variable [Law R]

/-- A question leaves the same world, which obeys every law. -/
theorem Asks.obeys {a : Action α} (asks : Asks a) : a.Obeys R := asks.keeps.mono fun _ _ => trivial

/-- A computed result leaves the world alone. -/
theorem Action.Keeps.given (r : Except Fault α) : (Action.ofResult r).Obeys R :=
  .ofResult fun _ _ => trivial

/-- What goes on with a result only has to be looked at for the value that there is. -/
theorem Action.Keeps.of_given {r : Except Fault α} {next : α → Action β}
    (kept : ∀ x, r = .ok x → (next x).Obeys R) : (Action.ofResult r >>= next).Obeys R := by
  cases r with
  | error f => exact fun w => ⟨Law.refl w, fun _ _ => trivial⟩
  | ok x => exact kept x rfl

/-- What is done in the end is done however an action ended. -/
theorem Action.Keeps.thenAlways {a : Action α} {last : Action Unit} (first : a.Obeys R)
    (after : last.Obeys R) : (thenAlways a last).Obeys R :=
  .bind (.attempt first) fun _ => .bind after fun _ => .given _

/-- The report of an external program is only read, and what is wrong with it is recorded. -/
theorem Timing.readReport_obeys (logs : ∀ level part text, (log level part text).Obeys R)
    (report : PathName) : (readReport report).Obeys R := by
  refine .tryCatch (.bind (Disk.readText_asks _).obeys fun _ => .bind (.given _) fun _ =>
    .bind (.given _) fun _ => .pure _) fun f _ => ?_
  split
  · exact .bind (logs _ _ _) fun _ => .pure _
  · exact .throw trivial

namespace Conduct

variable (conduct : Conduct R)

include conduct

/-- Line by line, each one is a record. -/
theorem logOutput (level : Level) (part output : String) : (logOutput level part output).Obeys R :=
  .forM fun _ => conduct.log _ _ _

/-- The words are computed, one record is written, and one process is run. -/
theorem command (command : Value) (folder : Option PathName) (env : Option Environment)
    (timeout : Value) : (Command.run command folder env timeout).Obeys R :=
  .bind (.given _) fun _ => .bind (conduct.log _ _ _) fun _ => conduct.processes _

/-! ## Preparation -/

/-- As for any command; the handler only gives the fault another name. -/
theorem git (args : List Value) (folder : Option PathName) :
    (Checkout.git args folder).Obeys R := by
  refine .bind (.given _) fun _ => .bind (conduct.log _ _ _) fun _ =>
    .tryCatch (conduct.processes _) fun f _ => ?_
  split <;> exact .throw trivial

/-- One process, or one process and a record of why it gave no revision. -/
theorem headRevision (folder : PathName) : (Checkout.headRevision folder).Obeys R := by
  refine .tryCatch (.bind (conduct.git _ _) fun _ => .pure _) fun f _ => ?_
  split
  · exact .bind (conduct.log _ _ _) fun _ => .pure _
  · exact .throw trivial

/-- By induction on the steps: each of them is one process, and a refusal is thrown. -/
theorem runSteps (repo : Value) (steps : List Checkout.Step) :
    (Checkout.runSteps repo steps).Obeys R := by
  induction steps with
  | nil => exact .pure _
  | cons step rest ih =>
    refine .bind (conduct.git _ _) fun p => ?_
    split
    · exact ih
    · exact .throw trivial

/-- It asks, runs the steps of a script, asks for the revision and writes records. -/
theorem checkOut (repo : Value) (folder : PathName) (ref depth : Value) :
    (Checkout.checkOut repo folder ref depth).Obeys R := by
  unfold Checkout.checkOut
  split
  · refine .bind (Disk.ask_asks _ _).obeys fun there => ?_
    split
    · exact conduct.headRevision _
    · exact .throw trivial
  · exact .bind (Disk.ask_asks _ _).obeys fun _ => .bind (.given _) fun _ =>
      .bind (conduct.log _ _ _) fun _ => .bind (.given _) fun _ =>
      .bind (conduct.runSteps _ _) fun _ => .bind (conduct.headRevision _) fun _ =>
      .bind (conduct.log _ _ _) fun _ => .pure _

/-! ## Installation -/

/-- One process, whose fault is renamed or whose exit code is refused. -/
theorem runInstaller (command : Value) (what : String) (install : InstallSettings)
    (env : Environment) : (Installation.runInstaller command what install env).Obeys R := by
  refine .bind (.tryCatch (conduct.command _ _ _ _) fun f _ => ?_) fun p => ?_
  · split <;> exact .throw trivial
  · split
    · exact .pure _
    · exact .throw trivial

/-- The installer is asked for; if it is missing the bootstrap is one process more, and it is asked
for again. -/
theorem ensureInstaller (install : InstallSettings) (env : Environment) (checked : Bool) :
    (Installation.ensureInstaller install env checked).Obeys R := by
  have bootstrapped : (Installation.bootstrap install env).Obeys R := by
    unfold Installation.bootstrap
    dsimp only
    split
    · exact .throw trivial
    · refine .bind (conduct.log _ _ _) fun _ => .bind (conduct.runInstaller _ _ _ _) fun _ =>
        .bind (Disk.which_asks _ _).obeys fun path => ?_
      split
      · exact .throw trivial
      · exact .pure _
  unfold Installation.ensureInstaller
  split
  · refine .bind (Disk.which_asks _ _).obeys fun path => ?_
    split
    · exact bootstrapped
    · exact .pure _
  · exact .pure _

/-- A record, a process, and a question whether the package is there now. -/
theorem installPackage (install : InstallSettings) (env : Environment) (package : Value) :
    (Installation.installPackage install env package).Obeys R := by
  refine .bind (conduct.log _ _ _) fun _ => .bind (.given _) fun _ =>
    .bind (conduct.runInstaller _ _ _ _) fun _ => .bind (Disk.which_asks _ _).obeys fun path => ?_
  split
  · exact .bind (conduct.log _ _ _) fun _ => .pure _
  · exact .throw trivial

/-- By induction on the packages: each is asked for and installed if it is missing. -/
theorem installAll (install : InstallSettings) (env : Environment) (checked : Bool)
    (packages : List Value) : (Installation.installAll install env checked packages).Obeys R := by
  induction packages generalizing checked with
  | nil => exact .pure _
  | cons package rest ih =>
    refine .bind (Disk.which_asks _ _).obeys fun path => ?_
    split
    · exact .bind (conduct.log _ _ _) fun _ => .bind (ih _) fun _ => .pure _
    · exact .bind (conduct.ensureInstaller _ _ _) fun _ =>
        .bind (conduct.installPackage _ _ _) fun _ => .bind (ih _) fun _ => .pure _

/-- Either a record, or the installation of all packages. -/
theorem installStage (plan : Run.Plan) (env : Environment) :
    (Run.installStage plan env).Obeys R := by
  refine .bind (skipsInstall_asks plan).obeys fun skipped => ?_
  split
  · exact conduct.log _ _ _
  · exact .bind (.given _) fun _ => .bind (conduct.installAll _ _ _ _) fun _ => .pure _

/-! ## Building -/

/-- Two questions about the artifact come first, then records. -/
theorem finish (artifact : PathName) (seconds : Float) (output : String) :
    (Artifact.finish artifact seconds output).Obeys R := by
  have checked : (Artifact.checkArtifact artifact output).Obeys R := by
    refine .bind (Disk.ask_asks _ _).obeys fun there => ?_
    split
    · refine .bind (Disk.isExecutable_asks _).obeys fun executable => ?_
      split
      · exact .throw trivial
      · exact .pure _
    · exact .throw trivial
  exact .bind checked fun _ => .bind (conduct.logOutput _ _ _) fun _ =>
    .bind (conduct.log _ _ _) fun _ => .pure _

/-- Records, one process and what comes after it. The clock is only read. -/
theorem buildCleared (settings : BuildSettings) (artifact workdir : PathName)
    (env : Environment) : (Artifact.buildCleared settings artifact workdir env).Obeys R := by
  have announced : (Artifact.announce settings).Obeys R :=
    .bind (.forM fun _ => conduct.log _ _ _) fun _ => conduct.log _ _ _
  have built : ∀ env, (Artifact.runBuild settings workdir env).Obeys R := by
    intro env
    refine .bind (.tryCatch (conduct.command _ _ _ _) fun f _ => ?_) fun p => ?_
    · split <;> exact .throw trivial
    · split
      · exact .pure _
      · exact .throw trivial
  exact .bind announced fun _ => .bind .get fun _ => .bind (built _) fun _ =>
    .bind .get fun _ => conduct.finish _ _ _

/-! ## Measurement -/

/-- By induction on how many are left: each is one repetition of the command. -/
theorem repetitionsOf (command : Value) (folder : PathName) (env : Environment) (limit : Value)
    (left warmup done : Nat) :
    (Timing.repetitions command folder env limit left warmup done).Obeys R := by
  have successful : ∀ isWarmup number,
      (Timing.successful command folder env limit isWarmup number).Obeys R := by
    intro isWarmup number
    refine .bind (.tryCatch (conduct.repetitions _ _ _ _) fun f _ => ?_) fun r =>
      .bind (.given _) fun _ => .bind (conduct.log _ _ _) fun _ => .pure _
    split <;> exact .throw trivial
  induction left generalizing warmup done with
  | zero => exact .pure _
  | succ left ih => exact .bind (successful _ _) fun _ => .bind (ih _ _) fun _ => .pure _

/-- All but the repetitions is computed. -/
theorem measureRepeatedly (command : Value) (folder : PathName) (env : Environment)
    (warmup runs limit : Value) :
    (Timing.measureRepeatedly command folder env warmup runs limit).Obeys R :=
  .bind (.given _) fun _ => .bind (.given _) fun _ => .bind (conduct.repetitionsOf _ _ _ _ _ _ _)
    fun _ => .bind (.given _) fun _ => .bind (.given _) fun _ => .pure _

/-- One process, and then a report that is read. -/
theorem timeWithReport (report : PathName) (command : Value) (folder : PathName)
    (env : Environment) (warmup runs : Value) :
    (Timing.timeWithReport report command folder env warmup runs).Obeys R := by
  refine .bind (.given _) fun _ => .bind (.tryCatch (conduct.command _ _ _ _) fun f _ => ?_)
    fun p => ?_
  · split <;> exact .throw trivial
  · split
    · exact .bind (conduct.logOutput _ _ _) fun _ =>
        .bind (Timing.readReport_obeys conduct.log report) fun _ => .pure _
    · exact .throw trivial

/-- The parts of a measurement that change files by themselves are the download and the report of
the external program. -/
theorem takeOn (external : ∀ command folder env warmup runs,
      (Timing.measureExternally command folder env warmup runs).Obeys R)
    (file artifact : PathName) (sec : Section BenchmarkSettings) (workdir : PathName)
    (env : Environment) : (Measurement.takeOn file artifact sec workdir env).Obeys R := by
  have measured : ∀ benchmark command,
      (Timing.measure benchmark command workdir env).Obeys R := by
    intro benchmark command
    refine .bind (conduct.log _ _ _) fun _ => ?_
    split
    · exact .bind (conduct.measureRepeatedly _ _ _ _ _ _) fun _ => .pure _
    · split
      · exact external _ _ _ _ _
      · exact .bind (.given _) fun _ => .throw trivial
  have sized : (Measurement.measureSize artifact).Obeys R := by
    refine .tryCatch (Disk.size_asks _).obeys fun f _ => ?_
    split <;> exact .throw trivial
  exact .bind (.given _) fun _ => .bind (Measurement.benchmarkCommand_asks _ _ _ _).obeys fun _ =>
    .bind (measured _ _) fun _ => .bind sized fun _ => .bind (conduct.log _ _ _) fun _ => .pure _

end Conduct

end BuildBench
