import BuildBench.Proofs.Run.FailFast

/-!
# What a measurement relies on

When the first benchmark process is started, the build command was started once, with nothing at the
artifact's place, and left a program there. The fixture was downloaded once, with the digest that is
wanted, and its file holds what was received. Only a log file is in both worlds: a fixture that is
stored over an open log file goes on growing with the records.

Between the download and the first benchmark process nothing is done but to write records and to
make one new file; `Starting` is the law of actions that keep to this until their first process.
-/

namespace BuildBench

open BuildBench.Action

variable {α β : Type}

/-! ## Building -/

namespace Artifact

/-- After the stale artifact was taken away nothing is at its place. -/
theorem removeStale_vacant {artifact : PathName} {w v : World} {x : Unit}
    (named : Disk.isName artifact) (removed : removeStale artifact w = (.ok x, v)) :
    v.files.IsVacant artifact := by
  obtain ⟨taken, u, asked, removed⟩ := ok_of_bind_ok removed
  obtain rfl : w = u := by simpa [asked] using (isTaken_asks artifact w).1
  cases taken with
  | true =>
    obtain ⟨_, t, -, removed⟩ := ok_of_bind_ok removed
    have unlinked := ok_of_tryCatch_ok removed fun f s y r => by split <;> exact throw_not_ok
    obtain ⟨files, done, rfl⟩ := Disk.change_ok unlinked
    exact Files.vacant_of_unlink done
  | false =>
    obtain ⟨-, rfl⟩ := Prod.mk.inj removed
    obtain ⟨there, t, found, asked⟩ := ok_of_bind_ok asked
    obtain ⟨rfl, absent, -⟩ := Disk.ask_ok found
    cases there with
    | true => cases asked
    | false => exact Files.vacant_of_not_found (absent named) ((Disk.ask_ok asked).2.1 named)

/-- What passes the check is a program. -/
theorem checkArtifact_ok {artifact : PathName} {output : String} {w v : World} {x : Unit}
    (checked : checkArtifact artifact output w = (.ok x, v)) :
    v = w ∧ Disk.isName artifact ∧
      ∃ content, w.files.lookUp artifact = .ok (.file content true) := by
  obtain ⟨there, u, asked, checked⟩ := ok_of_bind_ok checked
  obtain ⟨rfl, found, named⟩ := Disk.ask_ok asked
  cases there with
  | false => exact absurd checked throw_not_ok
  | true =>
    have isFile := found (named rfl)
    have asked : Disk.isExecutable artifact u = (.ok (u.files.isExecutable artifact), u) := by
      simp [Disk.isExecutable, bind_run, get_run, pure_run, named rfl]
    rw [if_pos rfl, bind_run, asked] at checked
    by_cases executable : u.files.isExecutable artifact
    · rw [executable] at checked
      obtain ⟨-, rfl⟩ := Prod.mk.inj checked
      refine ⟨rfl, named rfl, ?_⟩
      unfold Files.isFile Files.check at isFile
      unfold Files.isExecutable at executable
      rcases held : u.files.lookUp artifact with e | ⟨content, x⟩ | target | f <;>
        rw [held] at isFile executable
      · dsimp only at isFile
        split at isFile <;> simp at isFile
      · exact ⟨content, by rw [← show x = true from executable]⟩
      · simp [Entry.isFile] at isFile
      · simp [Entry.isFile] at isFile
    · simp only [Bool.not_eq_true] at executable
      rw [executable] at checked
      exact absurd checked throw_not_ok

/-- A process is that of a build command: it succeeded, and nothing was at the artifact's place when
it was started. -/
structure IsBuild (settings : BuildSettings) (artifact workdir : PathName) (c : Program.Command)
    (limit : Value) (o : Outcome) (atStart : Files) : Prop where
  argv : Command.words settings.command = .ok c.argv
  folder : c.folder = some workdir.display
  env : c.env.isSome
  success : o.exit? limit = some 0
  vacant : atStart.IsVacant artifact

/-- One process is started, and its output is given only if the exit code is zero. -/
theorem runBuild_starts (settings : BuildSettings) (workdir : PathName) (env : Environment) :
    (runBuild settings workdir env).Enacts fun w ds r _ => ∀ output, r = .ok output →
      ∃ c limit o files, ds = [.process c limit o files] ∧ o.exit? limit = some 0 ∧
        Command.Means settings.command (some workdir.display) (some env) w c files := by
  have started {handler : Fault → Action Program.Completed} (renames : ∀ f, f.isStage = false →
      ∃ g, handler f = throw g ∧ g.IsInternal (· = .build)) :=
    Starts.renamed (Command.run_starts settings.command (some workdir) (some env)
      settings.timeout) renames
  refine Enacts.chain (started fun f other => ?_) (fun _ _ _ _ _ => by simp)
    fun w ds p u ended => ?_
  · split
    · exact ⟨_, rfl, failure_isInternal _ _⟩
    · exact ⟨_, rfl, failure_isInternal _ _⟩
    · exact ⟨_, rfl, Fault.isInternal_of_other other⟩
  cases ended with | @ended c limit o files _ means told => ?_
  refine ⟨[], ?_⟩
  by_cases success : p.exitCode = 0
  · rw [if_pos success]
    refine ⟨Law.refl (R := Idle) u, fun output _ => ⟨c, limit, o, files, rfl, ?_, means⟩⟩
    rw [← told, success]
  · rw [if_neg success]
    exact ⟨Law.refl (R := Idle) u, fun output failed => by simp [throw_run] at failed⟩

/-- What was built is a program, also after records were written. -/
theorem finish_ok {artifact : PathName} {seconds : Float} {output : String} {w v : World}
    {product : Built} (finished : finish artifact seconds output w = (.ok product, v)) :
    product.artifact = artifact ∧ Disk.isName artifact ∧
      ∃ content, v.files.lookUp artifact = .ok (.file content true) := by
  obtain ⟨_, u, checked, later⟩ := ok_of_bind_ok finished
  obtain ⟨rfl, named, content, found⟩ := checkArtifact_ok checked
  obtain ⟨_, s, shown, later⟩ := ok_of_bind_ok later
  obtain ⟨_, t, told, later⟩ := ok_of_bind_ok later
  obtain ⟨same, rfl⟩ := Prod.mk.inj later
  have first := (logOutput_onlyLogs .debug "build" output u).1
  have second := (log_onlyLogs .info "build" ("Built " ++ artifact.display ++ " in " ++
    Decimal.fixed 1 seconds ++ "s") s).1
  rw [shown] at first
  rw [told] at second
  have logged : Logged u t := Law.trans first second
  obtain ⟨added, -, after, -⟩ := logged.lookUp_file found
  exact ⟨by rw [← Except.ok.inj same], named, _, after⟩

/-- What a build at a place that was cleared comes to. -/
structure Finishes (settings : BuildSettings) (artifact workdir : PathName) (w : World)
    (ds : List Deed) (product : Built) (v : World) : Prop where
  placed : product.artifact = artifact
  named : Disk.isName artifact
  started : ∃ env c limit o atStart, ds = [.process c limit o atStart] ∧
    Command.Means settings.command (some workdir.display) (some env) w c atStart ∧
    o.exit? limit = some 0
  found : ∃ content, v.files.lookUp artifact = .ok (.file content true)

/-- Records change nothing that a build starts from. -/
theorem Finishes.after {settings : BuildSettings} {artifact workdir : PathName} {w u v : World}
    {ds : List Deed} {product : Built} (finishes : Finishes settings artifact workdir u ds product v)
    (logged : Logged w u) : Finishes settings artifact workdir w ds product v := by
  obtain ⟨env, c, limit, o, atStart, same, means, success⟩ := finishes.started
  exact ⟨finishes.placed, finishes.named,
    ⟨env, c, limit, o, atStart, same, means.after logged, success⟩, finishes.found⟩

/-- Records come before the process. After it the artifact is looked at, and nothing more is done to
it. -/
theorem buildCleared_finishes (settings : BuildSettings) (artifact workdir : PathName)
    (env : Environment) :
    (buildCleared settings artifact workdir env).Enacts fun w ds r v => ∀ x, r = .ok x →
      Finishes settings artifact workdir w ds x v := by
  have moves : ∀ (w u : World) (ds : List Deed) (r : Except Fault Built) (v : World), Logged w u →
      (∀ x, r = .ok x → Finishes settings artifact workdir u ds x v) →
      ∀ x, r = .ok x → Finishes settings artifact workdir w ds x v :=
    fun _ _ _ _ _ logged finishes x ended => (finishes x ended).after logged
  refine Enacts.after (announce_onlyLogs settings) (fun _ _ => Logged.idle) (by simp) (fun _ => ?_)
    moves
  refine Enacts.after (R := Logged) (F := fun _ => True) .get (fun _ _ => Logged.idle) (by simp)
    (fun before => ?_) moves
  refine Enacts.chain (runBuild_starts _ _ _) (by simp) fun w ds output u started => ?_
  obtain ⟨c, limit, o, atStart, rfl, success, means⟩ := started output rfl
  simp only [bind_run, get_run]
  refine ⟨[], (finish_quiet artifact (u.clock - before.clock) output u).1.enacted,
    fun x ended => ?_⟩
  obtain ⟨placed, named, found⟩ := finish_ok (Prod.ext ended rfl)
  exact ⟨placed, named, ⟨_, c, limit, o, atStart, rfl, means, success⟩, found⟩

/-- A build that gives an artifact ran one process, at a place where nothing was, and what is there
then is a program. -/
theorem build_builds (sec : Section BuildSettings) (artifact workdir : PathName)
    (env : Environment) :
    (build sec artifact workdir env).Enacts fun _ ds r v => ∀ x, r = .ok x →
      x.artifact = artifact ∧ ∃ settings c limit o atStart content, sec.given = .ok settings ∧
        ds = [.process c limit o atStart] ∧
        IsBuild settings artifact workdir c limit o atStart ∧
        v.files.lookUp artifact = .ok (.file content true) := by
  intro w
  have cleared := removeStale_quiet artifact w
  rcases ran : removeStale artifact w with ⟨f | x, u⟩ <;> rw [ran] at cleared <;> unfold build <;>
    simp only [bind_run, ran]
  · exact ⟨[], cleared.1.enacted, by simp⟩
  rcases read : sec.given with f | settings
  · exact ⟨[], cleared.1.enacted, by simp [ofResult_run]⟩
  rw [ofResult_run]
  obtain ⟨ds, enacted, finishes⟩ := buildCleared_finishes settings artifact workdir env u
  refine ⟨ds, cleared.1.enacted.trans enacted, fun product ended => ?_⟩
  obtain ⟨placed, named, ⟨env, c, limit, o, atStart, rfl, means, success⟩, content, found⟩ :=
    finishes product ended
  obtain ⟨t, logged, rfl⟩ := means.logged
  exact ⟨placed, settings, c, limit, o, t.files, content, rfl, rfl, ⟨means.argv, means.folder,
    by simp [means.env], success, logged.vacant (removeStale_vacant named ran)⟩, found⟩

end Artifact

/-! ## Measuring -/

/-- The first process is started after nothing but records and new files. -/
def Launches (w : World) (ds : List Deed) : Prop :=
  ∃ c limit o u more, Extended w u ∧ ds = .process c limit o u.files :: more

/-- If a process is started, then the first after nothing but records and new files. -/
def Opens (w : World) (ds : List Deed) : Prop := ds = [] ∨ Launches w ds

/-- No value is given without a process. -/
def Insists (w : World) (ds : List Deed) (r : Except Fault α) : Prop :=
  Launches w ds ∨ ds = [] ∧ ∀ x, r ≠ .ok x

/-- The first deed is the same one. -/
theorem Launches.append {w : World} {first : List Deed} (launches : Launches w first)
    (second : List Deed) : Launches w (first ++ second) := by
  obtain ⟨c, limit, o, u, more, extended, rfl⟩ := launches
  exact ⟨c, limit, o, u, more ++ second, extended, rfl⟩

/-- Either a process was started, or nothing was done. -/
theorem Insists.opens {w : World} {ds : List Deed} {r : Except Fault α}
    (insists : Insists w ds r) : Opens w ds := insists.symm.imp_left And.left

/-- Once a process was started it does not matter what comes. -/
theorem Insists.bind {a : Action α} {next : α → Action β}
    (first : a.Enacts fun w ds r _ => Insists w ds r) (second : ∀ x, ∃ P, (next x).Enacts P) :
    (a >>= next).Enacts fun w ds r _ => Insists w ds r := by
  refine Enacts.chain first ?_ fun w ds x u insists => ?_
  · rintro w ds f v (launches | ⟨rfl, -⟩)
    · exact .inl launches
    · exact .inr ⟨rfl, by simp⟩
  · obtain ⟨P, enacts⟩ := second x
    obtain ⟨more, enacted, -⟩ := enacts u
    rcases insists with launches | ⟨-, failed⟩
    · exact ⟨more, enacted, .inl (launches.append more)⟩
    · exact absurd rfl (failed x)

/-- Faults may get other names. -/
theorem Insists.renamed {a : Action α} {handler : Fault → Action α}
    (first : a.Enacts fun w ds r _ => Insists w ds r) (renames : ∀ f, ∃ g, handler f = throw g) :
    (tryCatch a handler).Enacts fun w ds r _ => Insists w ds r := by
  intro w
  obtain ⟨ds, enacted, insists⟩ := first w
  rcases ran : a w with ⟨f | x, v⟩ <;> rw [ran] at enacted insists <;>
    simp only [tryCatch_run, ran]
  · obtain ⟨g, same⟩ := renames f
    rw [same]
    exact ⟨ds, enacted, insists.imp_right fun idle => ⟨idle.1, by simp [throw_run]⟩⟩
  · exact ⟨ds, enacted, insists⟩

/-- One process at most: if there is none, it could not be computed, and there is no value. -/
theorem Insists.of_starts {command : Value} {folder : Option String} {env : Option Environment}
    {exit : α → Option Int} {kinds : FailureKind → Prop} {a : Action α}
    (one : a.Starts (Command.Means command folder env) exit kinds) :
    a.Enacts fun w ds r _ => Insists w ds r := by
  have launches : ∀ {w : World} {c limit o files},
      Command.Means command folder env w c files → Launches w [.process c limit o files] := by
    intro w c limit o files means
    obtain ⟨t, logged, rfl⟩ := means.logged
    exact ⟨c, limit, o, t, [], logged.toExtended, rfl⟩
  refine Enacts.mono one ?_
  rintro w ds r v (- | ⟨means, -⟩ | ⟨means, -, -⟩)
  · exact .inr ⟨rfl, by simp⟩
  · exact .inl (launches means)
  · exact .inl (launches means)

namespace Opens

/-- Where nothing is done no process is started. -/
theorem of_idle {F : Fault → Prop} {a : Action α} (idle : Keeps Idle F a) :
    a.Enacts fun w ds _ _ => Opens w ds :=
  Enacts.mono idle.enacts fun _ _ _ _ told => .inl told.1

/-- What was added before the first process is added to what the second part adds. -/
theorem after {F : Fault → Prop} {a : Action α} {next : α → Action β} (kept : Keeps Extended F a)
    (second : ∀ x, (next x).Enacts fun w ds _ _ => Opens w ds) :
    (a >>= next).Enacts fun w ds _ _ => Opens w ds := by
  refine Enacts.after kept (fun _ _ => Extended.idle) (fun _ _ _ => .inl rfl) second ?_
  rintro w u ds r v extended (rfl | ⟨c, limit, o, t, more, later, rfl⟩)
  · exact .inl rfl
  · exact .inr ⟨c, limit, o, t, more, Law.trans extended later, rfl⟩

/-- What comes after the last process does not matter. -/
theorem before {F : Fault → Prop} {a : Action α} {next : α → Action β}
    (first : a.Enacts fun w ds _ _ => Opens w ds) (idle : ∀ x, Keeps Idle F (next x)) :
    (a >>= next).Enacts fun w ds _ _ => Opens w ds := by
  refine Enacts.bind first (fun x => (idle x).enacts) (fun _ _ _ _ => id) ?_
  rintro w ds x u more r v opens ⟨rfl, -⟩
  rwa [List.append_nil]

end Opens

namespace Timing

/-- A repetition is one process, and gives a value only if there was one. -/
theorem successful_insists (command : Value) (folder : PathName) (env : Environment)
    (limit : Value) (isWarmup : Bool) (number : Nat) :
    (successful command folder env limit isWarmup number).Enacts
      fun w ds r _ => Insists w ds r := by
  refine Insists.bind (Insists.renamed (Insists.of_starts (repetition_starts _ _ _ _))
    fun f => ?_) fun r => ⟨_, Keeps.enacts (F := fun _ => True) ?_⟩
  · split <;> exact ⟨_, rfl⟩
  · exact .bind (.ofResult fun _ _ => trivial) fun _ =>
      .bind ((log_quiet _ _ _).idle.mono fun _ _ => trivial) fun _ => .pure _

/-- By induction on how many are left: only the first process matters, and later ones come behind
it. -/
theorem repetitions_opens (command : Value) (folder : PathName) (env : Environment)
    (limit : Value) (left warmup done : Nat) :
    (repetitions command folder env limit left warmup done).Enacts
      fun w ds _ _ => Opens w ds := by
  induction left generalizing warmup done with
  | zero => exact Opens.of_idle (F := fun _ => True) (.pure _)
  | succ left ih =>
    have later : ∀ r, (do
        let rest ← repetitions command folder env limit left (warmup - 1) (done + 1)
        return if 0 < warmup then rest else r :: rest : Action (List Repetition)).Enacts
          fun w ds _ _ => Opens w ds := fun r =>
      Opens.before (F := fun _ => True) (ih _ _) fun _ => .pure _
    exact Enacts.mono (Insists.bind (successful_insists _ _ _ _ _ _) fun r => ⟨_, later r⟩)
      fun _ _ _ _ => Insists.opens

/-- What is computed before the repetitions and after them does nothing. -/
theorem measureRepeatedly_opens (command : Value) (folder : PathName) (env : Environment)
    (warmup runs limit : Value) :
    (measureRepeatedly command folder env warmup runs limit).Enacts
      fun w ds _ _ => Opens w ds := by
  refine Opens.after (F := fun _ => True) (.ofResult fun _ _ => trivial) fun warmup => ?_
  refine Opens.after (F := fun _ => True) (.ofResult fun _ _ => trivial) fun runs => ?_
  refine Opens.before (F := fun _ => True) (repetitions_opens _ _ _ _ _ _ _) fun measured => ?_
  exact .bind (.ofResult fun _ _ => trivial) fun _ =>
    .bind (.ofResult fun _ _ => trivial) fun _ => .pure _

/-- The external program is the first process, and it was computed before. -/
theorem timeWithReport_opens (report : PathName) (command : Value) (folder : PathName)
    (env : Environment) (warmup runs : Value) :
    (timeWithReport report command folder env warmup runs).Enacts
      fun w ds _ _ => Opens w ds := by
  refine Opens.after (F := fun _ => True) (.ofResult fun _ _ => trivial) fun argv => ?_
  refine Enacts.mono (Insists.bind (Insists.renamed (Insists.of_starts (Command.run_starts _ _ _ _))
    fun f => ?_) fun p => ⟨_, Keeps.enacts (F := fun _ => True) ?_⟩) fun _ _ _ _ => Insists.opens
  · split <;> exact ⟨_, rfl⟩
  · have shown : Keeps Idle (fun _ => True) (logOutput .debug "bench.hyperfine" p.stderr) :=
      (logOutput_quiet _ _ _).idle.mono fun _ _ => trivial
    have read : Keeps Idle (fun _ => True) (readReport report) :=
      (readReport_quiet report).idle.mono fun _ _ => trivial
    split
    · exact .bind shown fun _ => .bind read fun _ => .pure _
    · exact .throw trivial

/-- The file for the report is made where nothing stood. -/
theorem makeReportFile_extended : Keeps Extended (fun _ => True) makeReportFile := by
  intro w
  have untouched := (makeReportFile_quiet w).1
  refine ⟨?_, fun _ _ => trivial⟩
  unfold makeReportFile at untouched ⊢
  rw [bind_run, get_run] at untouched ⊢
  dsimp only at untouched ⊢
  generalize w.temporary.child ("binbench-hyperfine-" ++ w.unique ++ ".json") = path at untouched ⊢
  rcases placed : w.files.place false path with e | ⟨location, _ | entry⟩ <;>
    rw [placed] at untouched
  · exact Law.refl w
  · obtain ⟨leads, missing⟩ := Files.leads_of_place placed
    have vacant : w.files.root.kind? location = none := Folder.kind?_eq_none.mpr missing.symm
    have noFolder : w.files.root.kind? location ≠ some .folder := by simp [vacant]
    have nonempty := Folder.nonempty_of_closed noFolder
    have parent := leads.parent_folder nonempty
    refine ⟨untouched, rfl, Folder.grows_put_leaf rfl nonempty parent (by simp [vacant]),
      fun other content executable held => ⟨ByteArray.empty, ?_, .inl rfl⟩⟩
    have apart : other ≠ location := by
      rintro rfl
      simp [Folder.kind?, held] at vacant
    have closed : w.files.root.node? location ≠ some .folder := fun opened => by
      simp [Folder.kind?, opened] at vacant
    rw [ByteArray.append_empty, ← held]
    exact (Folder.node?_put_leaf rfl nonempty parent closed other).trans (if_neg apart)
  · exact Law.refl w

/-- By which timer is to be used: there is a record before the one, and a new file before the other.
-/
theorem measure_opens (benchmark : BenchmarkSettings) (command : Value) (folder : PathName)
    (env : Environment) :
    (measure benchmark command folder env).Enacts fun w ds _ _ => Opens w ds := by
  have logged : Keeps Extended (fun _ => True) (log .info "measure"
      ("Timing with " ++ benchmark.tool.display ++ ": " ++ command.display)) :=
    (record_logged _).weaken fun _ _ logged => logged.toExtended
  refine Opens.after logged fun _ => ?_
  split
  · exact Opens.before (F := fun _ => True) (measureRepeatedly_opens _ _ _ _ _ _) fun _ => .pure _
  · split
    · refine Opens.after makeReportFile_extended fun report => ?_
      refine Opens.before (F := fun _ => True) ?_ fun result => ?_
      · refine Enacts.mono (Enacts.attempt (timeWithReport_opens report command folder env _ _)) ?_
        rintro w ds r v ⟨result, -, opens⟩
        exact opens
      · exact .bind ((Disk.unlinkIfThere_quiet _).idle.mono fun _ _ => trivial) fun _ =>
          .ofResult fun _ _ => trivial
    · exact Opens.after (F := fun _ => True) (.ofResult fun _ _ => trivial) fun _ =>
        Opens.of_idle (F := fun _ => True) (.throw trivial)

end Timing

/-- Whether a deed is the mark at the beginning of the measurement. -/
def Deed.isMeasurement : Deed → Bool
  | .begins stage _ => stage == Stage.measure.name
  | _ => false

/-- Whether a process was started. -/
def Deed.isProcess : Deed → Bool
  | .process .. => true
  | _ => false

/-- The fixture was downloaded once, and its file holds what was received. -/
structure FixtureHeld (fixture : FixtureSettings) (workdir : PathName) (w : World)
    (since : List Deed) (files : Files) : Prop where
  told : ∃ reply asked content name, since = [.download fixture.url reply asked] ∧
    reply.received? = some content ∧ hasDigest fixture.sha256 content ∧
    Fixture.fileName fixture.url = .ok name ∧ w.Holds files (workdir.join (.parse name)) content

/-- Only the open log files are asked of the world, and they are no more than before. -/
theorem FixtureHeld.host {fixture : FixtureSettings} {workdir : PathName} {w u : World}
    {since : List Deed} {files : Files} (held : FixtureHeld fixture workdir u since files)
    (host : SameHost w u) : FixtureHeld fixture workdir w since files := by
  obtain ⟨reply, asked, content, name, same, received, wanted, named, added, read, opened⟩ :=
    held.told
  refine ⟨reply, asked, content, name, same, received, wanted, named, added, read,
    opened.imp_right ?_⟩
  rintro ⟨place, placed, isLog⟩
  exact ⟨place, placed, host.logs _ isLog⟩

/-- When the first process is started, the fixture is held. -/
def Measures (fixture : FixtureSettings) (workdir : PathName) (w : World) (ds : List Deed) : Prop :=
  ∀ since c limit o files rest, ds = since ++ .process c limit o files :: rest →
    (∀ d ∈ since, ¬ d.isProcess) → FixtureHeld fixture workdir w since files

/-- Without a process there is no first one. -/
theorem Measures.of_none {fixture : FixtureSettings} {workdir : PathName} {w : World}
    {ds : List Deed} (none : ∀ d ∈ ds, ¬ d.isProcess) : Measures fixture workdir w ds := by
  rintro since c limit o files rest rfl
  exact absurd rfl (none (.process c limit o files) (by simp))

namespace Measurement

/-- The command is computed and then timed. -/
theorem takeOn_opens (file artifact : PathName) (sec : Section BenchmarkSettings)
    (workdir : PathName) (env : Environment) :
    (takeOn file artifact sec workdir env).Enacts fun w ds _ _ => Opens w ds := by
  refine Opens.after (F := fun _ => True) (.ofResult fun _ _ => trivial) fun benchmark => ?_
  refine Opens.after (benchmarkCommand_asks _ _ _ _).keeps fun command => ?_
  refine Opens.before (F := fun _ => True) (Timing.measure_opens _ _ _ _) fun _ => ?_
  exact .bind ((measureSize_quiet _).idle.mono fun _ _ => trivial) fun _ =>
    .bind ((log_quiet _ _ _).idle.mono fun _ _ => trivial) fun _ => .pure _

/-- The download comes first and holds its file. Up to the first process only records and new files
come after it, none of which changes that file. -/
theorem take_measures (artifact : PathName) (fixture : FixtureSettings)
    (sec : Section BenchmarkSettings) (workdir : PathName) (env : Environment) :
    (take artifact fixture sec workdir env).Enacts
      fun w ds _ _ => Measures fixture workdir w ds := by
  intro w
  obtain ⟨_, asked, fetches⟩ := Fixture.fetch_fetches fixture.url workdir fixture.timeout
    fixture.sha256 w
  unfold take
  rcases fetched : Fixture.fetch fixture.url workdir fixture.timeout fixture.sha256 w
    with ⟨f | file, u⟩ <;> rw [fetched] at asked fetches <;> rw [bind_run, fetched] <;>
    dsimp only at asked fetches ⊢
  · refine ⟨_, asked, .of_none ?_⟩
    cases fetches <;> simp [Deed.isProcess]
  obtain ⟨more, enacted, opens⟩ := takeOn_opens file artifact sec workdir env u
  refine ⟨_, asked.trans enacted, ?_⟩
  cases fetches with | @fetched reply files content name named received wanted holds => ?_
  rcases opens with rfl | ⟨c, limit, o, t, others, extended, rfl⟩
  · exact .of_none (by simp [Deed.isProcess])
  · have held := holds.extended asked.toSameHost extended
    intro since c' limit' o' files' rest same none
    rcases since with _ | ⟨first, _ | ⟨second, later⟩⟩
    · cases same
    · cases same
      exact ⟨reply, files, content, name, rfl, received, wanted, named, held⟩
    · cases same
      exact absurd rfl (none (.process c limit o t.files) (by simp))

end Measurement

/-! ## The run -/

namespace Run

/-- Preparation hands on the configured working directory. -/
theorem prepare_workdir {s : Settings} {store : Option CacheStore} {w v : World}
    {prepared : Prepared} (ended : prepare s store w = (.ok prepared, v)) :
    prepared.workdir = s.workdir := by
  obtain ⟨source, _, _, ended⟩ := ok_of_bind_ok ended
  obtain ⟨_, _, _, ended⟩ := ok_of_bind_ok ended
  obtain ⟨revision, _, _, ended⟩ := ok_of_bind_ok ended
  obtain ⟨key, _, _, ended⟩ := ok_of_bind_ok ended
  obtain ⟨homes, _, _, ended⟩ := ok_of_bind_ok ended
  obtain ⟨cache, _, _, ended⟩ := ok_of_bind_ok ended
  obtain ⟨paths, _, _, ended⟩ := ok_of_bind_ok ended
  obtain ⟨_, _, _, ended⟩ := ok_of_bind_ok ended
  obtain ⟨hit, _, _, ended⟩ := ok_of_bind_ok ended
  rw [← Except.ok.inj (Prod.mk.inj ended).1]

/-- An element is found in the second of two lists when it is not in the first. -/
theorem split_after {first second earlier rest : List α} {x : α}
    (same : first ++ second = earlier ++ x :: rest) (none : x ∉ first) :
    ∃ more, earlier = first ++ more ∧ second = more ++ x :: rest := by
  rcases List.append_eq_append_iff.mp same with ⟨more, rfl, rfl⟩ | ⟨more, rfl, tail⟩
  · exact ⟨more, rfl, rfl⟩
  · cases more with
    | nil => exact ⟨[], by simp, by simpa using tail.symm⟩
    | cons y others =>
      obtain ⟨rfl, -⟩ := List.cons.inj tail
      exact (none (by simp)).elim

/-- An element is found in the first of two lists when it is not in the second. -/
theorem split_before {first second earlier rest : List α} {x : α}
    (same : first ++ second = earlier ++ x :: rest) (none : x ∉ second) :
    ∃ more, first = earlier ++ x :: more := by
  rcases List.append_eq_append_iff.mp same with ⟨more, rfl, rfl⟩ | ⟨more, rfl, tail⟩
  · exact (none (by simp)).elim
  · cases more with
    | nil => exact (none (by simp [← show x :: rest = second from tail])).elim
    | cons y others =>
      obtain ⟨rfl, -⟩ := List.cons.inj tail
      exact ⟨others, rfl⟩

/-- The build command was started once. Nothing was at the artifact's place when it was, it
succeeded, and a program was there when the build ended. -/
structure BuiltOnce (s : Settings) (homes : Homes) (earlier : List Deed) : Prop where
  told : ∃ prior begun ended settings artifact c limit o atStart content,
    earlier = prior ++ [.begins Stage.build.name begun, .process c limit o atStart,
      .ends Stage.build.name ended] ∧
    (∀ d ∈ prior, ¬ d.isWork) ∧
    s.build.given = .ok settings ∧ s.artifactPath homes = .ok artifact ∧
    Artifact.IsBuild settings artifact s.workdir c limit o atStart ∧
    ended.lookUp artifact = .ok (.file content true)

/-- When the first process of the measurement is started, the build and the fixture are there. -/
def Gated (s : Settings) (w : World) (ds : List Deed) : Prop :=
  ∀ earlier measured since c limit o files rest,
    ds = earlier ++ .begins Stage.measure.name measured ::
      (since ++ .process c limit o files :: rest) →
    (∀ d ∈ since, ¬ d.isProcess) →
    BuiltOnce s w.homes earlier ∧
      ∃ fixture, s.fixture.given = .ok fixture ∧ FixtureHeld fixture s.workdir w since files

/-- Without a measurement there is nothing to gate. -/
theorem Gated.of_none {s : Settings} {w : World} {ds : List Deed}
    (none : ∀ d ∈ ds, ¬ d.isMeasurement) : Gated s w ds := by
  rintro earlier measured since c limit o files rest rfl
  exact absurd (by simp [Deed.isMeasurement])
    (none (.begins Stage.measure.name measured) (by simp))

/-- Home directories come from a variable and from the accounts. -/
theorem homes_eq {w u : World} (host : SameHost w u) : u.homes = w.homes := by
  simp [World.homes, host.environment, host.accounts]

/-- What was done before a part of the run is before its measurement too. -/
theorem Gated.after {s : Settings} {w u : World} {first ds : List Deed} (gated : Gated s u ds)
    (host : SameHost w u) (prior : ∀ d ∈ first, ¬ d.isWork ∧ ¬ d.isMeasurement) :
    Gated s w (first ++ ds) := by
  intro earlier measured since c limit o files rest same none
  obtain ⟨more, rfl, found⟩ := split_after same fun among =>
    (prior _ among).2 (by simp [Deed.isMeasurement])
  obtain ⟨⟨others, begun, ended, settings, artifact, command, bound, outcome, atStart, content, rfl,
    idle, given, placed, built⟩, fixture, read, held⟩ :=
    gated more measured since c limit o files rest found none
  rw [homes_eq host] at placed
  refine ⟨⟨first ++ others, begun, ended, settings, artifact, command, bound, outcome, atStart,
    content, by simp, ?_, given, placed, built⟩, fixture, read, held.host host⟩
  exact List.forall_mem_append.mpr ⟨fun d among => (prior d among).1, idle⟩

/-- What lies between the bounds of a stage before the measurement. -/
theorem prior_bounded {name : Stage} (apart : name ≠ .measure) {first last : Files}
    {inner : List Deed} (attempts : ∀ d ∈ inner, d.isAttempt) :
    ∀ d ∈ Deed.begins name.name first :: inner ++ [.ends name.name last],
      ¬ d.isMeasurement := by
  intro d among measures
  rcases List.mem_cons.mp among with rfl | among
  · cases name <;> simp [Deed.isMeasurement, Stage.name] at apart measures
  · rcases List.mem_append.mp among with inside | atEnd
    · have attempt := attempts d inside
      cases d <;> simp [Deed.isMeasurement, Deed.isAttempt] at attempt measures
    · obtain rfl := List.mem_singleton.mp atEnd
      cases measures

/-- A stage that sets something up comes before the gate. -/
theorem Gated.stage (good : α → Prop) {s : Settings} {plan : Plan} {name : Stage}
    {action : Action α} {next : StageResult × Option α → Action Report}
    (listening : plan.Listening) (apart : name ≠ .measure)
    (told : action.Tells fun ds r => (∀ d ∈ ds, d.isAttempt ∧ ¬ d.isWork) ∧
      ∀ x, r = .ok x → good x)
    (stopped : ∀ result, ∃ report, next (result, none) = pure report)
    (second : ∀ result x, good x → (next (result, some x)).Enacts fun w ds _ _ => Gated s w ds) :
    (Run.stage plan name action >>= next).Enacts fun w ds _ _ => Gated s w ds := by
  intro w
  obtain ⟨_, enacted, u, inner, ended, t, ⟨all, gives⟩, -, concludes, rfl⟩ :=
    stage_bounded listening name told w
  have unmeasured : ∀ d ∈ Deed.begins name.name u.files :: inner ++ [.ends name.name t.files],
      ¬ d.isMeasurement := prior_bounded apart fun d among => (all d among).1
  rcases ran : Run.stage plan name action w with ⟨f | ⟨result, _ | x⟩, v⟩ <;>
    rw [ran] at enacted concludes <;> simp only [bind_run, ran]
  · exact ⟨_, enacted, .of_none unmeasured⟩
  · obtain ⟨report, same⟩ := stopped result
    rw [same]
    exact ⟨_, enacted, .of_none unmeasured⟩
  · obtain ⟨rfl, -⟩ := concludes
    obtain ⟨more, later, gated⟩ := second result x (gives x rfl) v
    refine ⟨_, enacted.trans later, gated.after enacted.toSameHost fun d among =>
      ⟨?_, unmeasured d among⟩⟩
    rcases List.mem_cons.mp among with rfl | among
    · simp [Deed.isWork]
    · rcases List.mem_append.mp among with inside | atEnd
      · exact (all d inside).2
      · obtain rfl := List.mem_singleton.mp atEnd
        simp [Deed.isWork]

/-- A measurement comes first, and when its first process is started the fixture is there. -/
def Measured (s : Settings) (w : World) (ds : List Deed) : Prop :=
  ∀ earlier measured since c limit o files rest,
    ds = earlier ++ .begins Stage.measure.name measured ::
      (since ++ .process c limit o files :: rest) →
    (∀ d ∈ since, ¬ d.isProcess) →
    earlier = [] ∧ ∃ fixture, s.fixture.given = .ok fixture ∧
      FixtureHeld fixture s.workdir w since files

/-- The stage begins with its bound, so nothing is earlier; the rest is the measurement. -/
theorem measureStage_measured {plan : Plan} (listening : plan.Listening) (artifact : PathName)
    (env : Environment) :
    (stage plan .measure
        (measureStage plan.settings artifact plan.settings.workdir env)).Enacts
      fun w ds _ _ => Measured plan.settings w ds := by
  have taken : (measureStage plan.settings artifact plan.settings.workdir env).Enacts
      fun w ds _ _ => ∀ since c limit o files rest,
        ds = since ++ .process c limit o files :: rest → (∀ d ∈ since, ¬ d.isProcess) →
        ∃ fixture, plan.settings.fixture.given = .ok fixture ∧
          FixtureHeld fixture plan.settings.workdir w since files := by
    unfold measureStage
    rcases read : plan.settings.fixture.given with f | fixture
    · exact fun w => ⟨[], Law.refl (R := Idle) w, by simp⟩
    · refine Enacts.mono (Measurement.take_measures artifact fixture _ _ _) ?_
      intro w ds r v measures since c limit o files rest same none
      exact ⟨fixture, rfl, measures since c limit o files rest same none⟩
  have orderly := measureStage_orderly plan artifact plan.settings.workdir env
  refine Enacts.mono (stage_bounded listening .measure (Enacts.and orderly taken)) ?_
  rintro w ds r v ⟨u, inner, result, t, ⟨holds, measures⟩, host, -, rfl⟩
  intro earlier measured since c limit o files rest same none
  cases earlier with
  | nil =>
    obtain ⟨more, rfl⟩ := split_before (List.cons.inj same).2 (by simp)
    obtain ⟨fixture, read, held⟩ := measures since c limit o files more rfl none
    exact ⟨rfl, fixture, read, held.host host⟩
  | cons first others =>
    have tail : inner ++ [.ends Stage.measure.name t.files] =
        others ++ .begins Stage.measure.name measured ::
          (since ++ .process c limit o files :: rest) := (List.cons.inj same).2
    have among : Deed.begins Stage.measure.name measured ∈
        inner ++ [.ends Stage.measure.name t.files] := by
      rw [tail]
      simp
    rcases List.mem_append.mp among with inside | atEnd
    · cases holds.attempts _ inside
    · simp at atEnd

/-- One process at most, and after a success the artifact is the program that was looked for. -/
theorem buildStage_builds (s : Settings) (env : Environment) :
    (buildStage s s.workdir env).Enacts fun w ds r v => (∀ d ∈ ds, d.isAttempt) ∧
      ∀ x, r = .ok x → ∃ settings artifact c limit o atStart content,
        ds = [.process c limit o atStart] ∧ s.build.given = .ok settings ∧
        s.artifactPath w.homes = .ok artifact ∧
        Artifact.IsBuild settings artifact s.workdir c limit o atStart ∧
        v.files.lookUp artifact = .ok (.file content true) := by
  refine Enacts.mono (Enacts.and (buildStage_orderly .null s s.workdir env) ?_)
    fun w ds r v told => ⟨told.1.attempts, told.2⟩
  intro w
  have homes : Disk.homes w = (.ok w.homes, w) := rfl
  unfold buildStage
  rw [bind_run, homes]
  dsimp only
  rcases placed : s.artifactPath w.homes with f | artifact
  · exact ⟨[], Law.refl (R := Idle) w, by simp [bind_run, ofResult_run]⟩
  rw [ofResult_ok_bind]
  obtain ⟨ds, enacted, builds⟩ := Artifact.build_builds s.build artifact s.workdir env w
  refine ⟨ds, enacted, fun x ended => ?_⟩
  obtain ⟨-, settings, c, limit, o, atStart, content, given, same, isBuild, found⟩ := builds x ended
  exact ⟨settings, artifact, c, limit, o, atStart, content, same, given, rfl, isBuild, found⟩

/-- A build that succeeds opens the gate for the measurement. -/
theorem Gated.build {plan : Plan} (listening : plan.Listening) (env : Environment)
    {next : StageResult × Option Artifact.Built → Action Report}
    (stopped : ∀ result, ∃ report, next (result, none) = pure report)
    (second : ∀ result x, (next (result, some x)).Enacts
      fun w ds _ _ => Measured plan.settings w ds) :
    (Run.stage plan .build (buildStage plan.settings plan.settings.workdir env) >>= next).Enacts
      fun w ds _ _ => Gated plan.settings w ds := by
  intro w
  obtain ⟨_, enacted, u, inner, ended, t, ⟨attempts, builds⟩, host, concludes, rfl⟩ :=
    stage_bounded listening .build (buildStage_builds plan.settings env) w
  have unmeasured : ∀ d ∈ Deed.begins Stage.build.name u.files ::
      inner ++ [.ends Stage.build.name t.files], ¬ d.isMeasurement :=
    prior_bounded (by decide) attempts
  rcases ran : Run.stage plan .build (buildStage plan.settings plan.settings.workdir env) w
    with ⟨f | ⟨result, _ | x⟩, v⟩ <;>
    rw [ran] at enacted concludes <;> simp only [bind_run, ran]
  · exact ⟨_, enacted, .of_none unmeasured⟩
  · obtain ⟨report, same⟩ := stopped result
    rw [same]
    exact ⟨_, enacted, .of_none unmeasured⟩
  · obtain ⟨rfl, -⟩ := concludes
    obtain ⟨settings, artifact, c, limit, o, atStart, content, rfl, given, placed, isBuild, found⟩ :=
      builds x rfl
    obtain ⟨more, later, measured⟩ := second result x v
    refine ⟨_, enacted.trans later, ?_⟩
    intro earlier begun since c' limit' o' files rest same none
    obtain ⟨others, rfl, tail⟩ := split_after same fun among =>
      unmeasured _ among (by simp [Deed.isMeasurement])
    obtain ⟨rfl, fixture, read, held⟩ := measured others begun since c' limit' o' files rest tail none
    rw [homes_eq host] at placed
    exact ⟨⟨[], u.files, t.files, settings, artifact, c, limit, o, atStart, content, by simp,
      by simp, given, placed, isBuild, found⟩, fixture, read, held.host enacted.toSameHost⟩

/-- Stage by stage: before the measurement no deed is one, and there the build has been done once.
-/
theorem fromInstall_gated {plan : Plan} (listening : plan.Listening) (env : Environment)
    (report : Report) {prepared : Prepared} (placed : prepared.workdir = plan.settings.workdir) :
    (fromInstall plan env report prepared).Enacts fun w ds _ _ => Gated plan.settings w ds := by
  unfold fromInstall
  rw [placed]
  refine Gated.stage (fun _ => True) listening (by decide) ?_ (fun result => ⟨_, rfl⟩)
    fun result _ _ => ?_
  · refine (installStage_orderly .null plan env).mono fun ds r orderly =>
      ⟨fun d among => ⟨orderly.attempts d among, orderly.setsUp (fun _ => id) d among⟩,
        fun _ _ => trivial⟩
  refine Gated.build listening env (fun result => ⟨_, rfl⟩) fun result product => ?_
  refine Enacts.chain (measureStage_measured listening product.artifact env)
    (fun _ _ _ _ measured => measured) ?_
  rintro w ds ⟨result, _ | m⟩ u measured
  · exact ⟨[], Law.refl (R := Idle) u, by simpa using measured⟩
  · have quiet : ∀ report : Report, Keeps Untouched (fun _ => True) (do
        saveCache plan prepared
        log .info "pipeline" ("Pipeline '" ++ plan.settings.name.display ++ "' completed")
        return report : Action Report) := fun report =>
      .bind (saveCache_untouched plan prepared) fun _ => .bind (record_untouched _) fun _ => .pure _
    exact ⟨[], (quiet _ u).1.enacted, by simpa using measured⟩

/-- Checking the settings and making the environment leaves the world untouched, and the preparation
is no measurement. -/
theorem run_opensGate {plan : Plan} (listening : plan.Listening) :
    (run plan).Enacts fun w ds _ _ => Gated plan.settings w ds := by
  have moves : ∀ (w u : World) (ds : List Deed) (_ : Except Fault Report) (_ : World),
      Untouched w u → Gated plan.settings u ds → Gated plan.settings w ds := by
    intro w u ds _ _ untouched gated
    have same : Gated plan.settings w ([] ++ ds) := gated.after untouched.toSameHost (by simp)
    exact same
  refine Enacts.after (checkSettings_untouched _) (fun _ _ => Untouched.enacted)
    (fun _ _ _ => .of_none (by simp)) (fun _ => ?_) moves
  refine Enacts.after (environment_untouched _) (fun _ _ => Untouched.enacted)
    (fun _ _ _ => .of_none (by simp)) (fun env => ?_) moves
  refine Gated.stage (fun prepared : Prepared => prepared.workdir = plan.settings.workdir) listening
    (by decide) ?_ (fun result => ⟨_, rfl⟩) fun result prepared placed =>
      fromInstall_gated listening env _ placed
  have orderly : (prepare plan.settings plan.store).Tells (Orderly .null (· = .setup)) :=
    prepare_orderly _ _
  intro w
  obtain ⟨ds, enacted, holds⟩ := orderly w
  refine ⟨ds, enacted, fun d among => ⟨holds.attempts d among, holds.setsUp (fun _ => id) d among⟩,
    fun prepared ended => ?_⟩
  exact prepare_workdir (Prod.ext ended rfl)

/-- When the first benchmark process is started, the build command was started once, at a place
where nothing was, and left a program there; and the fixture was downloaded once and its file holds
what was received. Only if that file is an open log file, records were added to it. -/
theorem run_gated (plan : Plan) (w : World) (listening : plan.Listening) :
    Gated plan.settings w (w.deedsUntil (run plan w).2) := by
  obtain ⟨ds, enacted, gated⟩ := run_opensGate listening w
  rw [enacted.deedsUntil_eq]
  exact gated

/-- What a history tells from the beginning of the measurement on. -/
def fromMeasurement (ds : List Deed) : List Deed := ds.dropWhile (!·.isMeasurement)

/-- A history with a benchmark process has a first one. -/
theorem exists_gate {ds : List Deed} (found : (fromMeasurement ds).any Deed.isProcess) :
    ∃ earlier measured since c limit o files rest,
      ds = earlier ++ fromMeasurement ds ∧
      fromMeasurement ds = .begins Stage.measure.name measured ::
        (since ++ .process c limit o files :: rest) ∧ ∀ d ∈ since, ¬ d.isProcess := by
  unfold fromMeasurement at found ⊢
  induction ds with
  | nil => simp at found
  | cons d later ih =>
    by_cases measures : d.isMeasurement
    · rw [List.dropWhile_cons_of_neg (by simpa using measures)] at found ⊢
      cases d <;> simp only [Deed.isMeasurement, Bool.false_eq_true] at measures
      next stage measured =>
        obtain rfl : stage = Stage.measure.name := by simpa using measures
        have among : later.any Deed.isProcess := by simpa [Deed.isProcess] using found
        obtain ⟨e, first⟩ := Option.isSome_iff_exists.mp (List.find?_isSome.mpr
          (List.any_eq_true.mp among))
        obtain ⟨isProcess, since, rest, rfl, none⟩ := List.find?_eq_some_iff_append.mp first
        cases e <;> simp only [Deed.isProcess, Bool.false_eq_true] at isProcess
        exact ⟨[], measured, since, _, _, _, _, rest, rfl, rfl, by simpa using none⟩
    · rw [List.dropWhile_cons_of_pos (by simpa using measures)] at found ⊢
      obtain ⟨earlier, measured, since, c, limit, o, files, rest, whole, told, none⟩ := ih found
      exact ⟨d :: earlier, measured, since, c, limit, o, files, rest,
        congrArg (d :: ·) whole, told, none⟩

/-- A world in which `make` builds a program, and one benchmark process is started. -/
def builtTool : World where
  files := { root := [("w", .folder [("x.log", .file ByteArray.empty false)])] }
  processes := ⟨[{}, { edits := [.write (.parse "/w/tool") "x".toUTF8 true] },
    { launch := .interrupted }], {}⟩
  replies := ⟨[], .answer 200 ["abc\n".toUTF8] none⟩

/-- The sample run reaches its measurement. -/
theorem run_gated_builtTool :
    samplePlan.Listening ∧ ∃ earlier measured since c limit o files rest,
      builtTool.deedsUntil (run samplePlan builtTool).2 =
        earlier ++ .begins Stage.measure.name measured ::
          (since ++ .process c limit o files :: rest) ∧
      BuiltOnce samplePlan.settings builtTool.homes earlier ∧
      ∃ fixture, samplePlan.settings.fixture.given = .ok fixture ∧
        FixtureHeld fixture samplePlan.settings.workdir builtTool since files := by
  have found : (fromMeasurement (builtTool.deedsUntil (run samplePlan builtTool).2)).any
      Deed.isProcess := by decide +kernel
  obtain ⟨earlier, measured, since, c, limit, o, files, rest, whole, told, none⟩ :=
    exists_gate found
  rw [told] at whole
  exact ⟨samplePlan_listening, earlier, measured, since, c, limit, o, files, rest, whole,
    run_gated samplePlan builtTool samplePlan_listening earlier measured since c limit o files rest
      whole none⟩

/-- The same world, where the fixture is stored over an open log file. -/
def loggedFixture : World := { builtTool with handlers := [.file ["w", "x.log"]] }

/-- The records that are written after the fixture was stored follow what was received. -/
theorem run_fixture_outgrown :
    ∃ earlier measured reply asked c limit o files rest,
      loggedFixture.deedsUntil (run samplePlan loggedFixture).2 =
        earlier ++ .begins Stage.measure.name measured ::
          ([.download (.text "http://h/x.log") reply asked] ++ .process c limit o files :: rest) ∧
      reply.received? = some "abc\n".toUTF8 ∧
      files.read (.parse "/w/x.log") ≠ .ok "abc\n".toUTF8 := by
  have found : (fromMeasurement (loggedFixture.deedsUntil (run samplePlan loggedFixture).2)).any
      Deed.isProcess := by decide +kernel
  have evaluated : (fromMeasurement (loggedFixture.deedsUntil (run samplePlan loggedFixture).2)).all
      (fun
        | .download _ reply _ => decide (reply.received? = some "abc\n".toUTF8)
        | .process _ _ _ files =>
          !decide ((files.read (.parse "/w/x.log")).toOption = some "abc\n".toUTF8)
        | _ => true) := by decide +kernel
  obtain ⟨earlier, measured, since, c, limit, o, files, rest, whole, told, none⟩ :=
    exists_gate found
  rw [told] at whole
  obtain ⟨ds, enacted, gated⟩ := run_opensGate samplePlan_listening loggedFixture
  rw [← enacted.deedsUntil_eq] at gated
  obtain ⟨-, fixture, ⟨⟩, ⟨reply, asked, content, name, rfl, -⟩⟩ :=
    gated earlier measured since c limit o files rest whole none
  rw [told] at evaluated
  simp only [List.all_cons, List.cons_append, List.nil_append, Bool.and_eq_true] at evaluated
  obtain ⟨-, received, outgrown, -⟩ := evaluated
  refine ⟨earlier, measured, reply, asked, c, limit, o, files, rest, whole,
    of_decide_eq_true received, ?_⟩
  intro read
  simp [read, Except.toOption] at outgrown

end Run

end BuildBench
