import BuildBench.Proofs.Run.DeedOrder
import BuildBench.Proofs.Run.StageHistories

/-!
# Failing fast

A process that cannot be started, does not end in time or exits with a code other than zero is the
last thing that a run does to the outside, and so is a download that fails. The report then has the
exit code of that process, if it is positive. The one exception is the question for the revision,
whose failure is no failure of the run.

The lemmas follow the stages of a run: each function of a stage keeps its order because the
functions that it calls do.
-/

namespace BuildBench

open BuildBench.Action

variable {α β : Type}

/-- A command with an environment of its own is not the question for the revision. -/
theorem Command.Means.needed {command : Value} {folder : Option String} {env : Environment}
    {w : World} {c : Program.Command} {files : Files}
    (means : Command.Means command folder (some env) w c files) : ¬ c.isProbe := by
  simp [Program.Command.isProbe, means.env]

/-! ## Preparation -/

namespace Checkout

/-- It is made with the kind and with no exit code of its own. -/
theorem setupFailure_isInternal (message : String) :
    (setupFailure message).IsInternal (· = .setup) := by
  rintro s ⟨⟩
  exact ⟨rfl, rfl⟩

/-- The commands of version control that these arguments make. -/
def IsGit (args : List Value) (folder : Option PathName) (c : Program.Command) : Prop :=
  ∃ texts, arguments args = .ok texts ∧
    c = { argv := "git" :: texts, folder := folder.map PathName.display }

/-- The words are computed, the command is logged, and then it is run with faults renamed to
failures of preparation. -/
theorem git_starts (args : List Value) (folder : Option PathName) :
    (git args folder).Starts (fun _ c _ => IsGit args folder c)
      (fun p : Program.Completed => some p.exitCode) (· = .setup) := by
  refine Starts.given (arguments_plain args) fun texts read => ?_
  refine Starts.after (log_onlyLogs _ _ _) (fun _ => ?_) fun _ _ _ _ _ => id
  refine Starts.renamed ((Program.run_starts _).mono ?_) fun f other => ?_
  · rintro w c files ⟨rfl, -⟩
    exact ⟨texts, read, rfl⟩
  · split
    · exact ⟨_, rfl, setupFailure_isInternal _⟩
    · exact ⟨_, rfl, Fault.isInternal_of_other other⟩

/-- A command of version control. -/
def command (words : List String) (folder : Option PathName) : Program.Command :=
  { argv := "git" :: words, folder := folder.map PathName.display }

/-- What comes of a command of version control. -/
def resultOf (o : Outcome) : Except Fault Program.Completed :=
  match o.launch with
  | .started => Program.completed o
  | .notFound => .error (setupFailure "git is not installed")
  | .refused reason => .error (reason.fault "git")
  | .interrupted => .error .interrupted

/-- Words that can be read lead to one start, whose outcome says what comes out. -/
theorem git_tells {args : List Value} {words : List String} (read : arguments args = .ok words)
    (folder : Option PathName) :
    (git args folder).Tells fun ds r =>
      ∃ o files, ds = [.process (command words folder) .null o files] ∧ r = resultOf o := by
  unfold git
  rw [read, ofResult_ok_bind]
  refine Tells.after (F := fun _ => False)
    ((record_untouched _).weaken fun _ _ => Untouched.enacted) (fun _ => False.elim) fun _ w => ?_
  obtain ⟨ds, enacted, o, files, rfl, came⟩ :=
    Program.run_unlimited ("git" :: words) (folder.map PathName.display) w
  rw [tryCatch_run]
  rcases ran : Program.run { argv := "git" :: words, folder := folder.map PathName.display } w
    with ⟨r, v⟩
  rw [ran] at enacted came
  dsimp only at enacted came ⊢
  unfold Program.verdict at came
  subst came
  have told (r : Except Fault Program.Completed) (same : r = resultOf o) : ∃ o' files',
      [Deed.process (command words folder) .null o files] =
        [.process (command words folder) .null o' files'] ∧ r = resultOf o' :=
    ⟨o, files, rfl, same⟩
  unfold resultOf at told
  rcases launches : o.launch with _ | _ | reason | _ <;> rw [launches] at told
  · change ∃ ds, _
    rcases Program.completed_cases o with ⟨p, known⟩ | ⟨reason, known⟩ <;>
      rw [known] at told <;> simp only [known, Program.runsOut, Value.isNull, if_true]
    · exact ⟨_, enacted, told _ rfl⟩
    · exact ⟨_, enacted, told _ rfl⟩
  · exact ⟨_, enacted, told _ rfl⟩
  · cases reason <;> exact ⟨_, enacted, told _ rfl⟩
  · exact ⟨_, enacted, told _ rfl⟩

/-- The question for the revision in a folder. -/
def probe (folder : PathName) : Program.Command := command ["rev-parse", "HEAD"] (some folder)

/-- It asks for the present revision and has nothing else to do. -/
theorem probe_isProbe (folder : PathName) : (probe folder).isProbe := by
  simp [probe, command, Program.Command.isProbe]

/-- A command of version control that gives nothing has failed its stage, if it is not there, or
nothing can be told of its process. -/
theorem resultOf_error {o : Outcome} {f : Fault} (failed : resultOf o = .error f) :
    o.launch = .notFound ∧ f = setupFailure "git is not installed" ∨
      Program.Breaks "git" .null o f := by
  unfold resultOf at failed
  split at failed
  · next launch => exact .inr (.unreadable launch rfl failed)
  · next launch => exact .inl ⟨launch, (Except.error.inj failed).symm⟩
  · next launch =>
    obtain rfl := Except.error.inj failed
    exact .inr (.refused launch)
  · next launch =>
    obtain rfl := Except.error.inj failed
    exact .inr (.interrupted launch)

/-- What a checkout makes of the answer to the question for the revision. -/
def revisionOf (o : Outcome) : Except Fault (Option String) :=
  match o.launch with
  | .started =>
    (Program.completed o).map fun p => if p.exitCode = 0 then some (Text.strip p.stdout) else none
  | .notFound => .ok none
  | .refused reason => .error (reason.fault "git")
  | .interrupted => .error .interrupted

/-- Only a process of which nothing can be told keeps the question from an answer. -/
theorem revisionOf_error {o : Outcome} {f : Fault} (failed : revisionOf o = .error f) :
    Program.Breaks "git" .null o f := by
  unfold revisionOf at failed
  split at failed
  · next launch =>
    rcases read : Program.completed o with g | p <;> rw [read] at failed <;> cases failed
    exact .unreadable launch rfl read
  · cases failed
  · next launch =>
    obtain rfl := Except.error.inj failed
    exact .refused launch
  · next launch =>
    obtain rfl := Except.error.inj failed
    exact .interrupted launch

/-- The failures of a stage are caught there and stand for no revision. -/
theorem revisionOf_plain (o : Outcome) : Plain (revisionOf o) :=
  fun _ failed => (revisionOf_error failed).isStage

/-- An ordinary process answers the question, if only by failing. -/
theorem revisionOf_ok {o : Outcome} (ordinary : o.IsOrdinary) : ∃ revision, revisionOf o = .ok revision := by
  unfold revisionOf
  obtain missing | ⟨started, p, read⟩ := ordinary
  · rw [missing]
    exact ⟨_, rfl⟩
  · rw [started, read]
    exact ⟨_, rfl⟩

/-- The question for the revision is asked once, and what comes of it is told by its process. -/
theorem headRevision_tells (folder : PathName) :
    (headRevision folder).Tells fun ds r =>
      ∃ o files, ds = [.process (probe folder) .null o files] ∧ r = revisionOf o := by
  intro w
  obtain ⟨ds, enacted, o, files, rfl, came⟩ :=
    git_tells (show arguments [.text "rev-parse", .text "HEAD"] = .ok ["rev-parse", "HEAD"] from rfl)
      (some folder) w
  unfold headRevision
  dsimp only
  rw [tryCatch_run, bind_run]
  rcases ran : git [.text "rev-parse", .text "HEAD"] (some folder) w with ⟨r, v⟩
  rw [ran] at enacted came
  dsimp only at enacted came
  unfold resultOf at came
  have told (r : Except Fault (Option String)) (same : r = revisionOf o) : ∃ o' files',
      [Deed.process (probe folder) .null o files] =
        [.process (probe folder) .null o' files'] ∧ r = revisionOf o' :=
    ⟨o, files, rfl, same⟩
  unfold revisionOf at told
  rcases launches : o.launch with _ | _ | reason | _ <;> rw [launches] at came told <;> subst came
  · rcases Program.completed_cases o with ⟨p, known⟩ | ⟨reason, known⟩ <;>
      rw [known] at told ⊢ <;> exact ⟨_, enacted, told _ rfl⟩
  · have logged := record_untouched (F := fun _ => False) ⟨.debug, sourceName "prepare",
      "Cannot read revision of " ++ folder.display ++ ": " ++ "git is not installed"⟩ v
    exact ⟨_, enacted.trans logged.1.enacted, told _ rfl⟩
  · cases reason <;> exact ⟨_, enacted, told _ rfl⟩
  · exact ⟨_, enacted, told _ rfl⟩

/-- A step that asks for something other than a revision. -/
def Step.IsNeeded (step : Step) : Prop :=
  ∃ name rest, step.args = .text name :: rest ∧ name ≠ "rev-parse"

/-- The name of the program is a text already, so only the other words can fail to be one. -/
theorem arguments_cons (name : String) (rest : List Value) :
    arguments (.text name :: rest) = (arguments rest).map (name :: ·) := by
  rw [arguments, List.mapM_cons]
  change (do let texts ← arguments rest; pure (name :: texts) : Except Fault (List String)) = _
  cases arguments rest <;> rfl

/-- The probe asks for a revision, and a step that is needed has another word in that place. -/
theorem not_isProbe_of_isNeeded {step : Step} {c : Program.Command} (needed : step.IsNeeded)
    (command : IsGit step.args step.folder c) : ¬ c.isProbe := by
  obtain ⟨name, rest, args, other⟩ := needed
  obtain ⟨texts, read, rfl⟩ := command
  rw [args, arguments_cons] at read
  cases others : arguments rest with
  | error f => simp [others, Except.map] at read
  | ok others' =>
    obtain rfl : name :: others' = texts := by simpa [others, Except.map] using read
    intro asked
    simp only [Program.Command.isProbe, Bool.and_eq_true, beq_iff_eq] at asked
    injection asked.1 with _ tail
    injection tail with head
    exact other head

/-- A script whose steps can be written down or not, but none of which asks for a revision. -/
structure Script.IsProper (s : Script) : Prop where
  plain : Plain s.steps
  needed : ∀ steps, s.steps = .ok steps → ∀ step ∈ steps, step.IsNeeded

/-- Once the depth is read all steps are known, and each of them begins with a word of its own. -/
theorem fetchScript_isProper (folder : PathName) (ref depth : Value) :
    (fetchScript folder ref depth).IsProper := by
  refine ⟨.bind (depthOption_plain depth) fun _ => .pure _, fun steps made => ?_⟩
  unfold fetchScript at made
  rcases read : depthOption depth with f | option <;> rw [read] at made <;> cases made
  simp [Step.IsNeeded]

/-- As for bringing a checkout up to date. -/
theorem cloneScript_isProper (repo : Value) (folder : PathName) (ref depth : Value) :
    (cloneScript repo folder ref depth).IsProper := by
  refine ⟨.bind (depthOption_plain depth) fun _ => .pure _, fun steps made => ?_⟩
  unfold cloneScript at made
  rcases read : depthOption depth with f | option <;> rw [read] at made <;> cases made
  simp [Step.IsNeeded]

/-- Nothing has to be read for these steps. -/
theorem commitScript_isProper (repo : Value) (folder : PathName) (commit : String) :
    (commitScript repo folder commit).IsProper := by
  refine ⟨.ok _, fun steps made => ?_⟩
  cases made
  simp [Step.IsNeeded]

/-- By which of the three scripts is chosen. -/
theorem script_isProper {repo ref depth : Value} {folder : PathName} {isCheckout : Bool}
    {s : Script} (chosen : script repo folder ref depth isCheckout = .ok s) : s.IsProper := by
  unfold script at chosen
  split at chosen
  · cases chosen
    exact fetchScript_isProper ..
  split at chosen
  · cases chosen
    exact cloneScript_isProper ..
  split at chosen <;> cases chosen
  split
  · exact commitScript_isProper ..
  · exact cloneScript_isProper ..

variable {digest : Value}

/-- By induction on the steps: each is one process, and a failure ends the script. -/
theorem runSteps_orderly (repo : Value) {steps : List Step}
    (needed : ∀ step ∈ steps, step.IsNeeded) :
    (runSteps repo steps).Tells (Orderly digest (· = .setup)) := by
  induction steps with
  | nil => exact Orderly.pure ()
  | cons step rest ih =>
    refine Orderly.succeeds (git_starts _ _)
      (fun _ c _ => not_isProbe_of_isNeeded (needed step (by simp))) (fun _ w c files => ?_)
      (fun _ => rfl) (fun _ => rfl) fun _ => ih fun other among => needed other (by simp [among])
    rintro ⟨texts, -, rfl⟩
    simp

/-- The steps of a script do not ask for the revision. -/
theorem runSteps_does (repo : Value) {steps : List Step}
    (needed : ∀ step ∈ steps, step.IsNeeded) : (runSteps repo steps).Does (¬ ·.isProbe) := by
  induction steps with
  | nil => exact Does.of_idle (F := fun _ => False) (.pure ())
  | cons step rest ih =>
    refine Does.bind ((git_starts step.args step.folder).does fun _ c _ _ _ =>
      not_isProbe_of_isNeeded (needed step (by simp))) fun p => ?_
    · split
      · exact ih fun other among => needed other (by simp [among])
      · exact Does.of_idle (F := fun _ => True) (.throw trivial)

/-- The question for the revision fails nothing. -/
theorem headRevision_orderly (folder : PathName) :
    (headRevision folder).Tells (Orderly digest (· = .setup)) := by
  refine (headRevision_tells folder).mono ?_
  rintro ds r ⟨o, files, rfl, told⟩
  have unfailing : ¬ (Deed.process (probe folder) .null o files).fails digest := by
    simp [Deed.fails, probe_isProbe]
  refine ⟨by simp [Deed.isAttempt], by simp [Deed.isWork, probe, command],
    List.pairwise_singleton .., by simp [unfailing], ?_⟩
  rintro s rfl
  cases revisionOf_plain o _ told.symm

/-- Without a repository only the revision is asked for. With one a script is run first, and the
question comes at the end. -/
theorem checkOut_orderly (repo : Value) (folder : PathName) (ref depth : Value) :
    (checkOut repo folder ref depth).Tells (Orderly digest (· = .setup)) := by
  unfold checkOut
  split
  · refine Orderly.after (Disk.isFolder_quiet _).stage fun there => ?_
    split
    · exact headRevision_orderly folder
    · exact Orderly.of_quiet (.throw (setupFailure_isInternal _))
  · refine Orderly.after (Disk.exists_quiet _).stage fun isCheckout => ?_
    refine Orderly.given (script_plain _ _ _ _ _) fun s chosen => ?_
    refine Orderly.after (log_quiet _ _ _).stage fun _ => ?_
    have proper := script_isProper chosen
    refine Orderly.given proper.plain fun steps made => ?_
    refine Orderly.bind (runSteps_orderly repo (proper.needed steps made)) fun _ => ?_
    refine Orderly.bind (headRevision_orderly folder) fun revision => ?_
    exact Orderly.after (log_quiet _ _ _).stage fun _ => Orderly.pure _

/-- The probe is answered with a revision or with none, and never with the failure of a stage. -/
theorem headRevision_fails (sort : StageFailure → Prop) (folder : PathName) :
    (headRevision folder).Tells (FailsOnly sort) := by
  refine (headRevision_tells folder).mono ?_
  rintro ds r ⟨o, files, -, told⟩ s rfl
  cases revisionOf_plain o _ told.symm

/-- A checkout does not fail once it comes to asking for the revision. -/
theorem checkOut_afterProbe (sort : StageFailure → Prop) (repo : Value) (folder : PathName)
    (ref depth : Value) : (checkOut repo folder ref depth).Tells (AfterProbe sort) := by
  unfold checkOut
  split
  · refine AfterProbe.after (Disk.isFolder_quiet _) fun there => ?_
    split
    · exact (headRevision_fails sort folder).mono fun _ _ only _ => only
    · exact AfterProbe.of_does (Does.of_idle (F := fun _ => True) (.throw trivial))
  · refine AfterProbe.after (Disk.exists_quiet _) fun isCheckout => ?_
    refine Tells.given (fun _ _ asked => by simp at asked) fun s chosen => ?_
    have proper := script_isProper chosen
    refine AfterProbe.after (log_quiet _ _ _) fun _ => ?_
    refine Tells.given (fun _ _ asked => by simp at asked) fun steps made => ?_
    refine AfterProbe.bind (AfterProbe.of_does (runSteps_does repo (proper.needed steps made))) fun _ => ?_
    refine FailsOnly.bind (headRevision_fails sort folder) fun revision => ?_
    exact FailsOnly.of_quiet (.bind (log_quiet _ _ _) fun _ => .pure _)

end Checkout

/-- A failure to restore some paths from a cache, if there is one. -/
def RestoreFails (store : Option CacheStore) (s : StageFailure) : Prop :=
  ∃ cache key paths w v, store = some cache ∧ cache.restore key paths w = (.error (.stage s), v)

/-- Folders are made, and nothing is started for that. -/
theorem makeRoom_quiet (repo : Value) (folder : PathName) : Quiet (makeRoom repo folder) := by
  unfold makeRoom
  split
  · exact Disk.makeFolders_quiet _
  · exact .pure _

/-- Without a cache there is nothing to do, and with one it is a restore. -/
theorem restoreCache_quiet (store : Option CacheStore) (key : String) (paths : List PathName) :
    QuietStage (· = .setup) (restoreCache store key paths) := by
  cases store with
  | none => exact .pure _
  | some store => exact store.restore_quiet key paths

/-- Without a cache nothing fails, and with one it is the restore that does. -/
theorem restoreCache_fails (store : Option CacheStore) (key : String) (paths : List PathName) :
    (restoreCache store key paths).Tells (FailsOnly (RestoreFails store)) := by
  cases store with
  | none => exact FailsOnly.of_quiet (.pure _)
  | some cache =>
    intro w
    rw [show restoreCache (some cache) key paths = cache.restore key paths from rfl]
    have idle := (cache.restore_quiet key paths w).1.enacted
    rcases ran : cache.restore key paths w with ⟨r, v⟩
    rw [ran] at idle
    refine ⟨[], idle, ?_⟩
    rintro s rfl
    exact ⟨cache, key, paths, w, v, rfl, ran⟩

/-- A checkout, between questions and changes to files that start nothing. -/
theorem prepare_orderly {digest : Value} (s : Settings) (store : Option CacheStore) :
    (prepare s store).Tells (Orderly digest (· = .setup)) := by
  refine Orderly.given (Section.given_plain _) fun source _ => ?_
  refine Orderly.after (makeRoom_quiet _ _).stage fun _ => ?_
  refine Orderly.bind (Checkout.checkOut_orderly _ _ _ _) fun revision => ?_
  refine Orderly.after (workdirKey_quiet s).stage fun key => ?_
  refine Orderly.after Disk.homes_asks.quiet.stage fun homes => ?_
  refine Orderly.given (Section.given_plain _) fun cache _ => ?_
  refine Orderly.given (.mapM fun path => Cache.place_plain _ _ _) fun paths _ => ?_
  refine Orderly.after (log_quiet _ _ _).stage fun _ => ?_
  exact Orderly.after (restoreCache_quiet _ _ _) fun hit => Orderly.pure _

/-- Once the revision was asked for, preparation only fails to restore the cache. -/
theorem prepare_afterProbe (s : Settings) (store : Option CacheStore) :
    (prepare s store).Tells (AfterProbe (RestoreFails store)) := by
  refine Tells.given (fun _ _ asked => by simp at asked) fun source _ => ?_
  refine AfterProbe.after (makeRoom_quiet _ _) fun _ => ?_
  refine AfterProbe.bind (Checkout.checkOut_afterProbe _ _ _ _ _) fun revision => ?_
  refine FailsOnly.after (workdirKey_quiet s) fun key => ?_
  refine FailsOnly.after Disk.homes_asks.quiet fun homes => ?_
  refine FailsOnly.after (.ofResult (Section.given_plain _)) fun cache => ?_
  refine FailsOnly.after (.ofResult (Plain.mapM fun _ => Cache.place_plain _ _ _)) fun paths => ?_
  refine FailsOnly.after (log_quiet _ _ _) fun _ => ?_
  exact FailsOnly.bind (restoreCache_fails _ _ _) fun hit => FailsOnly.of_quiet (.pure _)

/-! ## Installation -/

namespace Installation

variable {digest : Value}

/-- It is made with the kind and the exit code one. -/
theorem failure_isInternal (message output : String) :
    (failure message 1 output).IsInternal (· = .setup) := by
  rintro s ⟨⟩
  exact ⟨rfl, rfl⟩

/-- One process: an exit code other than zero becomes the failure, all else is passed on. -/
theorem runInstaller_orderly (command : Value) (what : String) (install : InstallSettings)
    (env : Environment) :
    (runInstaller command what install env).Tells (Orderly digest (· = .setup)) := by
  refine Orderly.succeeds (Starts.renamed (Command.run_starts _ _ _ _) fun f other => ?_)
    (fun _ _ _ means => means.needed) (fun _ _ _ _ means => by simp [means.folder])
    (fun _ => rfl) (fun _ => rfl) fun _ => Orderly.pure _
  split
  · exact ⟨_, rfl, failure_isInternal _ _⟩
  · exact ⟨_, rfl, failure_isInternal _ _⟩
  · exact ⟨_, rfl, Fault.isInternal_of_other other⟩

/-- Without a bootstrap command that is the failure. With one it is one process, and then the
installer is looked for again. -/
theorem bootstrap_orderly (install : InstallSettings) (env : Environment) :
    (bootstrap install env).Tells (Orderly digest (· = .setup)) := by
  unfold bootstrap
  dsimp only
  split
  · exact Orderly.of_quiet (.throw (failure_isInternal _ _))
  · refine Orderly.after (log_quiet _ _ _).stage fun _ => ?_
    refine Orderly.bind (runInstaller_orderly _ _ _ _) fun output => ?_
    refine Orderly.after (Disk.which_asks _ _).quiet.stage fun path => ?_
    split
    · exact Orderly.of_quiet (.throw (failure_isInternal _ _))
    · exact Orderly.pure _

/-- The installer is looked for, and only if it is missing its bootstrap is run. -/
theorem ensureInstaller_orderly (install : InstallSettings) (env : Environment) (checked : Bool) :
    (ensureInstaller install env checked).Tells (Orderly digest (· = .setup)) := by
  unfold ensureInstaller
  split
  · refine Orderly.after (Disk.which_asks _ _).quiet.stage fun path => ?_
    split
    · exact bootstrap_orderly install env
    · exact Orderly.pure _
  · exact Orderly.pure _

/-- One process, after its command is computed and before its output is logged. -/
theorem installPackage_orderly (install : InstallSettings) (env : Environment) (package : Value) :
    (installPackage install env package).Tells (Orderly digest (· = .setup)) := by
  refine Orderly.after (log_quiet _ _ _).stage fun _ => ?_
  refine Orderly.given (installCommand_plain _ _) fun command _ => ?_
  refine Orderly.bind (runInstaller_orderly _ _ _ _) fun output => ?_
  refine Orderly.after (Disk.which_asks _ _).quiet.stage fun path => ?_
  split
  · exact Orderly.after (log_quiet _ _ _).stage fun _ => Orderly.pure _
  · exact Orderly.of_quiet (.throw (failure_isInternal _ _))

/-- By induction on the packages, whether the installer was looked for already or not. -/
theorem installAll_orderly (install : InstallSettings) (env : Environment) (checked : Bool)
    (packages : List Value) :
    (installAll install env checked packages).Tells (Orderly digest (· = .setup)) := by
  induction packages generalizing checked with
  | nil => exact Orderly.pure _
  | cons package rest ih =>
    refine Orderly.after (Disk.which_asks _ _).quiet.stage fun path => ?_
    split
    · refine Orderly.after (log_quiet _ _ _).stage fun _ => ?_
      exact Orderly.bind (ih checked) fun _ => Orderly.pure _
    · refine Orderly.bind (ensureInstaller_orderly install env checked) fun _ => ?_
      refine Orderly.bind (installPackage_orderly install env package) fun tool => ?_
      exact Orderly.bind (ih true) fun _ => Orderly.pure _

end Installation

/-- It is read off the plan and its settings. -/
theorem skipsInstall_asks (plan : Run.Plan) : Asks (Run.skipsInstall plan) := by
  unfold Run.skipsInstall
  split
  · exact .pure _
  · exact .bind (.ofResult (Section.given_plain _)) fun _ => .pure _

/-- A stage that is skipped writes one record. All others install one package after the other. -/
theorem installStage_orderly (digest : Value) (plan : Run.Plan) (env : Environment) :
    (Run.installStage plan env).Tells (Orderly digest (· = .setup)) := by
  refine Orderly.after (skipsInstall_asks plan).quiet.stage fun skipped => ?_
  split
  · exact Orderly.of_quiet (log_quiet _ _ _).stage
  · refine Orderly.given (Section.given_plain _) fun install _ => ?_
    exact Orderly.bind (Installation.installAll_orderly _ _ _ _) fun _ => Orderly.pure _

/-! ## Building -/

namespace Artifact

variable {digest : Value}

/-- It is made with the kind and the exit code one. -/
theorem failure_isInternal (message output : String) :
    (failure message 1 output).IsInternal (· = .build) := by
  rintro s ⟨⟩
  exact ⟨rfl, rfl⟩

/-- A link that leads nowhere takes its place as well, so two questions are asked. -/
theorem isTaken_asks (path : PathName) : Asks (isTaken path) := by
  refine .bind (Disk.ask_asks _ _) fun there => ?_
  split
  · exact .pure _
  · exact Disk.ask_asks _ _

/-- A file is unlinked and a folder is not, which is then the failure. No process is started for
either. -/
theorem removeStale_quiet (artifact : PathName) : QuietStage (· = .build) (removeStale artifact) := by
  refine .bind (isTaken_asks _).quiet.stage fun taken => ?_
  split
  · have unlinked : Quiet (Disk.unlink artifact) := Disk.change_quiet _ _
    refine .bind (log_quiet _ _ _).stage fun _ => .tryCatch unlinked fun f other => ?_
    split
    · exact .throw (failure_isInternal _ _)
    · exact .throw (Fault.isInternal_of_other other)
  · exact .pure _

/-- One process, which fails the build if it does not come out well. -/
theorem runBuild_orderly (settings : BuildSettings) (workdir : PathName) (env : Environment) :
    (runBuild settings workdir env).Tells (Orderly digest (· = .build)) := by
  refine Orderly.succeeds (Starts.renamed (Command.run_starts _ _ _ _) fun f other => ?_)
    (fun _ _ _ means => means.needed) (fun only => nomatch only _ rfl) (fun _ => rfl) (fun _ => rfl)
    fun _ => Orderly.pure _
  split
  · exact ⟨_, rfl, failure_isInternal _ _⟩
  · exact ⟨_, rfl, failure_isInternal _ _⟩
  · exact ⟨_, rfl, Fault.isInternal_of_other other⟩

/-- Two questions, and a failure for each answer of no. -/
theorem checkArtifact_quiet (artifact : PathName) (output : String) :
    QuietStage (· = .build) (checkArtifact artifact output) := by
  refine .bind (Disk.isFile_quiet _).stage fun there => ?_
  split
  · refine .bind (Disk.isExecutable_asks _).quiet.stage fun executable => ?_
    split
    · exact .throw (failure_isInternal _ _)
    · exact .pure _
  · exact .throw (failure_isInternal _ _)

/-- One record for each of the variables, and one for the command. -/
theorem announce_onlyLogs (settings : BuildSettings) : OnlyLogs (announce settings) :=
  .bind (.forM fun _ => log_onlyLogs _ _ _) fun _ => log_onlyLogs _ _ _

/-- What is asked and logged after the build starts nothing. -/
theorem finish_quiet (artifact : PathName) (seconds : Float) (output : String) :
    QuietStage (· = .build) (finish artifact seconds output) :=
  .bind (checkArtifact_quiet _ _) fun _ => .bind (logOutput_quiet _ _ _).stage fun _ =>
    .bind (log_quiet _ _ _).stage fun _ => .pure _

/-- One process, between the removal of what stood there before and the check of what stands there
now. -/
theorem build_orderly (sec : Section BuildSettings) (artifact workdir : PathName)
    (env : Environment) :
    (build sec artifact workdir env).Tells (Orderly digest (· = .build)) := by
  refine Orderly.after (removeStale_quiet _) fun _ => ?_
  refine Orderly.given (Section.given_plain _) fun settings _ => ?_
  refine Orderly.after (announce_onlyLogs _).quiet.stage fun _ => ?_
  refine Orderly.after .get fun before => ?_
  refine Orderly.bind (runBuild_orderly _ _ _) fun output => ?_
  refine Orderly.after .get fun after => ?_
  exact Orderly.of_quiet (finish_quiet _ _ _)

end Artifact

/-- The place of the artifact is computed, and then it is built. -/
theorem buildStage_orderly (digest : Value) (s : Settings) (workdir : PathName)
    (env : Environment) :
    (Run.buildStage s workdir env).Tells (Orderly digest (· = .build)) := by
  refine Orderly.after Disk.homes_asks.quiet.stage fun homes => ?_
  refine Orderly.given (Settings.artifactPath_plain _ _) fun artifact _ => ?_
  exact Artifact.build_orderly _ _ _ _

/-! ## Measurement -/

/-- By how the download ended: unasked, refused, or kept. -/
theorem fetch_orderly (url : Value) (folder : PathName) (timeout sha256 : Value) :
    (Fixture.fetch url folder timeout sha256).Tells (Orderly sha256 (· = .fixture)) := by
  refine Enacts.mono (Fixture.fetch_fetches _ _ _ _) fun w ds r v fetches => ?_
  cases fetches with
  | unasked internal => exact .of_internal internal
  | fetched named received wanted holds =>
    exact ⟨by simp [Deed.isAttempt], (fun only => nomatch only _ rfl), List.pairwise_singleton ..,
      by simp [Deed.fails, received, wanted], by simp⟩
  | failed internal =>
    refine ⟨by simp [Deed.isAttempt], (fun only => nomatch only _ rfl), List.pairwise_singleton ..,
      by simp, fun s same => ?_⟩
    obtain ⟨kind, code⟩ := internal s (by simpa using same)
    refine ⟨kind, ?_⟩
    rw [code, failureCode, List.find?_singleton]
    split <;> rfl

namespace Timing

variable {digest : Value}

/-- It is made with the kind and with no exit code of its own. -/
theorem measureFailure_isInternal (message : String) :
    (measureFailure message).IsInternal (· = .measure) := by
  rintro s ⟨⟩
  exact ⟨rfl, rfl⟩

/-- A repetition with exit code zero was not late. -/
theorem checkRepetition_ok {r : Repetition} (limit : Value) (number : Nat)
    (success : r.exit? = some 0) : checkRepetition r limit number = .ok () := by
  unfold Repetition.exit? at success
  split at success
  · cases success
  · next inTime => simp_all [checkRepetition]

/-- A repetition that did not succeed is refused, with its exit code if it has one. -/
theorem checkRepetition_refuses {r : Repetition} (limit : Value) (number : Nat)
    (refused : r.exit? ≠ some 0) :
    ∃ s, checkRepetition r limit number = .error (.stage s) ∧ s.kind = .measure ∧
      s.exitCode = r.exit?.getD 1 := by
  unfold Repetition.exit? at refused ⊢
  unfold checkRepetition
  split at refused
  · next late => exact ⟨_, if_pos late, rfl, by simp [late]⟩
  · next inTime =>
    have failed : r.exitCode ≠ 0 := by simpa using refused
    rw [if_neg inTime, if_pos failed]
    exact ⟨_, rfl, rfl, by simp [inTime]⟩

/-- One process, whose repetition is refused exactly if it was late or has another exit code than
zero. -/
theorem successful_orderly (command : Value) (folder : PathName) (env : Environment)
    (limit : Value) (isWarmup : Bool) (number : Nat) :
    (successful command folder env limit isWarmup number).Tells
      (Orderly digest (· = .measure)) := by
  refine Orderly.checked (Starts.renamed (repetition_starts _ _ _ _) fun f other => ?_)
    (fun _ _ _ means => means.needed) (fun only => nomatch only _ rfl) (fun p refused => ?_)
    fun p accepted => ?_
  · split
    · exact ⟨_, rfl, measureFailure_isInternal _⟩
    · exact ⟨_, rfl, Fault.isInternal_of_other other⟩
  · obtain ⟨s, error, kind, code⟩ := checkRepetition_refuses limit number refused
    rw [error, ← code]
    exact Orderly.refuses_throw kind
  · rw [checkRepetition_ok limit number accepted, ofResult_ok_bind]
    exact Orderly.after (log_quiet _ _ _).stage fun _ => Orderly.pure _

/-- By induction on how many are left: a repetition that is refused is the last one. -/
theorem repetitions_orderly (command : Value) (folder : PathName) (env : Environment)
    (limit : Value) (left warmup done : Nat) :
    (repetitions command folder env limit left warmup done).Tells
      (Orderly digest (· = .measure)) := by
  induction left generalizing warmup done with
  | zero => exact Orderly.pure _
  | succ left ih =>
    refine Orderly.bind (successful_orderly _ _ _ _ _ _) fun r => ?_
    refine Orderly.bind (ih _ _) fun rest => Orderly.pure _

/-- Two numbers are computed, the repetitions follow, and their summary starts nothing. -/
theorem measureRepeatedly_orderly (command : Value) (folder : PathName) (env : Environment)
    (warmup runs limit : Value) :
    (measureRepeatedly command folder env warmup runs limit).Tells
      (Orderly digest (· = .measure)) := by
  refine Orderly.given (countOf_plain _ _) fun warmup _ => ?_
  refine Orderly.given (countOf_plain _ _) fun runs _ => ?_
  refine Orderly.bind (repetitions_orderly _ _ _ _ _ _ _) fun measured => ?_
  refine Orderly.given (summaryOf_plain _ _) fun summary _ => ?_
  exact Orderly.given (layOut_plain _ _) fun _ _ => Orderly.pure _

/-- The report is read and understood. Some faults of that are caught, and none of them is the
failure of a stage. -/
theorem readReport_quiet (path : PathName) : Quiet (readReport path) := by
  refine .tryCatch (.bind (Disk.readText_asks _).quiet fun text =>
    .bind (.ofResult (readDocument_plain _)) fun document =>
    .bind (.ofResult (summaryOfExport_plain _)) fun _ => .pure _) fun f other => ?_
  split
  · exact .bind (log_quiet _ _ _) fun _ => .pure _
  · exact .throw other

/-- A file is made where nothing stands. A place that is taken or cannot be reached is a fault of
the system. -/
theorem makeReportFile_quiet : Quiet makeReportFile := by
  intro w
  unfold makeReportFile
  rw [bind_run, get_run]
  dsimp only
  rcases w.files.place false (w.temporary.child ("binbench-hyperfine-" ++ w.unique ++ ".json"))
    with e | ⟨location, _ | entry⟩
  · exact Keeps.throw (R := Untouched) (F := fun f => f.isStage = false) rfl w
  · exact ⟨⟨⟨rfl, rfl, rfl, fun _ opened => opened⟩, rfl, rfl, rfl⟩, fun _ failed => by
      simp [bind_run, set_run, pure_run] at failed⟩
  · exact Keeps.throw (R := Untouched) (F := fun f => f.isStage = false) rfl w

/-- One process; its report is read when it has ended. -/
theorem timeWithReport_orderly (report : PathName) (command : Value) (folder : PathName)
    (env : Environment) (warmup runs : Value) :
    (timeWithReport report command folder env warmup runs).Tells
      (Orderly digest (· = .measure)) := by
  refine Orderly.given (timerCommand_plain _ _ _ _ _) fun argv _ => ?_
  refine Orderly.succeeds (Starts.renamed (Command.run_starts _ _ _ _) fun f other => ?_)
    (fun _ _ _ means => means.needed) (fun only => nomatch only _ rfl) (fun _ => rfl) (fun _ => rfl)
    fun _ => ?_
  · split
    · exact ⟨_, rfl, measureFailure_isInternal _⟩
    · exact ⟨_, rfl, Fault.isInternal_of_other other⟩
  · refine Orderly.after (logOutput_quiet _ _ _).stage fun _ => ?_
    exact Orderly.after (readReport_quiet _).stage fun _ => Orderly.pure _

/-- The report file is made before and taken away after, whatever happened. -/
theorem measureExternally_orderly (command : Value) (folder : PathName) (env : Environment)
    (warmup runs : Value) :
    (measureExternally command folder env warmup runs).Tells (Orderly digest (· = .measure)) := by
  refine Orderly.after makeReportFile_quiet.stage fun report => ?_
  exact Orderly.thenAlways (timeWithReport_orderly _ _ _ _ _ _) (Disk.unlinkIfThere_quiet _)

/-- By which timer is to be used: each of them is orderly. -/
theorem measure_orderly (benchmark : BenchmarkSettings) (command : Value) (folder : PathName)
    (env : Environment) :
    (measure benchmark command folder env).Tells (Orderly digest (· = .measure)) := by
  refine Orderly.after (log_quiet _ _ _).stage fun _ => ?_
  split
  · exact Orderly.bind (measureRepeatedly_orderly _ _ _ _ _ _) fun _ => Orderly.pure _
  · split
    · exact measureExternally_orderly _ _ _ _ _
    · refine Orderly.given (Value.textOf_plain _) fun _ _ => ?_
      exact Orderly.of_quiet (.throw (Fault.isInternal_of_other rfl))

end Timing

namespace Measurement

/-- Two real paths are asked for, and a fault of asking is caught or passed on. -/
theorem displayPath_asks (path workdir : PathName) : Asks (displayPath path workdir) := by
  refine .bind (.tryCatch (.bind (Disk.realPath_asks _) fun _ =>
    .bind (Disk.realPath_asks _) fun _ => .pure _) fun f other => ?_) fun _ => .pure _
  split
  · exact .pure _
  · exact .throw other

/-- The two paths are made into words and the template is expanded with them. -/
theorem benchmarkCommand_asks (template : Value) (binary fixture workdir : PathName) :
    Asks (benchmarkCommand template binary fixture workdir) :=
  .bind (displayPath_asks _ _) fun _ => .bind (displayPath_asks _ _) fun _ =>
    .bind (.ofResult (templateText_plain _)) fun _ =>
    .ofResult (Text.Template.expand_plain _ _)

/-- The size is asked for, and what goes wrong becomes the failure of a measurement. -/
theorem measureSize_quiet (path : PathName) : QuietStage (· = .measure) (measureSize path) := by
  refine .tryCatch (Disk.size_asks _).quiet fun f other => ?_
  split
  · exact .throw (Timing.measureFailure_isInternal _)
  · exact .throw (Fault.isInternal_of_other other)

/-- A timing, and then a question about a size. -/
theorem takeOn_orderly {digest : Value} (file artifact : PathName)
    (sec : Section BenchmarkSettings) (workdir : PathName) (env : Environment) :
    (takeOn file artifact sec workdir env).Tells (Orderly digest (· = .measure)) := by
  refine Orderly.given (Section.given_plain _) fun benchmark _ => ?_
  refine Orderly.after (benchmarkCommand_asks _ _ _ _).quiet.stage fun command => ?_
  refine Orderly.bind (Timing.measure_orderly _ _ _ _) fun timing => ?_
  refine Orderly.after (measureSize_quiet artifact) fun size => ?_
  exact Orderly.after (log_quiet _ _ _).stage fun _ => Orderly.pure _

/-- A download before a timing: failures are of either kind. -/
theorem take_orderly (artifact : PathName) (fixture : FixtureSettings)
    (sec : Section BenchmarkSettings) (workdir : PathName) (env : Environment) :
    (take artifact fixture sec workdir env).Tells
      (Orderly fixture.sha256 fun kind => kind = .fixture ∨ kind = .measure) := by
  have fetched := fetch_orderly fixture.url workdir fixture.timeout fixture.sha256
  refine Orderly.bind (fetched.mono fun _ _ orderly => orderly.mono fun _ => .inl) fun file => ?_
  exact (takeOn_orderly _ _ _ _ _).mono fun _ _ orderly => orderly.mono fun _ => .inr

end Measurement

/-! ## Stages -/

namespace Run

/-- The digest that the fixture of a run has to have. -/
def Plan.digest (plan : Plan) : Value :=
  match plan.settings.fixture.given with
  | .ok fixture => fixture.sha256
  | .error _ => .null

/-- What a stage says in the report, and what it hands on. -/
structure Staged (digest : Value) (ds : List Deed)
    (r : Except Fault (StageResult × Option α)) : Prop where
  stops : ds.Pairwise fun d e => d.fails digest → ¬ e.isAttempt
  passed : ∀ result x, r = .ok (result, some x) → result.ok ∧ ∀ d ∈ ds, ¬ d.fails digest
  failed : ∀ result, r = .ok (result, none) →
    result.ok = false ∧ shownCode result.exitCode = failureCode digest ds

/-- The bounds of a stage do not fail and do nothing. -/
theorem stops_bounded {digest : Value} {stage : String} {first last : Files} {inner : List Deed}
    (stops : inner.Pairwise fun d e => d.fails digest → ¬ e.isAttempt) :
    (Deed.begins stage first :: inner ++ [Deed.ends stage last]).Pairwise
      fun d e => d.fails digest → ¬ e.isAttempt := by
  rw [List.cons_append, List.pairwise_cons, List.pairwise_append]
  refine ⟨fun _ _ failed => by simp [Deed.fails] at failed, stops, List.pairwise_singleton ..,
    fun _ _ e among => ?_⟩
  obtain rfl := List.mem_singleton.mp among
  simp [Deed.isAttempt]

/-- The bounds of a stage fail nobody, so the first failure is one of the inner deeds. -/
theorem failureCode_bounded (digest : Value) (stage : String) (first last : Files)
    (inner : List Deed) :
    failureCode digest (Deed.begins stage first :: inner ++ [Deed.ends stage last]) =
      failureCode digest inner := by
  simp [failureCode, Deed.fails]

/-- The bounds add two deeds that do not fail, and what the stage reports follows from what its
action told. -/
theorem stage_staged {digest : Value} {kinds : FailureKind → Prop} {plan : Plan}
    (listening : plan.Listening) (name : Stage) {action : Action α}
    (orderly : action.Tells (Orderly digest kinds)) :
    (stage plan name action).Tells (Staged digest) := by
  refine Enacts.mono (stage_bounded listening name orderly) ?_
  rintro w ds r v ⟨u, inner, result, last, holds, -, concludes, rfl⟩
  refine ⟨stops_bounded holds.stops, ?_, ?_⟩
  · rintro reported x rfl
    obtain ⟨rfl, seconds, rfl⟩ := concludes
    refine ⟨rfl, fun d among => ?_⟩
    have passed := holds.goes x rfl
    simp only [List.cons_append, List.mem_cons, List.mem_append, List.not_mem_nil, or_false]
      at among
    rcases among with rfl | here | rfl
    · simp [Deed.fails]
    · exact passed d here
    · simp [Deed.fails]
  · rintro reported rfl
    obtain ⟨s, seconds, rfl, rfl⟩ := concludes
    exact ⟨rfl, by rw [failureCode_bounded]; exact (holds.reports s rfl).2⟩

/-! ## Reports -/

/-- No stage failed, so the exit code tells whether the report as a whole is all right. -/
theorem exitCode_of_passed {report : Report} (passed : ∀ result ∈ report.stages, result.ok) :
    report.exitCode = if report.ok then 0 else 1 := by
  have none : report.failedStage = none := by simpa [Report.failedStage] using passed
  rw [Report.exitCode, none]

/-- The stages are searched from the first one on, and those before this one passed. -/
theorem failedStage_of_failed {report : Report} {before : List StageResult} {failed : StageResult}
    (stages : report.stages = before ++ [failed]) (passed : ∀ result ∈ before, result.ok)
    (refused : failed.ok = false) : report.failedStage = some failed := by
  have none : before.find? (!·.ok) = none := by simpa using passed
  simp [Report.failedStage, stages, List.find?_append, none, refused]

/-- A stage that is not all right is among those of the report. -/
theorem not_ok_of_failed {report : Report} {failed : StageResult}
    (found : report.failedStage = some failed) : report.ok = false := by
  have among := List.mem_of_find?_eq_some found
  have refused := List.find?_some found
  simp only [Report.ok, Bool.and_eq_false_iff]
  exact .inr (by simpa using ⟨failed, among, by simpa using refused⟩)

/-- The exit code of a run is that of the deed that failed. -/
structure Reported (digest : Value) (ds : List Deed) (r : Except Fault Report) : Prop where
  stops : ds.Pairwise fun d e => d.fails digest → ¬ e.isAttempt
  shown : ∀ report, r = .ok report → report.exitCode =
    match ds.find? (·.fails digest) with
    | some d => d.code
    | none => if report.ok then 0 else 1

namespace Reported

variable {digest : Value}

/-- Nothing was done yet, so whatever is reported is reported about the second action. -/
theorem after {a : Action α} {next : α → Action Report}
    (quiet : Keeps Untouched (fun _ => True) a)
    (second : ∀ x, (next x).Tells (Reported digest)) : (a >>= next).Tells (Reported digest) :=
  Tells.after (quiet.weaken fun _ _ => Untouched.enacted) (fun _ _ => ⟨.nil, by simp⟩) second

/-- Nothing is done, and no stage of the report failed. -/
theorem passed {report : Report} (all : ∀ result ∈ report.stages, result.ok) :
    (pure report : Action Report).Tells (Reported digest) := by
  refine fun w => ⟨[], Law.refl (R := Idle) w, .nil, ?_⟩
  rintro _ ⟨⟩
  exact exitCode_of_passed all

/-- A stage that fails ends the run, and one that passes lets it go on. -/
theorem stage {kinds : FailureKind → Prop} {plan : Plan} {name : Stage} {action : Action α}
    {next : StageResult × Option α → Action Report} (listening : plan.Listening)
    (orderly : action.Tells (Orderly digest kinds))
    (failed : ∀ result, result.ok = false →
      ∃ report, next (result, none) = pure report ∧ report.failedStage = some result)
    (passed : ∀ result x, result.ok → (next (result, some x)).Tells (Reported digest)) :
    (Run.stage plan name action >>= next).Tells (Reported digest) := by
  refine Enacts.chain (stage_staged listening name orderly) ?_ ?_
  · rintro w ds f v staged
    exact ⟨staged.stops, by simp⟩
  · rintro w ds ⟨result, _ | x⟩ u staged
    · obtain ⟨refused, code⟩ := staged.failed result rfl
      obtain ⟨report, same, found⟩ := failed result refused
      rw [same]
      refine ⟨[], Law.refl (R := Idle) u, by simpa using staged.stops, ?_⟩
      rintro _ ⟨⟩
      rw [Report.exitCode, found, not_ok_of_failed found, List.append_nil]
      refine code.trans ?_
      rw [failureCode]
      cases ds.find? (·.fails digest) <;> rfl
    · obtain ⟨accepted, none⟩ := staged.passed result x rfl
      obtain ⟨more, enacted, reported⟩ := passed result x accepted u
      refine ⟨more, enacted, List.pairwise_append.mpr ⟨staged.stops, reported.stops,
        fun d among _ _ failed => absurd failed (none d among)⟩, ?_⟩
      rw [List.find?_append, List.find?_eq_none.mpr none, Option.none_or]
      exact reported.shown

end Reported

/-- The digest that is wanted is the one of the plan, so the measurement is orderly with respect to
it. -/
theorem measureStage_orderly (plan : Plan) (artifact workdir : PathName) (env : Environment) :
    (measureStage plan.settings artifact workdir env).Tells
      (Orderly plan.digest fun kind => kind = .fixture ∨ kind = .measure) := by
  refine Orderly.given (Section.given_plain _) fun fixture read => ?_
  have same : plan.digest = fixture.sha256 := by rw [Plan.digest, read]
  rw [same]
  exact Measurement.take_orderly _ _ _ _ _

/-- Stage by stage: each of them passed, or is the last one and failed. -/
theorem fromInstall_reported {plan : Plan} (listening : plan.Listening) (env : Environment)
    {report : Report} (passed : ∀ result ∈ report.stages, result.ok) (prepared : Prepared) :
    (fromInstall plan env report prepared).Tells (Reported plan.digest) := by
  have extended : ∀ {stages : List StageResult} {result : StageResult},
      (∀ r ∈ stages, r.ok) → result.ok → ∀ r ∈ stages ++ [result], r.ok := by
    intro stages result all accepted r among
    rcases List.mem_append.mp among with here | there
    · exact all r here
    · exact List.mem_singleton.mp there ▸ accepted
  refine Reported.stage listening (installStage_orderly _ plan env)
    (fun installed refused => ⟨_, rfl, failedStage_of_failed rfl passed refused⟩)
    fun installed _ accepted => ?_
  have passed := extended passed accepted
  refine Reported.stage listening (buildStage_orderly _ _ _ _)
    (fun built refused => ⟨_, rfl, failedStage_of_failed rfl passed refused⟩)
    fun built product accepted => ?_
  have passed := extended passed accepted
  refine Reported.stage listening (measureStage_orderly plan _ _ _)
    (fun measured refused => ⟨_, rfl, failedStage_of_failed rfl passed refused⟩)
    fun measured m accepted => ?_
  have passed := extended passed accepted
  refine Reported.after (saveCache_untouched plan prepared) fun _ => ?_
  exact Reported.after (record_untouched _) fun _ => Reported.passed passed

/-- The settings are checked and the environment made without a deed. Then come the stages. -/
theorem run_reported {plan : Plan} (listening : plan.Listening) :
    (run plan).Tells (Reported plan.digest) := by
  refine Reported.after (checkSettings_untouched _) fun _ => ?_
  refine Reported.after (environment_untouched _) fun env => ?_
  refine Reported.stage listening (prepare_orderly _ _)
    (fun result refused => ⟨_, rfl, ?_⟩) fun result prepared accepted => ?_
  · exact failedStage_of_failed (show _ = [] ++ [result] from rfl) (by simp) refused
  · exact fromInstall_reported listening env (by simpa using accepted) prepared

/-! ### The question for the revision -/

/-- A report goes on after these stages with stages other than preparation. -/
def Continues (stages : List StageResult) (_ : List Deed) (r : Except Fault Report) : Prop :=
  ∀ report, r = .ok report → ∃ later, report.stages = stages ++ later ∧
    ∀ result ∈ later, result.name ≠ Stage.prepare.name

namespace Continues

variable {stages : List StageResult}

/-- A report without new stages continues with no stages more. -/
theorem pure {report : Report} (same : report.stages = stages) :
    (Pure.pure report : Action Report).Tells (Continues stages) := by
  refine fun w => ⟨[], Law.refl (R := Idle) w, ?_⟩
  rintro _ ⟨⟩
  exact ⟨[], by simp [same], by simp⟩

/-- What leaves the world untouched passes no stage. -/
theorem after {a : Action α} {next : α → Action Report}
    (quiet : Keeps Untouched (fun _ => True) a)
    (second : ∀ x, (next x).Tells (Continues stages)) : (a >>= next).Tells (Continues stages) :=
  Tells.after (quiet.weaken fun _ _ => Untouched.enacted) (fun _ _ _ => by simp) second

/-- A stage that is no preparation is one result more, and the rest of the run goes on behind it. -/
theorem stage {Q : List Deed → Except Fault α → Prop} {plan : Plan} {name : Stage}
    {action : Action α} {next : StageResult × Option α → Action Report}
    (listening : plan.Listening) (told : action.Tells Q) (later : name ≠ .prepare)
    (second : ∀ result value, (next (result, value)).Tells (Continues (stages ++ [result]))) :
    (Run.stage plan name action >>= next).Tells (Continues stages) := by
  refine Enacts.chain (stage_bounded listening name told) (fun _ _ _ _ _ _ => by simp) ?_
  rintro w ds ⟨result, value⟩ u ⟨first, inner, ended, last, -, -, concludes, -⟩
  obtain ⟨more, enacted, continues⟩ := second result value u
  refine ⟨more, enacted, fun report returned => ?_⟩
  obtain ⟨others, same, names⟩ := continues report returned
  refine ⟨result :: others, by simp [same], ?_⟩
  have named : result.name ≠ Stage.prepare.name := by
    rw [concludes.name_eq]
    cases name <;> first | exact absurd rfl later | decide
  exact List.forall_mem_cons.mpr ⟨named, names⟩

end Continues

/-- Stage by stage: none of those that are left is the preparation. -/
theorem fromInstall_continues {plan : Plan} (listening : plan.Listening) (env : Environment)
    (report : Report) (prepared : Prepared) :
    (fromInstall plan env report prepared).Tells (Continues report.stages) := by
  refine Continues.stage listening (installStage_orderly plan.digest plan env)
    (by decide) fun installed value => ?_
  rcases value with _ | x
  · exact Continues.pure rfl
  refine Continues.stage listening (buildStage_orderly plan.digest _ _ _) (by decide)
    fun built value => ?_
  rcases value with _ | product
  · exact Continues.pure rfl
  refine Continues.stage listening (measureStage_orderly plan _ _ _) (by decide)
    fun measured value => ?_
  rcases value with _ | m
  · exact Continues.pure rfl
  refine Continues.after (saveCache_untouched plan prepared) fun _ => ?_
  exact Continues.after (record_untouched _) fun _ => Continues.pure rfl

/-- When preparation fails after the revision was asked for, then at restoring the cache. -/
theorem run_probe {plan : Plan} (listening : plan.Listening) :
    (run plan).Tells fun ds r => (∃ d ∈ ds, d.isProbe) →
      ∀ report failed, r = .ok report → report.failedStage = some failed →
        failed.name = Stage.prepare.name →
          ∃ s, RestoreFails plan.store s ∧ failed.detail = s.message := by
  refine Tells.after ((checkSettings_untouched _).weaken fun _ _ => Untouched.enacted)
    (fun _ _ _ => by simp) fun _ => ?_
  refine Tells.after ((environment_untouched _).weaken fun _ _ => Untouched.enacted)
    (fun _ _ _ => by simp) fun env => ?_
  refine Enacts.chain (stage_bounded listening .prepare (prepare_afterProbe plan.settings plan.store))
    (fun _ _ _ _ _ _ => by simp) ?_
  rintro w ds ⟨result, _ | prepared⟩ u ⟨first, inner, ended, last, blamed, -, concludes, rfl⟩
  · refine ⟨[], Law.refl (R := Idle) u, ?_⟩
    rintro asked _ failed ⟨⟩ found -
    obtain ⟨s, seconds, rfl, rfl⟩ := concludes
    have same : failedAs .prepare seconds s = failed := by
      simpa [Report.failedStage, failedAs] using found
    exact ⟨s, blamed (by simpa [Deed.isProbe] using asked) s rfl, by rw [← same]; rfl⟩
  · obtain ⟨more, enacted, continues⟩ := fromInstall_continues listening env _ prepared u
    refine ⟨more, enacted, fun _ report failed returned found named => ?_⟩
    obtain ⟨later, stages, names⟩ := continues report returned
    obtain ⟨-, seconds, rfl⟩ := concludes
    have among : failed ∈ report.stages := List.mem_of_find?_eq_some found
    have refused : failed.ok = false := by simpa using List.find?_some found
    rw [stages] at among
    rcases List.mem_append.mp among with here | there
    · have same : failed = succeeded .prepare seconds := by simpa using here
      rw [same] at refused
      cases refused
    · exact absurd named (names failed there)

/-- A run stops at the first deed that fails and reports its code. The question for the revision may
fail: it has an answer for all that, and preparation can then only fail to restore the cache. -/
theorem run_failFast (plan : Plan) (w : World) (listening : plan.Listening) :
    (w.deedsUntil (run plan w).2).Pairwise (fun d e => d.fails plan.digest → ¬ e.isAttempt) ∧
    (∀ report, (run plan w).1 = .ok report → report.exitCode =
      match (w.deedsUntil (run plan w).2).find? (·.fails plan.digest) with
      | some d => d.code
      | none => if report.ok then 0 else 1) ∧
    (∀ folder u, u.processes.next.1.IsOrdinary →
      ∃ revision, (Checkout.headRevision folder u).1 = .ok revision) ∧
    ((∃ d ∈ w.deedsUntil (run plan w).2, d.isProbe) → ∀ report failed,
      (run plan w).1 = .ok report → report.failedStage = some failed →
        failed.name = Stage.prepare.name →
          ∃ s, RestoreFails plan.store s ∧ failed.detail = s.message) := by
  obtain ⟨ds, enacted, reported⟩ := run_reported listening w
  obtain ⟨others, otherEnacted, harmless⟩ := run_probe listening w
  rw [enacted.deedsUntil_eq]
  obtain rfl : ds = others := enacted.deedsUntil_eq.symm.trans otherEnacted.deedsUntil_eq
  refine ⟨reported.stops, reported.shown, fun folder u ordinary => ?_, harmless⟩
  obtain ⟨_, asked, o, files, rfl, told⟩ := Checkout.headRevision_tells folder u
  rw [told]
  exact Checkout.revisionOf_ok (asked.outcome_eq ▸ ordinary)

/-- A small run: it builds a program with `make` and times it, and installs nothing. -/
def samplePlan : Plan where
  settings := {
    workdir := .parse "/w"
    build := .settings { command := .text "make", artifact := .text "tool" }
    fixture := .settings { url := .text "http://h/x.log", timeout := .int 60 }
    benchmark := .settings { tool := .text "builtin", runs := .int 2 } }
  skipInstall := true

/-- Nobody listens there, so no callback can fail. -/
theorem samplePlan_listening : samplePlan.Listening := fun _ => .pure _

/-- A world in which the revision cannot be read and the build exits with three. -/
def brokenBuild : World where
  files := { root := [("w", .folder [])] }
  processes := ⟨[{ launch := .notFound }, { exitCode := 3 }], {}⟩
  replies := ⟨[], .refused .connection ""⟩

/-- The exit code of the build is three. It stands in the report because the build is the first deed
that fails. -/
theorem run_failFast_brokenBuild :
    samplePlan.Listening ∧
      ∃ report, (run samplePlan brokenBuild).1 = .ok report ∧ report.exitCode = 3 := by
  have told := (run_failFast samplePlan brokenBuild samplePlan_listening).2.1
  have code : ((brokenBuild.deedsUntil (run samplePlan brokenBuild).2).find?
      (·.fails samplePlan.digest)).map Deed.code = some 3 := by decide +kernel
  have returned : (run samplePlan brokenBuild).1.isOk := by decide +kernel
  refine ⟨samplePlan_listening, ?_⟩
  rcases ran : (run samplePlan brokenBuild).1 with f | report
  · rw [ran] at returned
    cases returned
  · obtain ⟨d, found, three⟩ := Option.map_eq_some_iff.mp code
    refine ⟨report, rfl, ?_⟩
    rw [told report ran, found]
    exact three

/-- The same run with the question for the revision as its build command. -/
def askingPlan : Plan :=
  { samplePlan with
    settings := { samplePlan.settings with
      build := .settings { command := .text "git rev-parse HEAD", artifact := .text "tool" } } }

/-- A world in which the question is answered once, and then never again. -/
def answeredOnce : World where
  files := { root := [("w", .folder [])] }
  processes := ⟨[{}, { exitCode := 128 }], { exitCode := 128, stderr := .bytes ⟨#[0xFF]⟩ }⟩
  replies := ⟨[], .refused .connection ""⟩

/-- The words of the question do fail a run that builds by them, and the question itself fails when
what is written for an answer is no text. -/
theorem run_failFast_askingPlan :
    let ended := run askingPlan answeredOnce
    let started := (answeredOnce.deedsUntil ended.2).filterMap fun
      | .process c limit o _ => some (c.argv, o.exit? limit)
      | _ => none
    started = [(["git", "rev-parse", "HEAD"], some 0), (["git", "rev-parse", "HEAD"], some 128)] ∧
      ended.1.toOption.map (fun report => (report.ok, report.exitCode)) = some (false, 128) ∧
      ((Checkout.headRevision (.parse "/w") ended.2).1 matches .error (.undecodable _)) = true := by
  decide +kernel

end Run

end BuildBench
