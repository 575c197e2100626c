import BuildBench.Proofs.Cache.SaveOutcome
import BuildBench.Proofs.Files.ConfinedChanges
import BuildBench.Proofs.History.Processes
import BuildBench.Proofs.Run.MeasurementGate

/-!
# What a build leaves at the artifact's place

The artifact's place is cleared before the build command is started, and after that the build itself
changes no file but the logs. What is at the place in the end was therefore put there by the
command's process. The build succeeds exactly if the process exited with zero and left a program;
when it fails, the files are as the process left them. Nothing is at the place then if the process
could not be started. A process that ended may leave a file there whatever its exit code, and so may
one that was stopped; the build does not take it away.
-/

namespace BuildBench

open BuildBench.Action

/-! ## What is found at a path name -/

/-- A path name leads to a file that may be run. -/
def Files.HasProgram (files : Files) (path : PathName) : Prop :=
  Disk.isName path ∧ ∃ content, files.lookUp path = .ok (.file content true)

/-- Records make no file. -/
theorem Logged.lacksFile {w v : World} (logged : Logged w v) {path : PathName}
    (absent : w.files.LacksFile path) : v.files.LacksFile path := by
  intro content executable found
  obtain ⟨goal, leads, held⟩ := Files.lookUp_eq_file_iff.mp found
  have kind := Folder.kind?_of_at? held
  have leadsBefore := leads.of_grows_held logged.fresh logged.current.symm (by simp [kind])
  obtain ⟨n, node, same⟩ := Option.map_eq_some_iff.mp (logged.fresh _ _ kind)
  cases n with
  | file before x =>
    exact absent before x
      (Files.lookUp_eq_file_iff.mpr ⟨goal, leadsBefore, Files.at?_of_node?_file node⟩)
  | _ => cases same

/-- By whether the name is one that can be asked about. -/
theorem Disk.ask_eq (path : PathName) (question : Files → PathName → Except SystemError Bool)
    (w : World) :
    ask path question w =
      (if isName path then (question w.files path).mapError (systemFault path) else .ok false,
        w) := by
  unfold ask
  by_cases named : isName path <;> simp [named, bind_run, get_run, ofResult_run, pure_run]

namespace Artifact

variable {artifact workdir : PathName} {settings : BuildSettings} {env : Environment} {w v : World}

/-! ## Clearing the place -/

/-- What is found is there, so it need not be asked whether it is a link. -/
theorem isTaken_of_found {e : Entry} (named : Disk.isName artifact)
    (found : w.files.lookUp artifact = .ok e) : isTaken artifact w = (.ok true, w) := by
  have there : Disk.exists? artifact w = (.ok true, w) :=
    Disk.ask_run named (by simp only [Files.exists?, Files.check, found])
  simp only [isTaken, bind_run, there, if_true, pure_run]

/-- A file is always taken away; so where taking away fails there is none. -/
theorem removeStale_failed {f : Fault} (named : Disk.isName artifact)
    (failed : removeStale artifact w = (.error f, v)) : v.files.LacksFile artifact := by
  unfold removeStale at failed
  rw [bind_run] at failed
  obtain ⟨answer, asked⟩ := (isTaken_asks artifact).run w
  rw [asked] at failed
  rcases answer with g | _ | _
  · obtain ⟨-, rfl⟩ := Prod.mk.inj failed
    intro content executable found
    rw [isTaken_of_found named found] at asked
    cases asked
  · cases failed
  · simp only [if_true] at failed
    rw [bind_run, log_run] at failed
    generalize (log .debug "build" ("Removing stale artifact " ++ artifact.display) w).2 = u
      at failed
    have throws : ∀ g : Fault, (if g.isOutside then
        throw (failure ("Cannot remove stale artifact " ++ artifact.display ++ ": " ++ g.message))
        else throw g : Action Unit) u = (.error f, v) → u = v := by
      intro g thrown
      split at thrown <;> exact (Prod.mk.inj thrown).2
    dsimp only at failed
    rw [tryCatch_run] at failed
    obtain ⟨g, kept⟩ | ⟨changed, -, -, removed⟩ := Disk.change_cases artifact (·.unlink artifact) u
    · rw [Disk.unlink, kept] at failed
      obtain rfl := throws g failed
      intro content executable found
      obtain ⟨changed, unlinked⟩ := Files.unlinks_file found
      rw [Disk.change_run named unlinked] at kept
      cases kept
    · rw [Disk.unlink, removed] at failed
      cases failed

/-! ## What the check refuses -/

/-- Why what a successful command left is no artifact. -/
inductive Refuses (artifact : PathName) (output : String) (left : Files) : Fault → Prop
  | absent (none : Disk.isName artifact → left.isFile artifact = .ok false) :
    Refuses artifact output left
      (failure ("Build succeeded but produced no artifact at " ++ artifact.display) 1 output)
  | idle (named : Disk.isName artifact) {content : ByteArray}
    (found : left.lookUp artifact = .ok (.file content false)) :
    Refuses artifact output left
      (failure ("Build artifact is not executable: " ++ artifact.display) 1 output)
  | unasked (long : left.isFile artifact = .error .nameTooLong) :
    Refuses artifact output left (Disk.systemFault artifact .nameTooLong)

/-- What the name leads to is a file. -/
theorem isFile_of_hasProgram {files : Files} (program : files.HasProgram artifact) :
    files.isFile artifact = .ok true := by
  obtain ⟨-, content, found⟩ := program
  simp only [Files.isFile, Files.check, found, Entry.isFile]

/-- Only a program passes the check, and the check changes nothing. -/
theorem checkArtifact_run (artifact : PathName) (output : String) (w : World) :
    (checkArtifact artifact output w).2 = w ∧
      match (checkArtifact artifact output w).1 with
      | .ok _ => w.files.HasProgram artifact
      | .error f => ¬ w.files.HasProgram artifact ∧ Refuses artifact output w.files f := by
  unfold checkArtifact Disk.isFile Disk.isExecutable
  simp only [bind_run, Disk.ask_eq]
  by_cases named : Disk.isName artifact
  · simp only [named, if_true]
    rcases asked : w.files.isFile artifact with e | _ | _ <;>
      dsimp only [mapError_error, mapError_ok]
    · obtain rfl := Files.check_error asked
      exact ⟨rfl, fun program => by simp [isFile_of_hasProgram program] at asked, .unasked asked⟩
    · exact ⟨rfl, fun program => by simp [isFile_of_hasProgram program] at asked,
        .absent fun _ => asked⟩
    · obtain ⟨content, executable, goal, leads, there⟩ := CacheStore.isFile_ok asked
      have found := Files.lookUp_eq_file_iff.mpr ⟨goal, leads, there⟩
      have permitted : w.files.isExecutable artifact = executable := by
        rw [Files.isExecutable, found]
      simp only [if_true, bind_run, pure_run, get_run, Bool.true_and, permitted]
      cases executable with
      | true => exact ⟨rfl, named, content, found⟩
      | false =>
        refine ⟨rfl, ?_, .idle named found⟩
        rintro ⟨-, other, program⟩
        rw [found] at program
        cases program
  · simp only [named]
    exact ⟨rfl, fun program => named program.1, .absent fun other => absurd other named⟩

/-! ## Why the process ends a build -/

/-- Why a build whose process was to be started stops there. -/
inductive Stops (c : Program.Command) (o : Outcome) : Fault → Prop
  | missing (launch : o.launch = .notFound) :
    Stops c o (failure ("Build tool not found: " ++ c.argv.headD ""))
  | late (launch : o.launch = .started) (late : Program.runsOut c.timeout o.wall = .ok true) :
    Stops c o (failure ("Build timed out after " ++ c.timeout.display ++ "s"))
  | failed {p : Program.Completed} (ended : o.end? c.timeout = some p) (fails : p.exitCode ≠ 0) :
    Stops c o (failure ("Build failed (exit " ++ intText p.exitCode ++ ")") p.exitCode p.output)
  | broken {f : Fault} (breaks : Program.Breaks (c.argv.headD "") c.timeout o f) : Stops c o f

/-- No process with which a build stops is known to have exited with zero. -/
theorem Stops.not_success {c : Program.Command} {o : Outcome} {f : Fault} (stops : Stops c o f)
    {p : Program.Completed} (ended : o.end? c.timeout = some p) : p.exitCode ≠ 0 := by
  cases stops with
  | missing launch => simp [Outcome.end?, launch] at ended
  | late launch late => simp [Outcome.end_of_started _ launch, late] at ended
  | failed known fails =>
    obtain rfl := Option.some.inj (known.symm.trans ended)
    exact fails
  | broken breaks => simp [breaks.endless] at ended

/-- What came of a process whose build goes on, or stops. -/
def Comes (c : Program.Command) (o : Outcome) : Except Fault String → Prop
  | .ok output => ∃ p, o.end? c.timeout = some p ∧ p.exitCode = 0 ∧ p.output = output
  | .error f => Stops c o f

/-- The command of a build as it is started. -/
def started (settings : BuildSettings) (workdir : PathName) (env : Environment)
    (argv : List String) : Program.Command where
  argv := argv
  folder := some workdir.display
  env := some env
  timeout := settings.timeout

/-- A build command that cannot be read starts nothing and changes nothing. -/
theorem runBuild_unread {f : Fault} (workdir : PathName) (env : Environment)
    (read : Command.words settings.command = .error f) (w : World) :
    ∃ g, runBuild settings workdir env w = (.error g, w) := by
  unfold runBuild Command.run
  rw [bind_run, tryCatch_run, bind_run, read, ofResult_run]
  cases f with
  | system e path => cases e <;> exact ⟨_, rfl⟩
  | _ => exact ⟨_, rfl⟩

/-- A build command that can be read is run once, after a record. -/
theorem runBuild_run {argv : List String} (workdir : PathName) (env : Environment)
    (read : Command.words settings.command = .ok argv) (w : World) :
    ∃ u, Logged w u ∧
      (runBuild settings workdir env w).2 =
        (Program.run (started settings workdir env argv) u).2 ∧
      Comes (started settings workdir env argv) u.processes.next.1
        (runBuild settings workdir env w).1 := by
  have logged := (log_onlyLogs .debug "stages" (Command.runningText argv (some workdir)) w).1
  refine ⟨_, logged, ?_⟩
  unfold runBuild Command.run
  rw [read, ofResult_ok_bind, bind_run, tryCatch_run, bind_run, log_run]
  dsimp only
  generalize (log .debug "stages" (Command.runningText argv (some workdir)) w).2 = u
  generalize command : started settings workdir env argv = c
  have same : Program.run
      { argv := argv, folder := (some workdir).map PathName.display, env := some env
        timeout := settings.timeout } u = Program.run c u := by rw [← command]; rfl
  rw [same, Program.run_run]
  generalize Program.ended c u = v
  have came := Program.verdict_comesOut c u.processes.next.1
  rcases verdict : Program.verdict c u.processes.next.1 with f | p <;> rw [verdict] at came <;>
    dsimp only
  · cases came with
    | notFound launch => exact ⟨rfl, .missing launch⟩
    | late launch late => exact ⟨rfl, .late launch late⟩
    | broken breaks =>
      cases f with
      | system e path =>
        cases e <;> first
          | exact absurd rfl (breaks.unnamed.1 path)
          | exact ⟨rfl, .broken breaks⟩
      | timedOut limit => exact absurd rfl (breaks.unnamed.2 limit)
      | _ => exact ⟨rfl, .broken breaks⟩
  · cases came with
    | ended known =>
      by_cases success : p.exitCode = 0
      · rw [if_pos success]
        exact ⟨rfl, p, known, success, rfl⟩
      · rw [if_neg success]
        exact ⟨rfl, .failed known success⟩

/-! ## The whole build -/

/-- What a build comes to whose process was to be started, by what the process was going to do. -/
structure Leaves (artifact : PathName) (c : Program.Command) (o : Outcome) (atStart : Files)
    (r : Except Fault Built) (v : World) : Prop where
  vacant : Disk.isName artifact → atStart.IsVacant artifact
  verdict : (∃ x, r = .ok x) ↔
    o.exit? c.timeout = some 0 ∧ (o.leaves c.argv c.timeout atStart).HasProgram artifact
  built : ∀ x, r = .ok x → x.artifact = artifact ∧ v.files.HasProgram artifact
  failed : ∀ f, r = .error f →
    v.files = o.leaves c.argv c.timeout atStart ∧
      (Stops c o f ∨ ∃ p, o.end? c.timeout = some p ∧ p.exitCode = 0 ∧
        Refuses artifact p.output (o.leaves c.argv c.timeout atStart) f)
  unstarted : o.launch = .notFound ∨ (∃ reason, o.launch = .refused reason) →
    Disk.isName artifact → v.files.IsVacant artifact
  stopped : o.launch = .started → Program.runsOut c.timeout o.wall = .ok true →
    v.files = o.earlyEdits.foldl FileEdit.apply atStart

/-- A process that was not started leaves what was there, and one that was stopped in time leaves
what it had changed by then. -/
theorem leaves_unended {c : Program.Command} {o : Outcome} {atStart left : Files}
    (vacant : Disk.isName artifact → atStart.IsVacant artifact)
    (same : left = o.leaves c.argv c.timeout atStart) :
    (o.launch = .notFound ∨ (∃ reason, o.launch = .refused reason) →
        Disk.isName artifact → left.IsVacant artifact) ∧
      (o.launch = .started → Program.runsOut c.timeout o.wall = .ok true →
        left = o.earlyEdits.foldl FileEdit.apply atStart) := by
  subst same
  constructor
  · rintro (launch | ⟨reason, launch⟩) named <;> rw [Outcome.leaves, Outcome.made, launch] <;>
      exact vacant named
  · intro launch late
    rw [Outcome.leaves, Outcome.made, launch]
    simp only [late]

/-- A build that stops at its process leaves the files of the process. -/
theorem Leaves.ofStops {c : Program.Command} {o : Outcome} {atStart : Files} {f : Fault}
    (vacant : Disk.isName artifact → atStart.IsVacant artifact) (stops : Stops c o f)
    (left : v.files = o.leaves c.argv c.timeout atStart) :
    Leaves artifact c o atStart (.error f) v where
  vacant := vacant
  verdict := by
    constructor
    · rintro ⟨x, ⟨⟩⟩
    · rintro ⟨success, -⟩
      obtain ⟨p, known, exited⟩ := Option.map_eq_some_iff.mp success
      exact absurd exited (stops.not_success known)
  built x ended := nomatch ended
  failed g failed := by
    obtain rfl := Except.error.inj failed
    exact ⟨left, .inl stops⟩
  unstarted := (leaves_unended vacant left).1
  stopped := (leaves_unended vacant left).2

/-- After the command it is decided whether there is a program at the artifact's place: if there is,
the build ends with records, and if there is none it refuses and leaves the world as it is. -/
theorem finish_run (artifact : PathName) (seconds : Float) (output : String) (w : World) :
    (∃ x v, finish artifact seconds output w = (.ok x, v) ∧ w.files.HasProgram artifact ∧
      x.artifact = artifact ∧ v.files.HasProgram artifact) ∨
    ∃ f, finish artifact seconds output w = (.error f, w) ∧ ¬ w.files.HasProgram artifact ∧
      Refuses artifact output w.files f := by
  have finished := @finish_ok artifact seconds output w
  obtain ⟨same, decided⟩ := checkArtifact_run artifact output w
  unfold finish at finished ⊢
  rcases checked : checkArtifact artifact output w with ⟨f | x, u⟩ <;>
    rw [checked] at same decided <;> dsimp only at same decided <;> subst same <;>
    rw [bind_run, checked] at finished ⊢
  · exact .inr ⟨f, rfl, decided⟩
  · have records : Keeps Logged (fun _ => False) (do
        logOutput .debug "build" output
        log .info "build"
          ("Built " ++ artifact.display ++ " in " ++ Decimal.fixed 1 seconds ++ "s")
        return (⟨artifact, seconds, output⟩ : Built)) :=
      .bind (.forM fun _ => record_logged _) fun _ => .bind (record_logged _) fun _ => .pure _
    obtain ⟨x, v, ran, -⟩ := records.records u
    exact .inl ⟨x, v, ran, decided, finished ran⟩

/-- A build that goes on is decided by what the process left. -/
theorem Leaves.finished {c : Program.Command} {o : Outcome} {p : Program.Completed}
    {atStart : Files} (seconds : Float)
    (vacant : Disk.isName artifact → atStart.IsVacant artifact)
    (known : o.end? c.timeout = some p) (success : p.exitCode = 0)
    (left : w.files = o.leaves c.argv c.timeout atStart) :
    Leaves artifact c o atStart (finish artifact seconds p.output w).1
      (finish artifact seconds p.output w).2 := by
  have exited : o.exit? c.timeout = some 0 := by rw [Outcome.exit?, known, ← success]; rfl
  obtain ⟨launch, waited⟩ := Outcome.started_of_end known
  obtain ⟨x, v, ran, held, placed, kept⟩ | ⟨f, ran, missing, refuses⟩ :=
    finish_run artifact seconds p.output w <;> rw [ran]
  · exact {
      vacant := vacant
      verdict := iff_of_true ⟨x, rfl⟩ ⟨exited, left ▸ held⟩
      built := by
        rintro y ⟨⟩
        exact ⟨placed, kept⟩
      failed := by rintro g ⟨⟩
      unstarted := by simp [launch]
      stopped := by simp [waited] }
  · exact {
      vacant := vacant
      verdict := by
        rw [← left]
        constructor
        · rintro ⟨x, ⟨⟩⟩
        · exact fun ended => absurd ended.2 missing
      built := by rintro x ⟨⟩
      failed := by
        rintro g ⟨⟩
        exact ⟨left, .inr ⟨p, known, success, left ▸ refuses⟩⟩
      unstarted := by simp [launch]
      stopped := by simp [waited] }

/-- A build begins with records. -/
theorem buildCleared_run (settings : BuildSettings) (artifact workdir : PathName)
    (env : Environment) (w : World) :
    ∃ t, Logged w t ∧ buildCleared settings artifact workdir env w =
      (do let output ← runBuild settings workdir
            (env.overlaid (Environment.ofVariables settings.env))
          finish artifact ((← get).clock - t.clock) output) t := by
  have records : Keeps Logged (fun _ => False) (announce settings) :=
    .bind (.forM fun _ => record_logged _) fun _ => record_logged _
  obtain ⟨_, t, announced, logged⟩ := records.records w
  refine ⟨t, logged, ?_⟩
  unfold buildCleared
  rw [bind_run, announced]
  dsimp only
  rw [bind_run, get_run]

/-- A build command that can be read is started once, at a place where nothing is. -/
theorem buildCleared_leaves {argv : List String} (workdir : PathName) (env : Environment)
    (read : Command.words settings.command = .ok argv)
    (vacant : Disk.isName artifact → w.files.IsVacant artifact) :
    ∃ o atStart,
      Enacted w
        [.process (started settings workdir
          (env.overlaid (Environment.ofVariables settings.env)) argv) settings.timeout o atStart]
        (buildCleared settings artifact workdir env w).2 ∧
      Leaves artifact (started settings workdir
          (env.overlaid (Environment.ofVariables settings.env)) argv) o atStart
        (buildCleared settings artifact workdir env w).1
        (buildCleared settings artifact workdir env w).2 := by
  obtain ⟨t, before, runs⟩ := buildCleared_run settings artifact workdir env w
  obtain ⟨u, after, left, comes⟩ := runBuild_run workdir
    (env.overlaid (Environment.ofVariables settings.env)) read t
  have limit : (started settings workdir (env.overlaid (Environment.ofVariables settings.env))
    argv).timeout = settings.timeout := rfl
  generalize started settings workdir (env.overlaid (Environment.ofVariables settings.env)) argv
    = c at limit left comes ⊢
  obtain ⟨-, enacted, files, -⟩ := Program.run_ends c u
  have logged : Logged w u := Law.trans before after
  have none (named : Disk.isName artifact) : u.files.IsVacant artifact :=
    logged.vacant (vacant named)
  refine ⟨u.processes.next.1, u.files, ?_⟩
  rw [← limit]
  rw [← left] at enacted files
  rw [runs, bind_run]
  rcases ran : runBuild settings workdir (env.overlaid (Environment.ofVariables settings.env)) t
    with ⟨f | output, v⟩ <;> rw [ran] at enacted files comes <;> dsimp only at enacted files ⊢
  · exact ⟨logged.idle.trans enacted, .ofStops none comes files⟩
  · rw [bind_run, get_run]
    obtain ⟨p, known, success, rfl⟩ := comes
    have idle := (finish_quiet artifact (v.clock - t.clock) p.output).idle v
    exact ⟨Enacted.trans logged.idle (enacted.trans idle.1),
      .finished (v.clock - t.clock) none known success files⟩

/-- A build either starts no process and leaves no file at the artifact's place, or it starts one
process at a place where nothing is, and what it comes to is decided by that process.

Proof: clearing the place fails only where no file is, and otherwise the place is vacant when the
process is started; after the process the build only looks at the files and writes records. -/
theorem build_leaves (sec : Section BuildSettings) (artifact workdir : PathName)
    (env : Environment) :
    (build sec artifact workdir env).Enacts fun _ ds r v =>
      (ds = [] ∧ (∃ f, r = .error f) ∧ (Disk.isName artifact → v.files.LacksFile artifact)) ∨
        ∃ settings argv o atStart, sec.given = .ok settings ∧
          Command.words settings.command = .ok argv ∧
          ds = [.process (started settings workdir
            (env.overlaid (Environment.ofVariables settings.env)) argv) settings.timeout o
              atStart] ∧
          Leaves artifact (started settings workdir
            (env.overlaid (Environment.ofVariables settings.env)) argv) o atStart r v := by
  intro w
  have cleared := removeStale_quiet artifact w
  unfold build
  rcases removed : removeStale artifact w with ⟨f | x, u⟩ <;> rw [removed] at cleared <;>
    rw [bind_run, removed]
  · exact ⟨[], cleared.1.enacted, .inl ⟨rfl, ⟨f, rfl⟩, fun named => removeStale_failed named removed⟩⟩
  have vacant (named : Disk.isName artifact) : u.files.IsVacant artifact :=
    removeStale_vacant named removed
  rcases given : sec.given with f | settings
  · exact ⟨[], cleared.1.enacted, .inl ⟨rfl, ⟨f, rfl⟩, fun named => (vacant named).lacksFile⟩⟩
  rcases read : Command.words settings.command with f | argv
  · obtain ⟨t, logged, runs⟩ := buildCleared_run settings artifact workdir env u
    obtain ⟨g, unread⟩ := runBuild_unread workdir
      (env.overlaid (Environment.ofVariables settings.env)) read t
    rw [ofResult_ok_bind]
    dsimp only
    rw [runs, bind_run, unread]
    exact ⟨[], cleared.1.enacted.trans logged.idle, .inl ⟨rfl, ⟨g, rfl⟩, fun named =>
      (logged.vacant (vacant named)).lacksFile⟩⟩
  · obtain ⟨o, atStart, enacted, leaves⟩ := buildCleared_leaves workdir env read vacant
    exact ⟨_, cleared.1.enacted.trans enacted, .inr ⟨settings, argv, o, atStart, rfl, read, rfl, leaves⟩⟩

/-- A world in which the build command leaves a program and then fails. -/
def spoiledBuild : World where
  files := { root := [("w", .folder [])] }
  processes :=
    ⟨[{ exitCode := 1, edits := [.write (.parse "/w/tool") "x".toUTF8 true] }], {}⟩
  replies := ⟨[], .refused .connection ""⟩

/-- A build that fails as a stage can leave a program at the artifact's place. -/
theorem build_leaves_spoiled :
    let ended := build (.settings { command := .text "make" }) (.parse "/w/tool") (.parse "/w") []
      spoiledBuild
    (∃ s, ended.1 = .error (.stage s) ∧ s.kind = .build ∧ s.exitCode = 1) ∧
      ended.2.files.HasProgram (.parse "/w/tool") := by
  intro ended
  exact ⟨⟨_, by rfl, by rfl, by rfl⟩, by decide, ⟨_, by rfl⟩⟩

end Artifact

end BuildBench
