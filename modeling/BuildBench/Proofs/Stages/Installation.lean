import BuildBench.Proofs.Stages.Build

/-!
# What is installed, and in which order

Whether a package has to be installed is found out when its turn comes, on the files as the processes
before have left them. `Follows` says how installation goes on from there: a package that is on the
search path is left alone; for any other one the installer is made sure of, once in a run, and then
one command is run that has to provide the package. The first package for which that does not come
out well ends the installation.
-/

namespace BuildBench

open BuildBench.Action

/-! ## Finding programs -/

/-- Whether a name leads to a program. One that asks for a folder does not. -/
def Files.runs (files : Files) (name : String) : Bool :=
  Disk.isName (.parse name) && !Disk.asksForFolder name &&
    match files.lookUp (.parse name) with
    | .ok (.file _ executable) => executable
    | _ => false

/-- By what the name leads to: only a file that may be run counts. -/
theorem Files.runs_iff {files : Files} {name : String} :
    files.runs name = true ↔ Disk.asksForFolder name = false ∧ files.HasProgram (.parse name) := by
  unfold runs HasProgram
  generalize Disk.asksForFolder name = asks
  rcases files.lookUp (.parse name) with e | ⟨content, executable⟩ | target | f
  case ok.file => cases executable <;> simp [and_comm]
  all_goals simp

/-- Where the program of some name is found: at the name itself if that has a slash in it, else in
the first folder of the search path that has it. -/
def Files.program? (files : Files) (searchPath name : String) : Option String :=
  if name.toList.contains '/' then
    if files.runs name then some name else none
  else if searchPath.isEmpty then none
  else ((Text.splitAt ':' searchPath).map (Disk.inFolder · name)).find? files.runs

namespace Disk

/-- Whether the name is one that can be asked about, and then what it leads to. -/
theorem isProgram_run (name : String) (w : World) :
    isProgram name w = (.ok (w.files.runs name), w) := by
  unfold isProgram Files.runs
  by_cases named : isName (.parse name)
  · have unfaulted : nameFault? (PathName.parse name).display = none := by
      simpa [isName, Option.isNone_iff_eq_none] using named
    have required : requireName (.parse name) w = (.ok (), w) := by
      rw [requireName, unfaulted]
      rfl
    unfold find?
    dsimp only
    simp only [named, Bool.not_true, Bool.false_eq_true, if_false, bind_run, required,
      Bool.true_and]
    by_cases empty : name.isEmpty
    · obtain rfl : name = "" := String.isEmpty_iff.mp empty
      rfl
    · simp only [empty, Bool.false_eq_true, if_false, bind_run, get_run]
      rcases w.files.lookUp (.parse name) with e | ⟨content, executable⟩ | target | f <;>
        cases asked : asksForFolder name <;> simp [pure_run, Entry.isFolder]
  · simp [named, pure_run]

/-- By induction on the names: the first one that is a program is found. -/
theorem firstProgram_run (names : List String) (w : World) :
    firstProgram names w = (.ok (names.find? w.files.runs), w) := by
  induction names with
  | nil => rfl
  | cons name rest ih =>
    rw [firstProgram, bind_run, isProgram_run, List.find?_cons]
    cases w.files.runs name with
    | true => rfl
    | false => exact ih

/-- Looking for a program finds it where it is, and changes nothing. -/
theorem which_run (name searchPath : String) (w : World) :
    which (.text name) (.text searchPath) w =
      (.ok ((w.files.program? searchPath name).map .text), w) := by
  unfold which Files.program? findProgram
  by_cases slash : name.toList.contains '/'
  · simp only [slash, if_true, bind_run, isProgram_run, pure_run]
  · simp only [slash, Bool.false_eq_true, if_false, searchPathText, bind_run, ofResult_run, get_run]
    by_cases empty : searchPath.isEmpty
    · simp [empty, pure_run]
    · simp [empty, firstProgram_run, pure_run]

end Disk

/-- Two states of the files with the same programs. -/
def Files.SamePrograms (files other : Files) : Prop := ∀ name, other.runs name = files.runs name

/-- A search looks at nothing but which names are programs. -/
theorem Files.SamePrograms.program?_eq {files other : Files} (same : files.SamePrograms other)
    (searchPath name : String) : other.program? searchPath name = files.program? searchPath name := by
  rw [program?, program?, funext same]

/-- Every name is a program in both or in neither. -/
theorem Files.SamePrograms.refl (files : Files) : files.SamePrograms files := fun _ => rfl

/-- Name by name. -/
theorem Files.SamePrograms.trans {files between other : Files} (first : files.SamePrograms between)
    (second : between.SamePrograms other) : files.SamePrograms other :=
  fun name => (second name).trans (first name)

/-- Records make no program, and take none away. -/
theorem Logged.hasProgram_iff {w v : World} (logged : Logged w v) (path : PathName) :
    v.files.HasProgram path ↔ w.files.HasProgram path := by
  refine and_congr_right fun _ => ⟨fun ⟨content, found⟩ => ?_, fun ⟨content, found⟩ => ?_⟩
  · by_cases absent : w.files.LacksFile path
    · exact absurd found (logged.lacksFile absent content true)
    · simp only [Files.LacksFile, not_forall, not_not] at absent
      obtain ⟨before, executable, there⟩ := absent
      obtain ⟨added, location, after, -⟩ := logged.toExtended.lookUp_file there
      rw [found] at after
      cases after
      exact ⟨before, there⟩
  · obtain ⟨added, location, after, -⟩ := logged.toExtended.lookUp_file found
    exact ⟨_, after⟩

/-- A record makes no file a program, nor takes the permission to run from one. -/
theorem Logged.samePrograms {w v : World} (logged : Logged w v) :
    w.files.SamePrograms v.files := by
  intro name
  rw [Bool.eq_iff_iff, Files.runs_iff, Files.runs_iff, logged.hasProgram_iff]

namespace Installation

/-! ## One command -/

/-- A command of the installation as it is started. -/
def started (settings : InstallSettings) (env : Environment) (argv : List String) :
    Program.Command where
  argv := argv
  env := some env
  timeout := settings.timeout

/-- What comes of running a command that has to provide something. All failures of the installation say
what was to be provided, or by which command. -/
inductive Comes (command : Value) (what : String) (c : Program.Command) (o : Outcome) :
    Except Fault String → Prop
  | ended {p : Program.Completed} (known : o.end? c.timeout = some p) (success : p.exitCode = 0) :
    Comes command what c o (.ok p.output)
  | failed {p : Program.Completed} (known : o.end? c.timeout = some p) (fails : p.exitCode ≠ 0) :
    Comes command what c o
      (.error (failure ("Installing " ++ what ++ " failed (exit " ++ intText p.exitCode ++ ")")
        p.exitCode p.output))
  | late (launch : o.launch = .started) (late : Program.runsOut c.timeout o.wall = .ok true) :
    Comes command what c o
      (.error (failure ("Installing " ++ what ++ " timed out after " ++ c.timeout.display ++ "s")))
  | notFound (launch : o.launch = .notFound) :
    Comes command what c o
      (.error (failure ("Installer not found for '" ++ command.display ++ "': " ++
        c.argv.headD "")))
  | broken {f : Fault} (breaks : Program.Breaks (c.argv.headD "") c.timeout o f) :
    Comes command what c o (.error f)

section Command

variable {settings : InstallSettings} {env : Environment} {command : Value} {argv : List String}
  {searchPath name useless : String} {files other left : Files} {w : World}

/-- A command that can be read is run once, after a record. -/
theorem runInstaller_comes (read : Command.words command = .ok argv) (what : String)
    (settings : InstallSettings) (env : Environment) (w : World) :
    ∃ u o, Logged w u ∧
      Enacted u [.process (started settings env argv) settings.timeout o u.files]
        (runInstaller command what settings env w).2 ∧
      (runInstaller command what settings env w).2.files =
        o.leaves argv settings.timeout u.files ∧
      Comes command what (started settings env argv) o
        (runInstaller command what settings env w).1 := by
  obtain ⟨u, v, logged, ran, enacted, left⟩ :=
    Command.run_read read none (some env) settings.timeout w
  have came := Program.verdict_comesOut (started settings env argv) u.processes.next.1
  refine ⟨u, u.processes.next.1, logged, ?_⟩
  unfold runInstaller
  change Command.run command none (some env) settings.timeout w =
    (Program.verdict (started settings env argv) u.processes.next.1, v) at ran
  rw [bind_run, tryCatch_run, ran]
  rcases verdict : Program.verdict (started settings env argv) u.processes.next.1 with f | p <;>
    rw [verdict] at came <;> dsimp only
  · cases came with
    | notFound launch => exact ⟨enacted, left, .notFound launch⟩
    | late launch late => exact ⟨enacted, left, .late launch late⟩
    | broken breaks =>
      cases f with
      | system e path =>
        cases e <;> first
          | exact absurd rfl (breaks.unnamed.1 path)
          | exact ⟨enacted, left, .broken breaks⟩
      | timedOut limit => exact absurd rfl (breaks.unnamed.2 limit)
      | _ => exact ⟨enacted, left, .broken breaks⟩
  · cases came with
    | ended known =>
      by_cases success : p.exitCode = 0
      · rw [if_pos success]
        exact ⟨enacted, left, .ended known success⟩
      · rw [if_neg success]
        exact ⟨enacted, left, .failed known success⟩

/-! ## A program and the command that provides it -/

/-- What comes of a command that has to provide a program: one process, started on files with the
programs that there are, and the place where the program is found among the files that the process
left. -/
inductive Provides (settings : InstallSettings) (env : Environment) (searchPath : String)
    (command : Value) (name useless : String) (files : Files) :
    List Deed → Except Fault String → Files → Prop
  | refused {argv : List String} {o : Outcome} {before : Files} {f : Fault}
    (read : Command.words command = .ok argv) (same : files.SamePrograms before)
    (came : Comes command name (started settings env argv) o (.error f)) :
    Provides settings env searchPath command name useless files
      [.process (started settings env argv) settings.timeout o before] (.error f)
      (o.leaves argv settings.timeout before)
  | absent {argv : List String} {o : Outcome} {before : Files} {output : String}
    (read : Command.words command = .ok argv) (same : files.SamePrograms before)
    (came : Comes command name (started settings env argv) o (.ok output))
    (missing : (o.leaves argv settings.timeout before).program? searchPath name = none) :
    Provides settings env searchPath command name useless files
      [.process (started settings env argv) settings.timeout o before]
      (.error (failure useless 1 output)) (o.leaves argv settings.timeout before)
  | provided {argv : List String} {o : Outcome} {before : Files} {output place : String}
    (read : Command.words command = .ok argv) (same : files.SamePrograms before)
    (came : Comes command name (started settings env argv) o (.ok output))
    (found : (o.leaves argv settings.timeout before).program? searchPath name = some place) :
    Provides settings env searchPath command name useless files
      [.process (started settings env argv) settings.timeout o before] (.ok place)
      (o.leaves argv settings.timeout before)

/-- Only the programs at the start matter. -/
theorem Provides.congr {ds : List Deed} {r : Except Fault String}
    (same : other.SamePrograms files)
    (provides : Provides settings env searchPath command name useless files ds r left) :
    Provides settings env searchPath command name useless other ds r left := by
  cases provides with
  | refused read alike came => exact .refused read (same.trans alike) came
  | absent read alike came missing => exact .absent read (same.trans alike) came missing
  | provided read alike came found => exact .provided read (same.trans alike) came found

/-- After some records a command that provides a program is run, and then the program is looked for.
What is done with the answer only writes records. -/
theorem runInstaller_provides {α : Type} {next : String → Option Value → Action α}
    {value : String → α} {w v : World} (noted : Logged w v)
    (read : Command.words command = .ok argv)
    (searched : env.searchPath = .text searchPath)
    (lacks : ∀ output w, next output none w = (.error (failure useless 1 output), w))
    (finds : ∀ output place w,
      ∃ v, next output (some (.text place)) w = (.ok (value place), v) ∧ Logged w v) :
    ∃ ds r left t,
      (do
        let output ← runInstaller command name settings env
        let found ← Disk.which (.text name) env.searchPath
        next output found : Action α) v = (r.map value, t) ∧
      Enacted w ds t ∧ left.SamePrograms t.files ∧
      Provides settings env searchPath command name useless w.files ds r left := by
  obtain ⟨u, o, started, enacted, leaves, came⟩ := runInstaller_comes read name settings env v
  have logged := Law.trans noted started
  rcases ran : runInstaller command name settings env v with ⟨f | output, t⟩ <;>
    rw [ran] at enacted leaves came <;> dsimp only at enacted leaves came <;> rw [bind_run, ran]
  · exact ⟨_, .error f, _, t, rfl, logged.idle.trans enacted, leaves ▸ .refl _,
      .refused read logged.samePrograms came⟩
  · dsimp only
    rw [bind_run, searched, Disk.which_run, leaves]
    rcases found : (o.leaves argv settings.timeout u.files).program? searchPath name with _ | place
    · exact ⟨_, .error _, _, t, lacks output t, logged.idle.trans enacted, leaves ▸ .refl _,
        .absent read logged.samePrograms came found⟩
    · obtain ⟨last, ended, after⟩ := finds output place t
      exact ⟨_, .ok place, _, last, ended,
        Enacted.trans logged.idle (enacted.trans after.idle),
        leaves ▸ after.samePrograms, .provided read logged.samePrograms came found⟩

end Command

/-! ## The installer -/

/-- What it takes to make sure of the installer, and the files after that. -/
inductive Ensures (settings : InstallSettings) (env : Environment) (searchPath : String) :
    Bool → Files → List Deed → Except Fault Files → Prop
  | before {files : Files} : Ensures settings env searchPath true files [] (.ok files)
  | unnamed {files : Files} {ensured : Bool} (unnamed : settings.installer.isPresent = false) :
    Ensures settings env searchPath ensured files [] (.ok files)
  | there {files : Files} {installer place : String}
    (named : settings.installer = .text installer) (present : settings.installer.isPresent)
    (found : files.program? searchPath installer = some place) :
    Ensures settings env searchPath false files [] (.ok files)
  | unprovided {files : Files} {installer : String}
    (named : settings.installer = .text installer) (present : settings.installer.isPresent)
    (missing : files.program? searchPath installer = none)
    (unset : settings.bootstrap.isPresent = false) :
    Ensures settings env searchPath false files []
      (.error (failure (installer ++ " is not on PATH and no bootstrap command is configured")))
  | bootstrapped {files left : Files} {installer : String} {ds : List Deed}
    {r : Except Fault String}
    (named : settings.installer = .text installer) (present : settings.installer.isPresent)
    (missing : files.program? searchPath installer = none)
    (set : settings.bootstrap.isPresent)
    (provides : Provides settings env searchPath settings.bootstrap installer
      ("Bootstrap finished but " ++ installer ++ " is not on PATH (" ++ searchPath ++ ")") files ds
      r left) :
    Ensures settings env searchPath false files ds (r.map fun _ => left)

/-- What installation does for some packages and what comes of it, by whether the installer was made
sure of before and by the files that are there. -/
inductive Follows (settings : InstallSettings) (env : Environment) (searchPath : String) :
    Bool → Files → List String → List Deed → Except Fault (List Tool) → Prop
  | finished {ensured : Bool} {files : Files} :
    Follows settings env searchPath ensured files [] [] (.ok [])
  | present {ensured : Bool} {files : Files} {name place : String} {names : List String}
    {ds : List Deed} {r : Except Fault (List Tool)}
    (found : files.program? searchPath name = some place)
    (others : Follows settings env searchPath ensured files names ds r) :
    Follows settings env searchPath ensured files (name :: names) ds
      (r.map (⟨.text name, .text place, true⟩ :: ·))
  | unready {ensured : Bool} {files : Files} {name : String} {names : List String}
    {ds : List Deed} {f : Fault} (missing : files.program? searchPath name = none)
    (ensures : Ensures settings env searchPath ensured files ds (.error f)) :
    Follows settings env searchPath ensured files (name :: names) ds (.error f)
  | refused {ensured : Bool} {files between left : Files} {name command : String}
    {names : List String} {ds more : List Deed} {f : Fault}
    (missing : files.program? searchPath name = none)
    (ensures : Ensures settings env searchPath ensured files ds (.ok between))
    (filled : installCommand settings (.text name) = .ok command)
    (provides : Provides settings env searchPath (.text command) name
      (name ++ " was installed but is not on PATH (" ++ searchPath ++ ")") between more (.error f)
      left) :
    Follows settings env searchPath ensured files (name :: names) (ds ++ more) (.error f)
  | installed {ensured : Bool} {files between left : Files} {name command place : String}
    {names : List String} {ds more rest : List Deed} {r : Except Fault (List Tool)}
    (missing : files.program? searchPath name = none)
    (ensures : Ensures settings env searchPath ensured files ds (.ok between))
    (filled : installCommand settings (.text name) = .ok command)
    (provides : Provides settings env searchPath (.text command) name
      (name ++ " was installed but is not on PATH (" ++ searchPath ++ ")") between more (.ok place)
      left)
    (others : Follows settings env searchPath true left names rest r) :
    Follows settings env searchPath ensured files (name :: names) (ds ++ (more ++ rest))
      (r.map (⟨.text name, .text place, false⟩ :: ·))

section Protocol

variable {settings : InstallSettings} {env : Environment} {searchPath name : String}
  {ensured : Bool} {files other : Files} {names : List String} {ds : List Deed} {w : World}

/-- Only the programs at the start matter, and those at the end are the same too. -/
theorem Ensures.congr {r : Except Fault Files} (same : other.SamePrograms files)
    (ensures : Ensures settings env searchPath ensured files ds r) :
    ∃ s, Ensures settings env searchPath ensured other ds s ∧
      (∀ f, r = .error f → s = .error f) ∧
      ∀ after, r = .ok after → ∃ between, s = .ok between ∧ between.SamePrograms after := by
  have eq := same.program?_eq searchPath
  cases ensures with
  | before => exact ⟨_, .before, nofun, fun _ h => ⟨_, rfl, by cases h; exact same⟩⟩
  | unnamed unnamed => exact ⟨_, .unnamed unnamed, nofun, fun _ h => ⟨_, rfl, by cases h; exact same⟩⟩
  | there named present found =>
    exact ⟨_, .there named present ((eq _).symm.trans found), nofun,
      fun _ h => ⟨_, rfl, by cases h; exact same⟩⟩
  | unprovided named present missing unset =>
    exact ⟨_, .unprovided named present ((eq _).symm.trans missing) unset, fun _ h => h, nofun⟩
  | bootstrapped named present missing set provides =>
    exact ⟨_, .bootstrapped named present ((eq _).symm.trans missing) set (provides.congr same),
      fun _ h => h, fun after h => ⟨after, h, .refl _⟩⟩

/-- Installation depends on the files only through the programs that are there. -/
theorem Follows.congr {r : Except Fault (List Tool)} (same : other.SamePrograms files)
    (follows : Follows settings env searchPath ensured files names ds r) :
    Follows settings env searchPath ensured other names ds r := by
  induction follows generalizing other with
  | finished => exact .finished
  | present found others ih =>
    exact .present ((same.program?_eq _ _).symm.trans found) (ih same)
  | unready missing ensures =>
    obtain ⟨s, ensures, failed, -⟩ := ensures.congr same
    obtain rfl := failed _ rfl
    exact .unready ((same.program?_eq _ _).symm.trans missing) ensures
  | refused missing ensures filled provides =>
    obtain ⟨s, ensures, -, went⟩ := ensures.congr same
    obtain ⟨between, rfl, alike⟩ := went _ rfl
    exact .refused ((same.program?_eq _ _).symm.trans missing) ensures filled (provides.congr alike)
  | installed missing ensures filled provides others ih =>
    obtain ⟨s, ensures, -, went⟩ := ensures.congr same
    obtain ⟨between, rfl, alike⟩ := went _ rfl
    exact .installed ((same.program?_eq _ _).symm.trans missing) ensures filled
      (provides.congr alike) others

/-- Settings by which some packages can be installed: all commands can be read, and what is compared
or looked for has the type it should have. -/
structure IsReadable (settings : InstallSettings) (env : Environment) (searchPath : String)
    (names : List String) : Prop where
  packages : settings.packages = names.map .text
  searched : env.searchPath = .text searchPath
  installer : settings.installer.isPresent → ∃ name, settings.installer = .text name
  bootstrap : settings.bootstrap.isPresent → ∃ argv, Command.words settings.bootstrap = .ok argv
  commands : ∀ name ∈ names, ∃ command argv,
    installCommand settings (.text name) = .ok command ∧ Command.words (.text command) = .ok argv

/-- Providing the installer, when there is a command for that. -/
theorem bootstrap_provides (readable : IsReadable settings env searchPath names)
    {installer : String} (named : settings.installer = .text installer)
    (set : settings.bootstrap.isPresent) (w : World) :
    ∃ ds r left v, bootstrap settings env w = (r.map fun _ => (), v) ∧ Enacted w ds v ∧
      left.SamePrograms v.files ∧
      Provides settings env searchPath settings.bootstrap installer
        ("Bootstrap finished but " ++ installer ++ " is not on PATH (" ++ searchPath ++ ")") w.files
        ds r left := by
  obtain ⟨argv, read⟩ := readable.bootstrap set
  have logged := (log_onlyLogs .info "install"
    (installer ++ " not found; bootstrapping with: " ++ settings.bootstrap.display) w).1
  unfold bootstrap
  rw [set, Bool.not_true, if_neg Bool.false_ne_true, named, Value.display, bind_run, log_run]
  exact runInstaller_provides logged read readable.searched
    (fun output w => by rw [readable.searched]; rfl) (fun _ _ w => ⟨w, rfl, Law.refl w⟩)

/-- Installing a package that is not there. -/
theorem installPackage_provides (readable : IsReadable settings env searchPath names)
    {command : String} {argv : List String}
    (filled : installCommand settings (.text name) = .ok command)
    (read : Command.words (.text command) = .ok argv) (w : World) :
    ∃ ds r left v,
      installPackage settings env (.text name) w =
        (r.map fun place => ⟨.text name, .text place, false⟩, v) ∧
      Enacted w ds v ∧ left.SamePrograms v.files ∧
      Provides settings env searchPath (.text command) name
        (name ++ " was installed but is not on PATH (" ++ searchPath ++ ")") w.files ds r left := by
  have logged := (log_onlyLogs .info "install" ("Installing " ++ name) w).1
  unfold installPackage
  rw [Value.display, bind_run, log_run, filled, ofResult_ok_bind]
  exact runInstaller_provides logged read readable.searched
    (fun output w => by rw [readable.searched]; rfl)
    (fun _ place w =>
      ⟨_, rfl, (log_onlyLogs .info "install" ("Installed " ++ name ++ " at " ++ place) w).1⟩)

/-- By whether it was made sure of before, whether there is a name, and whether its program is
found. Otherwise the bootstrap has to provide it. -/
theorem ensureInstaller_ensures (readable : IsReadable settings env searchPath names)
    (ensured : Bool) (w : World) :
    ∃ ds r v, ensureInstaller settings env ensured w = (r.map fun _ => (), v) ∧ Enacted w ds v ∧
      Ensures settings env searchPath ensured w.files ds r ∧
      ∀ after, r = .ok after → after.SamePrograms v.files := by
  have idle : Enacted w [] w := (Law.refl w : Idle w w)
  have unchanged : ∀ after, (Except.ok w.files : Except Fault Files) = .ok after →
      after.SamePrograms w.files := by
    rintro _ ⟨⟩
    exact .refl _
  unfold ensureInstaller
  cases ensured with
  | true =>
    rw [Bool.not_true, Bool.and_false, if_neg Bool.false_ne_true]
    exact ⟨[], .ok w.files, w, rfl, idle, .before, unchanged⟩
  | false =>
    rw [Bool.not_false, Bool.and_true]
    by_cases present : settings.installer.isPresent
    · obtain ⟨installer, named⟩ := readable.installer present
      rw [if_pos present, readable.searched, named, bind_run, Disk.which_run]
      rcases found : w.files.program? searchPath installer with _ | place
      · simp only [Option.map_none, Option.isNone_none, if_true]
        by_cases set : settings.bootstrap.isPresent
        · obtain ⟨ds, r, left, v, ran, enacted, same, provides⟩ :=
            bootstrap_provides readable named set w
          refine ⟨ds, r.map fun _ => left, v, ?_, enacted,
            .bootstrapped named present found set provides, ?_⟩
          · rw [ran]
            cases r <;> rfl
          · rintro after went
            cases r <;> cases went
            exact same
        · have unset : settings.bootstrap.isPresent = false := by simpa using set
          refine ⟨[], .error _, w, ?_, idle, .unprovided named present found unset, nofun⟩
          unfold bootstrap
          rw [unset, Bool.not_false, if_pos rfl, named]
          rfl
      · simp only [Option.map_some, Option.isNone_some, Bool.false_eq_true, if_false]
        exact ⟨[], .ok w.files, w, rfl, idle, .there named present found, unchanged⟩
    · rw [if_neg present]
      exact ⟨[], .ok w.files, w, rfl, idle, .unnamed (by simpa using present), unchanged⟩

/-- Whatever packages are left, installation follows the protocol. -/
theorem installAll_follows (readable : IsReadable settings env searchPath names)
    {left : List String} (among : ∀ name ∈ left, name ∈ names) (ensured : Bool) (w : World) :
    ∃ ds, Enacted w ds (installAll settings env ensured (left.map .text) w).2 ∧
      Follows settings env searchPath ensured w.files left ds
        (installAll settings env ensured (left.map .text) w).1 := by
  induction left generalizing ensured w with
  | nil => exact ⟨[], (Law.refl w : Idle w w), .finished⟩
  | cons name rest ih =>
    obtain ⟨here, others⟩ := List.forall_mem_cons.mp among
    rw [List.map_cons, installAll, readable.searched, bind_run, Disk.which_run]
    rcases found : w.files.program? searchPath name with _ | place
    · obtain ⟨ds, r, u, ran, before, ensures, alike⟩ := ensureInstaller_ensures readable ensured w
      dsimp only [Option.map_none]
      rw [bind_run, ran]
      rcases r with f | between
      · exact ⟨ds, before, .unready found ensures⟩
      obtain ⟨command, argv, filled, read⟩ := readable.commands name here
      obtain ⟨more, s, left, v, installed, after, same, provides⟩ :=
        installPackage_provides readable filled read u
      have provides := provides.congr (alike between rfl)
      dsimp only [Except.map]
      rw [bind_run, installed]
      rcases s with f | place
      · exact ⟨ds ++ more, before.trans after, .refused found ensures filled provides⟩
      · obtain ⟨last, ends, follows⟩ := ih others true v
        have follows := Follows.installed found ensures filled provides (follows.congr same)
        dsimp only [Except.map]
        rw [bind_run]
        rcases went : installAll settings env true (rest.map .text) v with ⟨f | tools, t⟩ <;>
          rw [went] at ends follows <;>
          exact ⟨_, before.trans (after.trans ends), follows⟩
    · have logged := (log_onlyLogs .info "install"
        (name ++ " already installed at " ++ place) w).1
      dsimp only [Option.map_some, Value.display]
      rw [bind_run, log_run]
      obtain ⟨last, ends, follows⟩ := ih others ensured
        (log .info "install" (name ++ " already installed at " ++ place) w).2
      have follows := Follows.present found (follows.congr logged.samePrograms)
      dsimp only
      rw [bind_run]
      rcases went : installAll settings env ensured (rest.map .text)
        (log .info "install" (name ++ " already installed at " ++ place) w).2 with ⟨f | tools, t⟩ <;>
        rw [went] at ends follows <;>
        exact ⟨_, Enacted.trans logged.idle ends, follows⟩

/-! ## What follows from the protocol -/

/-- A failure of the installation itself. -/
def IsSetupFailure (f : Fault) : Prop :=
  ∃ s, f = .stage s ∧ s.stage = "install" ∧ s.kind = .setup

/-- It is made as one. -/
theorem failure_isSetupFailure (message output : String) (code : Int) :
    IsSetupFailure (failure message code output) := ⟨_, rfl, rfl, rfl⟩

/-- Some process was started of which nothing can be told, and its fault is the one at hand. -/
def IsBreak (ds : List Deed) (f : Fault) : Prop :=
  ∃ c o files, .process c c.timeout o files ∈ ds ∧
    Program.Breaks (c.argv.headD "") c.timeout o f

/-- Why an installation stops: a failure of its own, or a process of which nothing can be told. -/
def Ends (ds : List Deed) (f : Fault) : Prop := IsSetupFailure f ∨ IsBreak ds f

/-- A process that is the cause is still among the deeds. -/
theorem Ends.append_left {f : Fault} (ends : Ends ds f) (more : List Deed) : Ends (more ++ ds) f :=
  ends.imp_right fun ⟨c, o, files, among, breaks⟩ =>
    ⟨c, o, files, List.mem_append_right _ among, breaks⟩

/-- A process that was refused tells a failure of the installation or breaks; a program that is
missing afterwards is a failure. -/
theorem Provides.fault {command : Value} {useless : String} {left : Files} {f : Fault}
    (provides : Provides settings env searchPath command name useless files ds (.error f) left) :
    Ends ds f := by
  cases provides with
  | refused read same came =>
    cases came with
    | failed | late | notFound => exact .inl (failure_isSetupFailure _ _ _)
    | broken breaks => exact .inr ⟨_, _, _, List.mem_singleton.mpr rfl, breaks⟩
  | absent => exact .inl (failure_isSetupFailure _ _ _)

/-- Either there is no bootstrap, or the bootstrap did not provide the installer. -/
theorem Ensures.fault {r : Except Fault Files} {f : Fault}
    (ensures : Ensures settings env searchPath ensured files ds r) (failed : r = .error f) :
    Ends ds f := by
  cases ensures with
  | before | unnamed | there => cases failed
  | unprovided =>
    cases failed
    exact .inl (failure_isSetupFailure _ _ _)
  | @bootstrapped _ _ _ _ r _ _ _ _ provides =>
    cases r with
    | error g =>
      cases failed
      exact provides.fault
    | ok place => cases failed

/-- Installation ends with one entry for each package, or with a failure of its own, unless nothing
can be told of a process. -/
theorem Follows.ends {r : Except Fault (List Tool)}
    (follows : Follows settings env searchPath ensured files names ds r) :
    (∀ tools, r = .ok tools → tools.map Tool.package = names.map .text) ∧
      ∀ f, r = .error f → Ends ds f := by
  -- An entry in front of the others is the one for the package in front.
  have entry {r : Except Fault (List Tool)} {name place : String} {names : List String}
      {ds : List Deed} (there : Bool) (before : List Deed)
      (ends : (∀ tools, r = .ok tools → tools.map Tool.package = names.map .text) ∧
        ∀ f, r = .error f → Ends ds f) :
      (∀ tools, r.map (⟨.text name, .text place, there⟩ :: ·) = .ok tools →
          tools.map Tool.package = (name :: names).map .text) ∧
        ∀ f, r.map (⟨.text name, .text place, there⟩ :: ·) = .error f → Ends (before ++ ds) f := by
    cases r with
    | error f =>
      exact ⟨nofun, fun g failed => (ends.2 g (by cases failed; rfl)).append_left before⟩
    | ok tools =>
      refine ⟨fun all ended => ?_, nofun⟩
      cases ended
      exact congrArg (Value.text name :: ·) (ends.1 tools rfl)
  induction follows with
  | finished => exact ⟨fun tools ended => by cases ended; rfl, nofun⟩
  | present found others ih => exact entry true [] ih
  | unready missing ensures => exact ⟨nofun, fun g failed => ensures.fault (by cases failed; rfl)⟩
  | refused missing ensures filled provides =>
    exact ⟨nofun, fun g failed => by cases failed; exact provides.fault.append_left _⟩
  | @installed _ _ _ _ _ _ _ _ ds more rest _ missing ensures filled provides others ih =>
    rw [← List.append_assoc]
    exact entry false (ds ++ more) ih

/-- If all packages are there, nothing is started, and nothing but the packages and the environment
matters. -/
theorem installAll_idle (searched : env.searchPath = .text searchPath)
    (there : ∀ name ∈ names, (w.files.program? searchPath name).isSome) :
    ∃ tools v, Logged w v ∧
      ∀ settings ensured, installAll settings env ensured (names.map .text) w = (.ok tools, v) := by
  induction names generalizing w with
  | nil => exact ⟨[], w, Law.refl w, fun _ _ => rfl⟩
  | cons name rest ih =>
    obtain ⟨here, others⟩ := List.forall_mem_cons.mp there
    obtain ⟨place, found⟩ := Option.isSome_iff_exists.mp here
    have logged := (log_onlyLogs .info "install"
      (name ++ " already installed at " ++ place) w).1
    obtain ⟨tools, v, after, ran⟩ := ih fun other among => by
      rw [logged.samePrograms.program?_eq]
      exact others other among
    refine ⟨⟨.text name, .text place, true⟩ :: tools, v, Law.trans logged after,
      fun settings ensured => ?_⟩
    rw [List.map_cons, installAll, searched, bind_run, Disk.which_run, found]
    dsimp only [Option.map_some, Value.display]
    rw [bind_run, log_run]
    dsimp only
    rw [bind_run, ran]
    rfl

end Protocol

/-- A world without an installer, in which one process brings it and the next one the package. -/
def bareHost : World where
  files := { root := [("b", .folder []), ("w", .folder [])] }
  processes := ⟨[{ edits := [.write (.parse "/b/get") ByteArray.empty true] },
    { edits := [.write (.parse "/b/tool") ByteArray.empty true] }], {}⟩
  replies := ⟨[], .refused .connection ""⟩

def bareSettings : InstallSettings where
  command := .text "get \x7bpackage\x7d"
  packages := [.text "tool"]
  installer := .text "get"
  bootstrap := .text "sh get.sh"

end Installation

end BuildBench
