import BuildBench.Proofs.Run.OwnChanges
import BuildBench.Proofs.Stages.DownloadPlace

/-!
# The temporary report

The external timing program reports to a temporary file that was made for it. However the program
ends and whatever it left there, the file is taken away again, so the temporary folder is as it was
before; only open log files in it have become longer by the records of the run.
-/

namespace BuildBench

open BuildBench.Action

/-- The name of the temporary report in its folder. -/
def World.reportName (w : World) : String := "binbench-hyperfine-" ++ w.unique ++ ".json"

variable {w u v : World} {dest location : Location} {name : String} {folder : PathName}

/-! ## What is in a folder -/

/-- By what happened at the place: nothing, or more was put behind the content of an open log, twice
or once. -/
theorem SameAt.trans (first : SameAt location w u) (host : SameHost w u)
    (second : SameAt location u v) : SameAt location w v := by
  rcases first with same | ⟨content, added, executable, opened, before, after⟩
  · rcases second with alike | ⟨content, added, executable, opened, before, after⟩
    · exact .inl (alike.trans same)
    · exact .inr ⟨content, added, executable, host.logs _ opened, same ▸ before, after⟩
  · rcases second with alike | ⟨more, last, permitted, -, held, further⟩
    · exact .inr ⟨content, added, executable, opened, before, alike.trans after⟩
    · rw [after] at held
      cases held
      exact .inr ⟨content, added ++ last, executable, opened, before,
        by rw [← ByteArray.append_assoc]; exact further⟩

/-- What is in a folder is the same, but for one name. -/
def SameBut (dest : Location) (name : String) (w v : World) : Prop :=
  ∀ location, dest <+: location → location ≠ dest ++ [name] → SameAt location w v

/-- Place by place. -/
theorem SameBut.trans (first : SameBut dest name w u) (host : SameHost w u)
    (second : SameBut dest name u v) : SameBut dest name w v :=
  fun location inside other =>
    (first location inside other).trans host (second location inside other)

/-- A folder is found under its name, and at most a file is in it under the other name. -/
structure Files.Offers (files : Files) (folder : PathName) (dest : Location) (name : String) :
    Prop where
  opens : files.Opens folder dest
  plain : ∀ kind, files.root.kind? (dest ++ [name]) = some kind → kind = .file

/-- From some files to others, what is in a folder changed at most under one name, where at most a
file is then; the folder is still found. -/
structure Files.ReportsOnly (folder : PathName) (dest : Location) (name : String)
    (before after : Files) : Prop extends after.Offers folder dest name where
  others : ∀ location, dest <+: location → location ≠ dest ++ [name] →
    after.root.node? location = before.root.node? location

/-- A plain file there is no link. -/
theorem Files.Offers.admits {files : Files} (offers : files.Offers folder dest name) :
    files.Admits folder dest name :=
  ⟨offers.opens, fun _ link => by cases offers.plain _ link⟩

/-- Logging keeps every kind. -/
theorem Logged.offers (logged : Logged w v) (offers : w.files.Offers folder dest name) :
    v.files.Offers folder dest name where
  opens := offers.opens.of_grows logged.kinds logged.current
  plain kind held := offers.plain kind (by rw [← logged.kind_eq]; exact held)

/-! ## Processes that only report -/

namespace Files

variable {files changed between : Files}

/-- The only place that has changed is that of the report. -/
theorem Offers.of_oneLeaf (offers : files.Offers folder dest name)
    (alters : OneLeaf (dest ++ [name]) files changed) :
    files.ReportsOnly folder dest name changed where
  opens := (offers.admits.after alters).opens
  plain := alters.plain
  others location _ other := alters.others location other

/-- Place by place, outside that of the report. -/
theorem ReportsOnly.trans (first : files.ReportsOnly folder dest name between)
    (second : between.ReportsOnly folder dest name changed) :
    files.ReportsOnly folder dest name changed where
  toOffers := second.toOffers
  others location inside other :=
    (second.others location inside other).trans (first.others location inside other)

/-- Every place is as it was. -/
theorem Offers.unchanged (offers : files.Offers folder dest name) :
    files.ReportsOnly folder dest name files := ⟨offers, fun _ _ _ => rfl⟩

/-- The folder of the report is there already, so no folder is made. -/
theorem Offers.withFolders (offers : files.Offers folder dest name) :
    withFolders files (folder.child name) = files := by
  have parent : (folder.child name).parent = folder := by
    simp [PathName.child, PathName.parent]
  rw [BuildBench.withFolders, parent, makeFolders_of_opens offers.opens]
  rfl

/-- The name leads to no place but that of the report. -/
theorem Offers.setExecutable {executable : Bool} (offers : files.Offers folder dest name)
    (notDot : name ≠ ".")
    (marked : files.setExecutable (folder.child name) executable = .ok changed) :
    files.ReportsOnly folder dest name changed := by
  obtain rfl | ⟨goal, content, leads, held, rfl⟩ := setExecutable_ok marked
  · exact offers.unchanged
  · have closed : files.root.kind? goal ≠ some .folder := by simp [held]
    obtain rfl := offers.admits.goal_eq notDot leads closed
    exact offers.of_oneLeaf (oneLeaf_of_put leads closed)

/-- The folder is there, so at most the file of the report is written, and then marked. -/
theorem Offers.write (offers : files.Offers folder dest name) (notDot : name ≠ ".")
    (content : ByteArray) (executable : Bool) :
    files.ReportsOnly folder dest name
      ((FileEdit.write (folder.child name) content executable).apply files) := by
  unfold FileEdit.apply
  dsimp only
  rw [offers.withFolders]
  rcases written : files.write (folder.child name) content with e | between
  · exact offers.unchanged
  have stored := offers.of_oneLeaf (offers.admits.write notDot written)
  change files.ReportsOnly folder dest name
    (orUnchanged files (between.setExecutable (folder.child name) executable))
  rcases marked : between.setExecutable (folder.child name) executable with e | changed
  · exact offers.unchanged
  · exact stored.trans (stored.setExecutable notDot marked)

/-- The name leads to no place but that of the report, which is taken away or stays. -/
theorem Offers.remove (offers : files.Offers folder dest name) (notDot : name ≠ ".")
    (notUp : name ≠ "..") :
    files.ReportsOnly folder dest name ((FileEdit.remove (folder.child name)).apply files) := by
  unfold FileEdit.apply
  dsimp only
  rw [offers.withFolders, discard]
  rcases placed : files.place false (folder.child name) with e | place
  · exact offers.unchanged
  have leads := (leads_of_place placed).1
  have here : place.location = dest ++ [name] :=
    leads.unique (offers.opens.child notDot notUp leads.sound)
  dsimp only
  split
  · rw [here]
    refine offers.of_oneLeaf (oneLeaf_of_remove fun held => ?_)
    cases offers.plain _ held
  · exact offers.unchanged

/-- A process without changes of its own changes nothing but its report. -/
theorem Offers.reports {o : Outcome} {argv : List String} (offers : files.Offers folder dest name)
    (notDot : name ≠ ".") (notUp : name ≠ "..") (limit : Value) (idle : o.edits = [])
    (early : o.earlyEdits = []) (asked : Program.reportFile? argv = some (folder.child name)) :
    files.ReportsOnly folder dest name (o.leaves argv limit files) := by
  have cleared {changed : Files} (written : files.ReportsOnly folder dest name changed) :
      files.ReportsOnly folder dest name
        ((if o.removesReport then [FileEdit.remove (folder.child name)] else []).foldl
          FileEdit.apply changed) := by
    split
    · exact written.trans (written.toOffers.remove notDot notUp)
    · exact written
  have changed : files.ReportsOnly folder dest name
      ((Program.changes o argv).foldl FileEdit.apply files) := by
    rw [Program.changes, idle, asked]
    dsimp only
    rw [List.nil_append, List.foldl_append]
    refine cleared ?_
    split
    · exact offers.write notDot _ _
    · exact offers.unchanged
  unfold Outcome.leaves Outcome.made
  rw [early]
  split
  · split
    · exact changed
    · exact offers.unchanged
  · exact offers.unchanged
  · exact offers.unchanged

end Files

/-! ## Room for a report -/

/-- There is room for a temporary report: the folder for it is there, and nothing in it has its
name. -/
structure World.HasRoom (w : World) (dest : Location) : Prop where
  named : Disk.isName w.reportPath
  sound : w.reportPath.Sound
  opens : w.files.Opens w.temporary dest
  vacant : w.files.root.kind? (dest ++ [w.reportName]) = none

/-- The name ends with the five bytes of its suffix. -/
theorem World.length_reportName (w : World) : 5 ≤ w.reportName.utf8ByteSize := by
  unfold reportName
  rw [String.utf8ByteSize_append]
  exact Nat.le_add_left 5 _

/-- The name is longer than that. -/
theorem World.reportName_ne (w : World) {name : String} (short : name.utf8ByteSize < 5) :
    w.reportName ≠ name := by
  intro same
  have long := w.length_reportName
  rw [same] at long
  exact absurd short (Nat.not_lt.mpr long)

/-- The name is neither of the two dots, so it leads into the folder it stands in. -/
theorem World.HasRoom.leads {files : Files} (room : w.HasRoom dest)
    (opens : files.Opens w.temporary dest) :
    files.Leads false w.reportPath (dest ++ [w.reportName]) :=
  opens.child (w.reportName_ne (by decide)) (w.reportName_ne (by decide)) room.sound

namespace Timing

/-! ## The file is made, and taken away -/

/-- A temporary report is made where there is room for it. -/
theorem makeReportFile_makes (room : w.HasRoom dest) :
    ∃ v, makeReportFile w = (.ok w.reportPath, v) ∧ Untouched w v ∧
      SameBut dest w.reportName w v ∧ v.files.Offers w.temporary dest w.reportName := by
  have leads := room.leads room.opens
  have closed : w.files.root.kind? (dest ++ [w.reportName]) ≠ some .folder := by
    simp [room.vacant]
  have alters : Files.OneLeaf (dest ++ [w.reportName]) w.files
      (w.files.put (dest ++ [w.reportName]) (.file ByteArray.empty false)) :=
    Files.oneLeaf_of_put leads closed
  have admits : w.files.Admits w.temporary dest w.reportName :=
    ⟨room.opens, fun text link => by simp [room.vacant] at link⟩
  have placed : w.files.place false
      (w.temporary.child ("binbench-hyperfine-" ++ w.unique ++ ".json")) = .ok ⟨_, none⟩ :=
    leads.place.trans (by rw [Folder.kind?_eq_none.mp room.vacant])
  refine ⟨{ w with files := w.files.put (dest ++ [w.reportName]) (.file ByteArray.empty false) }, ?_,
    ⟨⟨rfl, rfl, rfl, fun _ opened => opened⟩, rfl, rfl, rfl⟩,
    fun location _ other => .inl (alters.others location other),
    (admits.after alters).opens, alters.plain⟩
  rw [makeReportFile, bind_run, get_run]
  dsimp only
  rw [placed]
  rfl

/-- By the kind of the entry: only a file is one. -/
theorem at?_of_kind?_file {root : Folder} (held : root.kind? location = some .file) :
    ∃ content executable, root.at? location = some (.file content executable) := by
  obtain ⟨n, node, same⟩ := Option.map_eq_some_iff.mp held
  cases n with
  | file content executable => exact ⟨content, executable, Files.at?_of_node?_file node⟩
  | _ => cases same

/-- A file, or nothing, is taken away for good, and nothing else is. -/
theorem unlinkIfThere_removes {path : PathName} (named : Disk.isName path)
    (offers : w.files.Offers folder dest name)
    (leads : w.files.Leads false path (dest ++ [name])) :
    ∃ v, Disk.unlinkIfThere path w = (.ok (), v) ∧ Untouched w v ∧ SameBut dest name w v ∧
      v.files.root.node? (dest ++ [name]) = none := by
  have untouched := (Disk.unlinkIfThere_quiet path w).1
  rcases held : w.files.root.kind? (dest ++ [name]) with _ | kind
  · have missing : w.files.unlink path = .error .notFound := by
      rw [Files.unlink, leads.place, Folder.kind?_eq_none.mp held]
      rfl
    obtain ⟨files, done, -⟩ | ⟨-, ran⟩ | ⟨e, refused, other, -⟩ := Disk.unlinkIfThere_cases named w
    · cases missing.symm.trans done
    · exact ⟨w, ran, Law.refl w, fun _ _ _ => .inl rfl, by
        rw [Folder.node?_eq_none]
        exact held⟩
    · cases missing.symm.trans refused
      exact absurd rfl other
  · obtain rfl := offers.plain kind held
    have closed : w.files.root.kind? (dest ++ [name]) ≠ some .folder := by simp [held]
    have alters := Files.oneLeaf_of_remove closed
    have done : w.files.unlink path =
        .ok { w.files with root := w.files.root.remove (dest ++ [name]) } := by
      obtain ⟨content, executable, there⟩ := at?_of_kind?_file held
      rw [Files.unlink, leads.place, there]
      rfl
    obtain ⟨files, unlinked, ran⟩ | ⟨missing, -⟩ | ⟨e, refused, -⟩ :=
      Disk.unlinkIfThere_cases named w
    · cases done.symm.trans unlinked
      rw [ran] at untouched
      refine ⟨_, ran, untouched, fun location _ other => .inl (alters.others location other), ?_⟩
      exact (Folder.node?_remove (by simp) w.files.root _).trans (if_pos (List.prefix_refl _))
    · cases done.symm.trans missing
    · cases done.symm.trans refused

/-! ## The process -/

/-- The arguments with which a command is timed. -/
def timerWords (command : Value) (report : PathName) (warmup runs : Value) :
    Except Fault (List String) := do
  Command.words (.list (← timerCommand command (some report) warmup runs))

/-- How a command is timed. -/
def timed (folder : PathName) (env : Environment) (argv : List String) : Program.Command where
  argv := argv
  folder := some folder.display
  env := some env

/-- What comes of the process that times a command. If it exits with zero its report is read, after
records of what it wrote. -/
inductive Times (report : PathName) (o : Outcome) (w : World) :
    Except Fault (Option TimingSummary × String) → World → Prop
  | reported {p : Program.Completed} {u : World} (ended : o.end? .null = some p)
    (success : p.exitCode = 0) (logged : Logged w u) :
    Times report o w ((readReport report u).1.map (·, p.stdout)) (readReport report u).2
  | failed {p : Program.Completed} (ended : o.end? .null = some p) (fails : p.exitCode ≠ 0) :
    Times report o w
      (.error (measureFailure ("hyperfine failed (exit " ++ intText p.exitCode ++ ")") p.exitCode
        p.output)) w
  | unreadable {reason : String} (launch : o.launch = .started)
    (unread : Program.completed o = .error (.undecodable reason)) :
    Times report o w (.error (.undecodable reason)) w
  | notFound (launch : o.launch = .notFound) :
    Times report o w
      (.error (measureFailure "hyperfine not found on PATH; was the install stage skipped?")) w
  | refused {reason : Refusal} {program : String} (launch : o.launch = .refused reason) :
    Times report o w (.error (reason.fault program)) w
  | interrupted (launch : o.launch = .interrupted) : Times report o w (.error .interrupted) w

/-- By how the timing command comes out: each outcome is one way for the timing to end, and the
report is read only after a success. -/
theorem timeWithReport_times {report : PathName} {command warmup runs : Value} {argv : List String}
    (written : timerWords command report warmup runs = .ok argv) (folder : PathName)
    (env : Environment) (w : World) :
    ∃ u v, Logged w u ∧
      Enacted u [.process (timed folder env argv) .null u.processes.next.1 u.files] v ∧
      v.files = u.processes.next.1.leaves argv .null u.files ∧
      Times report u.processes.next.1 v
        (timeWithReport report command folder env warmup runs w).1
        (timeWithReport report command folder env warmup runs w).2 := by
  unfold timerWords at written
  rcases filled : timerCommand command (some report) warmup runs with f | items <;>
    rw [filled] at written
  · cases written
  have written : Command.words (.list items) = .ok argv := written
  obtain ⟨u, v, logged, ran, enacted, left⟩ :=
    Command.run_read written (some folder) (some env) .null w
  have ran : Command.run (.list items) (some folder) (some env) .null w =
    (Program.verdict (timed folder env argv) u.processes.next.1, v) := ran
  refine ⟨u, v, logged, enacted, left, ?_⟩
  have inTime : Program.runsOut (timed folder env argv).timeout u.processes.next.1.wall =
    .ok false := rfl
  unfold timeWithReport
  rw [filled, ofResult_ok_bind, bind_run, tryCatch_run, ran]
  have comes := Program.verdict_comesOut (timed folder env argv) u.processes.next.1
  generalize Program.verdict (timed folder env argv) u.processes.next.1 = verdict at comes ⊢
  cases comes with
  | @ended p known =>
    dsimp only
    by_cases success : p.exitCode = 0
    · have quiet : Keeps Logged (fun _ => False) (logOutput .debug "bench.hyperfine" p.stderr) :=
        .forM fun _ => record_logged _
      obtain ⟨_, t, shown, logged⟩ := quiet.records v
      rw [if_pos success, bind_run, shown]
      have times := @Times.reported report u.processes.next.1 v p t known success logged
      dsimp only
      rw [bind_run]
      rcases read : readReport report t with ⟨f | summary, t'⟩ <;> rw [read] at times <;>
        exact times
    · rw [if_neg success]
      exact .failed known success
  | notFound launch => exact .notFound launch
  | late launch late => cases inTime.symm.trans late
  | broken breaks =>
    cases breaks with
    | @refused reason launch =>
      have refused := @Times.refused report u.processes.next.1 v reason (argv.headD "") launch
      cases reason <;> exact refused
    | interrupted launch => exact .interrupted launch
    | unwaitable launch unwaited => cases inTime.symm.trans unwaited
    | unreadable launch _ unread =>
      obtain ⟨p, read⟩ | ⟨reason, read⟩ := Program.completed_cases u.processes.next.1 <;>
        rw [read] at unread <;> cases unread
      exact .unreadable launch read

/-- Without arguments nothing is started. -/
theorem timeWithReport_unwritten {report : PathName} {command warmup runs : Value} {f : Fault}
    (unwritten : timerWords command report warmup runs = .error f) (folder : PathName)
    (env : Environment) (w : World) :
    ∃ g, timeWithReport report command folder env warmup runs w = (.error g, w) := by
  unfold timerWords at unwritten
  unfold timeWithReport
  rcases filled : timerCommand command (some report) warmup runs with g | items <;>
    rw [filled] at unwritten
  · exact ⟨g, rfl⟩
  · have unread : Command.words (.list items) = .error f := unwritten
    rw [ofResult_ok_bind, bind_run, tryCatch_run, Command.run, bind_run, unread, ofResult_run]
    cases f with
    | system e path => cases e <;> exact ⟨_, rfl⟩
    | _ => exact ⟨_, rfl⟩

/-- Only reading the report after a success can log. -/
theorem Times.logged {report : PathName} {o : Outcome}
    {r : Except Fault (Option TimingSummary × String)} (times : Times report o w r v) :
    Logged w v := by
  cases times with
  | reported _ _ logged =>
    exact Law.trans logged (readReport_obeys (fun _ _ _ => record_logged _) report _).1
  | failed | unreadable | notFound | refused | interrupted => exact Law.refl w

/-! ## The whole measurement -/

section Measure

variable {command warmup runs : Value} {argv : List String} {env : Environment}

/-- What is left when the report is taken away. -/
structure Cleared (dest : Location) (name : String) (w v : World) : Prop where
  host : SameHost w v
  others : SameBut dest name w v
  gone : v.files.root.node? (dest ++ [name]) = none

/-- The file is made, the timing is run, and the file is taken away whatever the timing gave. -/
theorem measureExternally_run (room : w.HasRoom dest) (command : Value) (folder : PathName)
    (env : Environment) (warmup runs : Value) :
    ∃ u, Untouched w u ∧ SameBut dest w.reportName w u ∧
      u.files.Offers w.temporary dest w.reportName ∧
      (∀ {r q}, timeWithReport w.reportPath command folder env warmup runs u = (r, q) →
        Idle q (measureExternally command folder env warmup runs w).2 ∧
        (q.files.Offers w.temporary dest w.reportName →
          (measureExternally command folder env warmup runs w).1 = r ∧
          Cleared dest w.reportName q (measureExternally command folder env warmup runs w).2)) := by
  obtain ⟨u, made, untouched, same, offers⟩ := makeReportFile_makes room
  refine ⟨u, untouched, same, offers, fun {r q} timed => ?_⟩
  have idle := (Disk.unlinkIfThere_quiet w.reportPath).idle q
  have whole : measureExternally command folder env warmup runs w =
      (do Disk.unlinkIfThere w.reportPath; ofResult r : Action _) q := by
    rw [measureExternally, bind_run, made]
    dsimp only
    rw [thenAlways, bind_run, attempt_run, timed]
  rw [whole, bind_run]
  refine ⟨?_, fun offers => ?_⟩
  · rcases ran : Disk.unlinkIfThere w.reportPath q with ⟨f | _, v⟩ <;> rw [ran] at idle
    · exact idle.1
    · dsimp only
      rw [ofResult_run]
      exact idle.1
  · obtain ⟨v, ran, untouched, others, gone⟩ :=
      unlinkIfThere_removes room.named offers (room.leads offers.opens)
    rw [ran]
    dsimp only
    rw [ofResult_run]
    exact ⟨rfl, untouched.toSameHost, others, gone⟩

/-- When the arguments can be written, one process is started while there is still nothing in the
temporary folder but what was there before and room for the report. What comes of the process is
what comes of the whole measurement, if no more than a file is left under the name of the report. -/
theorem measureExternally_timed (room : w.HasRoom dest)
    (written : timerWords command w.reportPath warmup runs = .ok argv) (folder : PathName)
    (env : Environment) :
    let ended := measureExternally command folder env warmup runs w
    ∃ t p r q, SameHost w t ∧ SameBut dest w.reportName w t ∧
      t.files.Offers w.temporary dest w.reportName ∧ SameHost t p ∧
      p.files = w.processes.next.1.leaves argv .null t.files ∧
      Times w.reportPath w.processes.next.1 p r q ∧
      Enacted w [.process (timed folder env argv) .null w.processes.next.1 t.files] ended.2 ∧
      (q.files.Offers w.temporary dest w.reportName →
        ended.1 = r ∧ Cleared dest w.reportName q ended.2) := by
  intro ended
  obtain ⟨u, untouched, same, offers, goes⟩ :=
    measureExternally_run room command folder env warmup runs
  obtain ⟨t, p, logged, enacted, left, times⟩ := timeWithReport_times written folder env u
  obtain ⟨idle, leaves⟩ := goes rfl
  have outcome : t.processes.next.1 = w.processes.next.1 := by
    rw [logged.processes, untouched.processes]
  rw [outcome] at enacted left times
  exact ⟨t, p, _, _, untouched.toSameHost.trans logged.toSameHost,
    same.trans untouched.toSameHost fun location _ _ => logged.sameAt location,
    logged.offers offers, enacted.toSameHost, left, times,
    (untouched.enacted.trans logged.idle).trans
      (enacted.trans (Enacted.trans times.logged.idle idle)),
    leaves⟩

/-- A command is timed by one process, if its arguments can be written, and by none otherwise.
However that ends, the temporary folder is as it was before but for log files that are open, as
long as the process has changed nothing in it but the report, and has not led its name elsewhere. -/
theorem measureExternally_cleans (room : w.HasRoom dest) (command : Value) (folder : PathName)
    (env : Environment) (warmup runs : Value) :
    let ended := measureExternally command folder env warmup runs w
    match timerWords command w.reportPath warmup runs with
    | .ok argv => ∃ before,
      before.Offers w.temporary dest w.reportName ∧
        Enacted w [.process (timed folder env argv) .null w.processes.next.1 before] ended.2 ∧
        (before.ReportsOnly w.temporary dest w.reportName
            (w.processes.next.1.leaves argv .null before) →
          ∀ location, dest <+: location → SameAt location w ended.2)
    | .error _ => (∃ f, ended.1 = .error f) ∧ Enacted w [] ended.2 ∧
      ∀ location, dest <+: location → SameAt location w ended.2 := by
  intro ended
  have vacant : w.files.root.node? (dest ++ [w.reportName]) = none :=
    Folder.node?_eq_none.mpr room.vacant
  have cleared {q : World} (host : SameHost w q) (kept : SameBut dest w.reportName w q)
      (cleared : Cleared dest w.reportName q ended.2) (location : Location)
      (inside : dest <+: location) : SameAt location w ended.2 := by
    by_cases here : location = dest ++ [w.reportName]
    · exact .inl (here ▸ cleared.gone.trans vacant.symm)
    · exact (kept location inside here).trans host (cleared.others location inside here)
  rcases written : timerWords command w.reportPath warmup runs with f | argv <;> dsimp only
  · obtain ⟨u, untouched, same, offers, goes⟩ :=
      measureExternally_run room command folder env warmup runs
    obtain ⟨g, unwritten⟩ := timeWithReport_unwritten written folder env u
    obtain ⟨idle, leaves⟩ := goes unwritten
    obtain ⟨failed, last⟩ := leaves offers
    exact ⟨⟨g, failed⟩, untouched.enacted.trans idle, cleared untouched.toSameHost same last⟩
  · obtain ⟨t, p, r, q, host, same, offers, after, left, times, enacted, leaves⟩ :=
      measureExternally_timed room written folder env
    refine ⟨t.files, offers, enacted, fun reports => ?_⟩
    have offered : p.files.Offers w.temporary dest w.reportName := left ▸ reports.toOffers
    have reported : SameBut dest w.reportName t p := fun location inside other =>
      .inl (by rw [left]; exact reports.others location inside other)
    refine cleared (host.trans (after.trans times.logged.toSameHost)) ?_
      (leaves (times.logged.offers offered)).2
    exact (same.trans host reported).trans (host.trans after) fun location _ _ =>
      times.logged.sameAt location

/-- A world with an empty temporary folder, and with one process to come. -/
def lab (o : Outcome) : World where
  files := { root := [("tmp", .folder [])] }
  processes := ⟨[o], {}⟩
  replies := ⟨[], .refused .connection ""⟩

/-- By following the name of the report in the folder for temporary files. -/
theorem lab_hasRoom (o : Outcome) : (lab o).HasRoom ["tmp"] where
  named := (rfl : Disk.isName (lab {}).reportPath = true)
  sound := (Files.place_eq_ok_iff.mp (rfl : (lab o).files.place false (lab o).reportPath =
    .ok ⟨["tmp", (lab o).reportName], none⟩)).1.sound
  opens := {
    leads := (Files.place_eq_ok_iff.mp (rfl : (lab o).files.place true (lab o).temporary =
      .ok ⟨["tmp"], some (.folder [])⟩)).1
    folder := rfl }
  vacant := rfl

/-- The one process of such a world only reports, unless it has changes of its own. -/
theorem lab_reports {o : Outcome} {before : Files} (idle : o.edits = []) (early : o.earlyEdits = [])
    (offers : before.Offers (lab o).temporary ["tmp"] (lab o).reportName) :
    before.ReportsOnly (lab o).temporary ["tmp"] (lab o).reportName
      (o.leaves ["hyperfine", "--export-json", "/tmp/binbench-hyperfine-XXXXXXXX.json", "x"] .null
        before) :=
  offers.reports ((lab o).reportName_ne (by decide)) ((lab o).reportName_ne (by decide)) .null idle
    early rfl

/-- The command exits with code 3, and the file it was given is gone afterwards. -/
theorem measureExternally_cleans_failure :
    let o : Outcome := { exitCode := 3, report := some ByteArray.empty }
    let argv := ["hyperfine", "--export-json", "/tmp/binbench-hyperfine-XXXXXXXX.json", "x"]
    let ended := measureExternally (.text "x") (.parse "/") [] .null .null (lab o)
    (lab o).HasRoom ["tmp"] ∧ ∃ before,
      Enacted (lab o) [.process (timed (.parse "/") [] argv) .null o before] ended.2 ∧
      before.ReportsOnly (lab o).temporary ["tmp"] (lab o).reportName
        (o.leaves argv .null before) ∧
      ∀ location, ["tmp"] <+: location → SameAt location (lab o) ended.2 := by
  intro o argv ended
  obtain ⟨before, offers, enacted, cleans⟩ :=
    measureExternally_cleans (lab_hasRoom o) (.text "x") (.parse "/") [] .null .null
  have reports := lab_reports rfl rfl offers
  exact ⟨lab_hasRoom o, before, enacted, reports, cleans reports⟩

/-- Nothing is started when the number of runs is too long to be written. A log file in the temporary
folder has become longer in the end. -/
theorem measureExternally_exceptions :
    let unstarted := measureExternally (.text "x") (.parse "/") [] .null (.int (Nat.pow 10 4300))
      (lab {})
    let logging := { lab {} with
      files := { root := [("tmp", .folder [("run.log", .file ByteArray.empty false)])] }
      handlers := [.file ["tmp", "run.log"]] }
    let recorded := measureExternally (.text "x") (.parse "/") [] .null .null logging
    ((lab {}).deedsUntil unstarted.2).isEmpty ∧
      (recorded.2.files.read (.parse "/tmp/run.log")).toOption ≠
        (logging.files.read (.parse "/tmp/run.log")).toOption :=
  ⟨by decide +kernel, by decide +kernel⟩

end Measure

end Timing

end BuildBench
