import BuildBench.Proofs.Files.WriteReach
import BuildBench.Proofs.History.Outside

/-!
# What a process leaves behind

A process that ends in time has made its changes to the files, one after the other; one that is
stopped has made those that it came to. What the run itself knows of a process besides is in its
history.
-/

namespace BuildBench

open BuildBench.Action

variable {files : Files} {w v : World}

/-! ## Changes of a process -/

/-- A change that fails leaves the tree as it was. -/
theorem Files.orUnchanged_tidy {ε : Type} {changed : Except ε Files} (tidy : files.Tidy)
    (each : ∀ after, changed = .ok after → after.Tidy) : (orUnchanged files changed).Tidy := by
  cases changed with
  | error e => exact tidy
  | ok after => exact each after rfl

/-- Folders that are made on the way come under proper names. -/
theorem Files.withFolders_tidy (tidy : files.Tidy) (path : PathName) :
    (withFolders files path).Tidy :=
  orUnchanged_tidy tidy fun _ made => (makeFolders_ok made).1.tidy tidy

/-- Taking an entry away leaves all others in their order. -/
theorem Files.discard_tidy (tidy : files.Tidy) (path : PathName) : (files.discard path).Tidy := by
  unfold Files.discard
  split
  · split
    · exact Folder.tidy_remove _ tidy
    · exact tidy
  · exact tidy

/-- Each kind of change is an operation that keeps trees in order, after folders were made on the
way. -/
theorem FileEdit.apply_tidy (tidy : files.Tidy) (edit : FileEdit) : (edit.apply files).Tidy := by
  cases edit with
  | makeFolder path =>
    exact Files.orUnchanged_tidy tidy fun _ made => (Files.makeFolders_ok made).1.tidy tidy
  | write path content executable =>
    have above := Files.withFolders_tidy tidy path
    refine Files.orUnchanged_tidy above fun after done => ?_
    rcases written : (withFolders files path).write path content with e | between <;>
      rw [written] at done
    · cases done
    · have stored : Files.Reaches (fun _ => True) (withFolders files path) between :=
        Files.write_reaches written trivial
      have marked : Files.Reaches (fun _ => True) between after :=
        Files.setExecutable_reaches done trivial
      exact marked.tidy (stored.tidy above)
  | setExecutable path executable =>
    have above := Files.withFolders_tidy tidy path
    refine Files.orUnchanged_tidy above fun after done => ?_
    have marked : Files.Reaches (fun _ => True) (withFolders files path) after :=
      Files.setExecutable_reaches done trivial
    exact marked.tidy above
  | link target path =>
    have above := Files.withFolders_tidy tidy path
    exact Files.orUnchanged_tidy above fun after made => (Files.makeLink_reaches made).tidy above
  | remove path => exact Files.discard_tidy (Files.withFolders_tidy tidy path) path

/-- By induction on the changes. -/
theorem applyEdits_tidy (edits : List FileEdit) (tidy : files.Tidy) :
    (edits.foldl FileEdit.apply files).Tidy := by
  induction edits generalizing files with
  | nil => exact tidy
  | cons edit rest ih => exact ih (edit.apply_tidy tidy)

/-- The changes that a process makes before it has ended or is stopped. -/
def Outcome.made (o : Outcome) (argv : List String) (limit : Value) : List FileEdit :=
  match o.launch with
  | .started =>
    match Program.runsOut limit o.wall with
    | .ok false => Program.changes o argv
    | _ => o.earlyEdits
  | .interrupted => o.earlyEdits
  | _ => []

/-- The files after a process that was started with some files. -/
def Outcome.leaves (o : Outcome) (argv : List String) (limit : Value) (files : Files) : Files :=
  (o.made argv limit).foldl FileEdit.apply files

/-- What a process leaves is a tree in order, however it ended. -/
theorem Outcome.leaves_tidy (o : Outcome) (argv : List String) (limit : Value)
    (tidy : files.Tidy) : (o.leaves argv limit files).Tidy :=
  applyEdits_tidy _ tidy

/-! ## One process -/

/-- Two worlds on the same machine: temporary files go to the same place under the same names. -/
structure SameTemporary (w v : World) : Prop where
  folder : v.temporary = w.temporary
  unique : v.unique = w.unique

instance : Law SameTemporary where
  refl _ := ⟨rfl, rfl⟩
  trans first second := ⟨second.folder.trans first.folder, second.unique.trans first.unique⟩

/-- Two worlds on the same machine with the same files. -/
structure SameDisk (w v : World) : Prop extends SameTemporary w v where
  files : v.files = w.files

instance : Law SameDisk where
  refl w := ⟨Law.refl w, rfl⟩
  trans first second :=
    ⟨Law.trans first.toSameTemporary second.toSameTemporary, second.files.trans first.files⟩

/-- A note changes no file. -/
theorem noted_sameDisk (event : Event) (w : World) : SameDisk w (noted event w) := ⟨⟨rfl, rfl⟩, rfl⟩

/-- Nor does taking it fail. -/
theorem note_sameDisk {F : Fault → Prop} (event : Event) : Keeps SameDisk F (note event) :=
  fun w => ⟨noted_sameDisk event w, fun _ failed => by simp [note_run] at failed⟩

/-- A command ran as the only deed, and the files are those that it left behind. -/
structure Ran (w v : World) : Prop extends SameTemporary w v where
  left : ∃ c limit, Enacted w [.process c limit w.processes.next.1 w.files] v ∧
    v.files = w.processes.next.1.leaves c.argv limit w.files

namespace Program

/-- A start changes no file by itself. -/
theorem launched_sameDisk (c : Command) (w : World) : SameDisk w (launched c w) := ⟨⟨rfl, rfl⟩, rfl⟩

/-- By induction on the changes: the files are changed one change after the other. -/
theorem applyAll_files (edits : List FileEdit) (w : World) :
    SameTemporary w (applyAll edits w) ∧
      (applyAll edits w).files = edits.foldl FileEdit.apply w.files := by
  induction edits generalizing w with
  | nil => exact ⟨Law.refl w, rfl⟩
  | cons edit rest ih =>
    obtain ⟨same, files⟩ := ih (w.withFiles (edit.apply w.files))
    exact ⟨⟨same.folder, same.unique⟩, files⟩

/-- Time changes no file. -/
theorem clock_sameDisk (w : World) (clock : Float) : SameDisk w { w with clock := clock } :=
  ⟨⟨rfl, rfl⟩, rfl⟩

/-- Waiting for a process that was started ends with the files that it leaves. -/
theorem awaited_leaves {o : Outcome} (started : o.launch = .started) (argv : List String)
    (limit : Value) (w : World) :
    SameTemporary w (awaited o argv limit w) ∧
      (awaited o argv limit w).files = o.leaves argv limit w.files := by
  have later (clock : Float) (edits : List FileEdit) :
      SameTemporary w (applyAll edits { w with clock := clock }) ∧
        (applyAll edits { w with clock := clock }).files = edits.foldl FileEdit.apply w.files :=
    have ⟨same, files⟩ := applyAll_files edits { w with clock := clock }
    ⟨Law.trans (clock_sameDisk w clock).toSameTemporary same, files⟩
  unfold awaited Outcome.leaves Outcome.made
  rw [started]
  rcases runsOut limit o.wall with f | _ | _
  · exact applyAll_files _ w
  · exact later _ _
  · exact later _ _

/-- A process that never came to change anything has run all the same, as far as the history goes.
-/
theorem launched_ran {c : Command} {w : World}
    (idle : w.processes.next.1.made c.argv c.timeout = []) : Ran w (launched c w) where
  toSameTemporary := (launched_sameDisk c w).toSameTemporary
  left := ⟨c, c.timeout, enacted_of_launched (Law.refl _), by rw [Outcome.leaves, idle]; rfl⟩

/-- By how the start went: the world after a process has the files that its outcome leaves. -/
theorem ended_leaves (c : Command) (w : World) :
    SameTemporary w (ended c w) ∧
      (ended c w).files = w.processes.next.1.leaves c.argv c.timeout w.files := by
  have began := (launched_sameDisk c w).toSameTemporary
  unfold ended
  rcases launches : w.processes.next.1.launch <;> simp only [launches]
  case started =>
    obtain ⟨same, files⟩ := awaited_leaves launches c.argv c.timeout (launched c w)
    have same := Law.trans began same
    split
    · exact ⟨same, files⟩
    · exact ⟨Law.trans same (clock_sameDisk _ _).toSameTemporary, files⟩
  case interrupted =>
    obtain ⟨same, files⟩ := applyAll_files w.processes.next.1.earlyEdits (launched c w)
    exact ⟨Law.trans began same, by rw [files, Outcome.leaves, Outcome.made, launches]; rfl⟩
  all_goals exact ⟨began, by rw [Outcome.leaves, Outcome.made, launches]; rfl⟩

/-- Running a process to its end is one deed, told by the outcome that was to come. -/
theorem run_ends (c : Command) (w : World) :
    SameTemporary w (run c w).2 ∧
      Enacted w [.process c c.timeout w.processes.next.1 w.files] (run c w).2 ∧
      (run c w).2.files = w.processes.next.1.leaves c.argv c.timeout w.files ∧
      (run c w).1 = verdict c w.processes.next.1 := by
  obtain ⟨same, files⟩ := ended_leaves c w
  rw [run_run]
  exact ⟨same, enacted_of_launched (ended_untouched c w), files, rfl⟩

/-- Running a process to its end is one deed. -/
theorem run_ran (c : Command) (w : World) : Ran w (run c w).2 :=
  have ⟨same, enacted, left, _⟩ := run_ends c w
  ⟨same, c, c.timeout, enacted, left⟩

end Program

/-- A command that can be read is run once, after a record. -/
theorem Command.run_read {command : Value} {argv : List String} (read : words command = .ok argv)
    (folder : Option PathName) (env : Option Environment) (timeout : Value) (w : World) :
    let c : Program.Command := ⟨argv, folder.map PathName.display, env, timeout⟩
    ∃ u v, Logged w u ∧
      run command folder env timeout w = (Program.verdict c u.processes.next.1, v) ∧
      Enacted u [.process c timeout u.processes.next.1 u.files] v ∧
      v.files = u.processes.next.1.leaves argv timeout u.files := by
  intro c
  have logged := (log_onlyLogs .debug "stages" (runningText argv folder) w).1
  obtain ⟨-, enacted, left, ends⟩ :=
    Program.run_ends c (log .debug "stages" (runningText argv folder) w).2
  refine ⟨_, _, logged, ?_, enacted, left⟩
  unfold run
  rw [read, ofResult_ok_bind]
  exact Prod.ext ends rfl

/-! ## One repetition -/

namespace Timing

/-- Counting CPU times changes no file. -/
theorem collect_sameDisk {F : Fault → Prop} (o : Outcome) : Keeps SameDisk F (collect o) :=
  .modify fun _ => ⟨⟨rfl, rfl⟩, rfl⟩

/-- Neither does waiting. -/
theorem pause_sameDisk {F : Fault → Prop} (seconds : Float) :
    Keeps SameDisk F (Program.pause seconds) :=
  .modify fun _ => ⟨⟨rfl, rfl⟩, rfl⟩

/-- A process that is ended changes nothing more: what it changed it changed before. -/
theorem endProcess_sameDisk {F : Fault → Prop} (o : Outcome) :
    Keeps SameDisk F (endProcess o) := by
  rw [endProcess, endGroup_eq]
  refine .bind (note_sameDisk _) fun _ => .bind (note_sameDisk _) fun _ =>
    .bind (pause_sameDisk _) fun _ => ?_
  dsimp only
  split
  · exact .bind (note_sameDisk _) fun _ => .bind (note_sameDisk _) fun _ =>
      .bind (pause_sameDisk _) fun _ => collect_sameDisk o
  · exact collect_sameDisk o

/-- Ending a process that has to be ended changes nothing but what it had changed already. -/
theorem waitOrEnd_leaves {o : Outcome} (started : o.launch = .started) (argv : List String)
    (limit : Value) (w : World) :
    SameTemporary w (waitOrEnd o argv limit w).2 ∧
      (waitOrEnd o argv limit w).2.files = o.leaves argv limit w.files := by
  have waited := Program.awaited_leaves started argv limit (noted (.wait limit) w)
  have noting := noted_sameDisk (.wait limit) w
  have further : ∀ {v}, SameDisk (Program.awaited o argv limit (noted (.wait limit) w)) v →
      SameTemporary w v ∧ v.files = o.leaves argv limit w.files := fun same =>
    ⟨Law.trans noting.toSameTemporary (Law.trans waited.1 same.toSameTemporary),
      same.files.trans waited.2⟩
  unfold waitOrEnd
  simp only [bind_run, note_run, Program.await_run]
  generalize Program.awaited o argv limit (noted (.wait limit) w) = v at further
  -- All that follows the wait, if it is an end by force or not, only takes notes.
  rcases Program.runsOut limit o.wall with f | _ | _ <;>
    simp only [Except.map, Bool.not_true, Bool.not_false, Bool.false_eq_true, if_false, if_true]
  · exact further (Law.refl v)
  · exact further (collect_sameDisk (F := fun _ => True) o v).1
  · have same := (endProcess_sameDisk (F := fun _ => True) o v).1
    rcases ending : endProcess o v with ⟨f | x, u⟩ <;> rw [ending] at same <;>
      simp only [bind_run, ending] <;> exact further same

/-- A repetition is one deed, unless its command cannot be read. -/
theorem repetition_ran (command : Value) (folder : Option String) (env : Option Environment)
    (limit : Value) (w : World) :
    (repetition command folder env limit w).2 = w ∨
      Ran w (repetition command folder env limit w).2 := by
  unfold repetition
  rw [bind_run, get_run]
  dsimp only
  rcases read : Command.words command with f | argv
  · rw [bind_run, ofResult_run]
    exact .inl rfl
  refine .inr ?_
  rw [ofResult_ok_bind]
  generalize commanded : ({ argv := argv, folder := folder.filter (!·.isEmpty), env := env } :
    Program.Command) = c
  obtain rfl : c.argv = argv := by rw [← commanded]
  rw [bind_run, Program.launch_run]
  rcases launches : w.processes.next.1.launch <;> dsimp only
  case notFound | refused =>
    exact Program.launched_ran (by rw [Outcome.made, launches])
  case interrupted =>
    have began := (Program.launched_sameDisk c w).toSameTemporary
    obtain ⟨same, files⟩ := Program.applyAll_files w.processes.next.1.earlyEdits
      (Program.launched c w)
    refine ⟨Law.trans began same, c, c.timeout,
      Program.enacted_of_launched (Program.applyAll_untouched _ _), ?_⟩
    rw [files, Outcome.leaves, Outcome.made, launches]
    rfl
  have aside := (waitOrEnd_setAside w.processes.next.1 c.argv limit (Program.launched c w)).1
  have left := waitOrEnd_leaves launches c.argv limit (Program.launched c w)
  have ran : Ran w (waitOrEnd w.processes.next.1 c.argv limit (Program.launched c w)).2 :=
    ⟨Law.trans (Program.launched_sameDisk c w).toSameTemporary left.1, c, limit,
      enacted_of_waited aside, left.2⟩
  rcases ended : waitOrEnd w.processes.next.1 c.argv limit (Program.launched c w)
    with ⟨f | late, v⟩ <;> rw [ended] at ran <;> rw [bind_run, ended]
  · exact ran
  · dsimp only
    rw [bind_run, ofResult_run]
    rcases Program.completed w.processes.next.1 with f | p <;> exact ran

end Timing

end BuildBench
