import BuildBench.Proofs.Run.OwnChanges
import BuildBench.Proofs.Run.Reports

/-!
# Laws of a whole run

`Conduct` is about the functions of a run that change no file themselves. A law that changes of files,
downloads and the bounds of stages obey as well is obeyed by a whole run, however it ends. One such
law says that a run prints nothing: what a user sees of it is shown by whoever made it.
-/

namespace BuildBench

open BuildBench.Action

variable {α : Type} {R : World → World → Prop}

/-- A law that everything obeys of which a run is made. -/
structure Throughout (R : World → World → Prop) : Prop extends Conduct R where
  files : ∀ (w : World) files, R w (w.withFiles files)
  /-- A new file closes no log file. -/
  newFile : ∀ (w : World) files, R w { w with files := files }
  bounds : ∀ milestone, (pass milestone).Obeys R
  notes : ∀ event, (note event).Obeys R
  requests : ∀ url timeout, (Fixture.request url timeout).Obeys R

namespace Throughout

variable (law : Throughout R)

include law

/-- The law and the faults of a record are known each for itself. -/
theorem log (level : Level) (part text : String) :
    Keeps R (fun f => f.isStage = false) (log level part text) :=
  fun w => ⟨(law.records _ w).1, (log_quiet level part text w).2⟩

variable [Law R]

/-! ## Operations on files -/

/-- An operation that fails changes nothing, and one that succeeds changes some files. -/
theorem change (path : PathName) (operation : Files → Except SystemError Files) :
    Keeps R (fun f => f.isStage = false) (Disk.change path operation) := by
  refine fun w => ⟨?_, (Disk.change_quiet path operation w).2⟩
  obtain ⟨f, failed⟩ | ⟨files, -, -, changed⟩ := Disk.change_cases path operation w
  · rw [failed]
    exact Law.refl w
  · rw [changed]
    exact law.files w files

/-- The folders that were made before a failure are a change of files too. -/
theorem makeFolders (path : PathName) :
    Keeps R (fun f => f.isStage = false) (Disk.makeFolders path) := by
  refine fun w => ⟨?_, (Disk.makeFolders_quiet path w).2⟩
  obtain ⟨f, failed, -⟩ | ⟨files, -, -, made⟩ := Disk.makeFolders_cases path w
  · rw [failed]
    exact Law.refl w
  · rw [made]
    exact law.files w files

/-- What was copied before a failure is a change of files too. -/
theorem copyTree (merge : Bool) (source target : PathName) :
    Keeps R (fun f => f.isStage = false) (Disk.copyTree merge source target) := by
  refine fun w => ⟨?_, (Disk.copyTree_quiet merge source target w).2⟩
  obtain ⟨f, failed⟩ | ⟨-, -, copied⟩ := Disk.copyTree_cases merge source target w
  · rw [failed]
    exact Law.refl w
  · rw [copied]
    exact law.files w _

/-- Whatever its faults are, it obeys. -/
theorem changes (path : PathName) (operation : Files → Except SystemError Files) :
    (Disk.change path operation).Obeys R :=
  (law.change path operation).mono fun _ _ => trivial

/-- The handler changes nothing any more. -/
theorem unlinkIfThere (path : PathName) : (Disk.unlinkIfThere path).Obeys R := by
  refine .tryCatch (law.changes path _) fun f _ => ?_
  split
  · exact .pure _
  · exact .throw trivial

/-! ## The cache -/

/-- Without a cache nothing happens. Restoring copies files, makes folders and asks. -/
theorem restoreCache (store : Option CacheStore) (key : String) (paths : List PathName) :
    (restoreCache store key paths).Obeys R := by
  cases store with
  | none => exact .pure _
  | some store =>
    have restored := store.restore_keeps key paths
      (fun text => (law.log .info "cache" text).mono fun _ => Fault.isInternal_of_other)
      (CacheStore.restoreParts_keeps (law.copyTree true) law.makeFolders
        (fun _ _ => law.change _ _) _ _ _)
    exact restored.mono fun _ _ => trivial

/-- Folders are made, parts are copied into them, and the entry is moved or discarded. -/
theorem writeEntry (store : CacheStore) (key : String) (paths : List PathName) :
    (store.writeEntry key paths).Obeys R := by
  have parts (entry : PathName) (i : Nat) : (CacheStore.saveParts entry i paths).Obeys R := by
    induction paths generalizing i with
    | nil => exact .pure _
    | cons source rest ih =>
      refine .bind (.bind (Disk.ask_asks _ _).obeys fun isFolder => ?_) fun _ => ih _
      split
      · exact (law.copyTree _ _ _).mono fun _ _ => trivial
      · refine .bind (Disk.ask_asks _ _).obeys fun isFile => ?_
        split
        · exact law.changes _ _
        · exact law.toConduct.log _ _ _
  have written : (do
      let staging ← store.stagingFolder key
      Disk.makeFolder staging
      let fill : Action Unit := do
        CacheStore.saveParts staging 0 paths
        Disk.write (staging.child CacheStore.manifestName)
          (CacheStore.manifestText key (paths.map PathName.display)).toUTF8
        Disk.moveFolder staging (store.entryFolder key)
      tryCatch fill fun f => do
        modify fun w => w.withFiles (w.files.discard staging)
        throw f : Action Unit).Obeys R := by
    refine .bind (.bind .get fun _ => .pure _) fun staging => .bind (law.changes _ _) fun _ =>
      .tryCatch (.bind (parts _ _) fun _ => .bind (law.changes _ _) fun _ => law.changes _ _)
        fun f _ => ?_
    exact .bind (.modify fun w => law.files w _) fun _ => .throw trivial
  refine .bind ((law.makeFolders _).mono fun _ _ => trivial) fun _ =>
    .bind (Disk.ask_asks _ _).obeys fun there => ?_
  split
  · exact .bind (law.changes _ _) fun _ => written
  · exact written

/-- Whether there is an entry is asked first, and a new one is written if not. -/
theorem save (store : CacheStore) (key : String) (paths : List PathName) :
    (store.save key paths).Obeys R := by
  have written : (store.saveNew key paths).Obeys R := by
    refine .bind (.tryCatch (law.writeEntry _ _ _) fun f _ => ?_) fun _ =>
      .bind (law.toConduct.log _ _ _) fun _ => .pure _
    split <;> exact .throw trivial
  rw [CacheStore.save_eq]
  refine .bind (CacheStore.has_asks _ _).obeys fun there => ?_
  split
  · refine .bind (CacheStore.lists_asks _ _ _).obeys fun listed => ?_
    split
    · exact .bind (law.toConduct.log _ _ _) fun _ => .pure _
    · exact .bind (law.toConduct.log _ _ _) fun _ => written
  · exact written

/-! ## The parts of stages that change files -/

/-- Room is made, a checkout is run, the key is computed and the cache is asked. -/
theorem prepare (s : Settings) (store : Option CacheStore) : (prepare s store).Obeys R := by
  have room (repo : Value) (folder : PathName) : (makeRoom repo folder).Obeys R := by
    unfold makeRoom
    split
    · exact (law.makeFolders _).mono fun _ _ => trivial
    · exact .pure _
  refine .bind (.given _) fun source => .bind (room _ _) fun _ =>
    .bind (law.checkOut _ _ _ _) fun _ => ?_
  refine .bind ((workdirKey_keeps law.log s).mono fun _ _ => trivial) fun key => ?_
  exact .bind Disk.homes_asks.obeys fun _ => .bind (.given _) fun _ => .bind (.given _) fun _ =>
    .bind (law.toConduct.log _ _ _) fun _ => .bind (law.restoreCache _ _ _) fun _ => .pure _

/-- What stands at the place is unlinked, and the rest of a build is covered by `buildCleared`. -/
theorem buildStage (s : Settings) (workdir : PathName) (env : Environment) :
    (Run.buildStage s workdir env).Obeys R := by
  have cleared (artifact : PathName) : (Artifact.removeStale artifact).Obeys R := by
    refine .bind (Artifact.isTaken_asks _).obeys fun taken => ?_
    split
    · refine .bind (law.toConduct.log _ _ _) fun _ => .tryCatch (law.changes _ _) fun f _ => ?_
      split <;> exact .throw trivial
    · exact .pure _
  exact .bind Disk.homes_asks.obeys fun _ => .bind (.given _) fun _ => .bind (cleared _) fun _ =>
    .bind (.given _) fun _ => law.buildCleared _ _ _ _

/-- One request, files that change, and records. -/
theorem fetch (url : Value) (folder : PathName) (timeout sha256 : Value) :
    (Fixture.fetch url folder timeout sha256).Obeys R := by
  have removed {α : Type} (path : PathName) (f : Fault) :
      (do Disk.unlinkIfThere path; throw f : Action α).Obeys R :=
    .bind (law.unlinkIfThere path) fun _ => .throw trivial
  have stored (path : PathName) (body : Fixture.Body) : (Fixture.store url path body).Obeys R := by
    refine .bind (.tryCatch (law.changes _ _) fun f _ => ?_) fun _ => .bind (law.notes _) fun _ =>
      .bind (law.changes _ _) fun _ => ?_
    · split
      · exact removed _ _
      · exact .throw trivial
    · split
      · exact removed _ _
      · exact .pure _
  have verified (path : PathName) (body : Fixture.Body) :
      (Fixture.verify sha256 path body).Obeys R := by
    unfold Fixture.verify
    split
    · exact .pure _
    · refine .bind (.given _) fun _ => ?_
      dsimp only
      split
      · exact .pure _
      · exact removed _ _
  exact .bind (.given _) fun _ => .bind (law.toConduct.log _ _ _) fun _ =>
    .bind (law.requests _ _) fun body => .bind (stored _ body) fun _ => .bind (verified _ body) fun _ =>
    .bind (law.toConduct.log _ _ _) fun _ => .pure _

/-- The report file is made and taken away around a timing. -/
theorem measureExternally (command : Value) (folder : PathName) (env : Environment)
    (warmup runs : Value) : (Timing.measureExternally command folder env warmup runs).Obeys R := by
  have made : Timing.makeReportFile.Obeys R := by
    refine fun w => ⟨?_, fun _ _ => trivial⟩
    obtain ⟨f, failed⟩ | ⟨goal, -, -, made⟩ := Run.makeReportFile_cases w
    · rw [failed]
      exact Law.refl w
    · rw [made]
      exact law.newFile w _
  exact .bind made fun _ => .thenAlways (law.timeWithReport _ _ _ _ _ _) (law.unlinkIfThere _)

/-- A download, and then a measurement of either kind. -/
theorem measureStage (s : Settings) (artifact workdir : PathName) (env : Environment) :
    (Run.measureStage s artifact workdir env).Obeys R :=
  .bind (.given _) fun _ => .bind (law.fetch _ _ _ _) fun _ =>
    law.takeOn law.measureExternally _ _ _ _ _

/-! ## Runs -/

/-- The bounds obey, the callback does by assumption, and the action in between does. -/
theorem stage {plan : Run.Plan} (notified : ∀ r, (plan.notify r).Obeys R) (name : Stage)
    {action : Action α} (acts : action.Obeys R) : (Run.stage plan name action).Obeys R := by
  have concluded (start : Float) (result : Except Fault α) :
      (Run.conclude plan name start result).Obeys R := by
    rcases result with f | x
    · cases f with
      | stage s =>
        exact .bind .get fun _ => .bind (law.logOutput _ _ _) fun _ =>
          .bind (law.toConduct.log _ _ _) fun _ => .bind (notified _) fun _ => .pure _
      | _ => exact .throw trivial
    · exact .bind .get fun _ => .bind (law.toConduct.log _ _ _) fun _ =>
        .bind (notified _) fun _ => .pure _
  exact .bind (law.toConduct.log _ _ _) fun _ => .bind (law.bounds _) fun _ => .bind .get fun _ =>
    .bind (.attempt acts) fun _ => .bind (law.bounds _) fun _ => concluded _ _

/-- A save, or nothing; a failed one is a record. -/
theorem saveCache (plan : Run.Plan) (prepared : Prepared) :
    (Run.saveCache plan prepared).Obeys R := by
  unfold Run.saveCache
  split
  · exact .pure _
  · split
    · exact .pure _
    · refine .bind (.attempt (law.save _ _ _)) fun result => ?_
      split
      · exact .pure _
      · exact law.toConduct.log _ _ _
      · exact .throw trivial

/-- Stage by stage, and a save of the cache at the end. -/
theorem fromInstall {plan : Run.Plan} (notified : ∀ r, (plan.notify r).Obeys R)
    (env : Environment) (report : Report) (prepared : Prepared) :
    (Run.fromInstall plan env report prepared).Obeys R := by
  refine .bind (law.stage notified .install (law.installStage _ _)) fun (_, value) => ?_
  rcases value with _ | _
  · exact .pure _
  refine .bind (law.stage notified .build (law.buildStage _ _ _)) fun (_, value) => ?_
  rcases value with _ | product
  · exact .pure _
  refine .bind (law.stage notified .measure (law.measureStage _ _ _ _)) fun (_, value) => ?_
  rcases value with _ | m
  · exact .pure _
  · exact .bind (law.saveCache _ _) fun _ => .bind (law.toConduct.log _ _ _) fun _ => .pure _

/-- A law that everything obeys of which a run is made is obeyed by the run, if those obey it who are
told the results of its stages. -/
theorem run {plan : Run.Plan} (notified : ∀ r, (plan.notify r).Obeys R) :
    (Run.run plan).Obeys R := by
  have made : (Run.environment plan.settings).Obeys R :=
    .bind .get fun _ => .bind (.given _) fun _ => .bind Disk.homes_asks.obeys fun _ =>
      .bind (.given _) fun _ => .given _
  refine .bind (Run.checkSettings_keeps _ law.records) fun _ => .bind made fun env =>
    .bind (law.stage notified .prepare (law.prepare _ _)) fun (_, value) => ?_
  rcases value with _ | prepared
  · exact .pure _
  · exact law.fromInstall notified _ _ _

end Throughout

/-! ## What is printed -/

/-- Nothing was printed between two worlds, except about errors. -/
def SameOutput (w v : World) : Prop := v.stdout = w.stdout

instance : Law SameOutput where
  refl _ := rfl
  trans first second := second.trans first

namespace SameOutput

/-- Handlers write to the standard error, to log files and to the journal, never to the output. -/
theorem emit (r : Record) (w : World) (handler : Handler) : SameOutput w (emit r w handler) := by
  cases handler with
  | console least =>
    simp only [Action.emit]
    split <;> rfl
  | _ => rfl

/-- Each handler in turn leaves the output alone. -/
theorem record (r : Record) : (record r).Obeys SameOutput :=
  record_keeps r fun w handler _ => emit r w handler

/-- By induction on the changes: each is one of files. -/
theorem applyAll (edits : List FileEdit) (w : World) :
    SameOutput w (Program.applyAll edits w) := by
  induction edits generalizing w with
  | nil => rfl
  | cons edit rest ih => exact ih (w.withFiles (edit.apply w.files))

/-- A start writes marks, and at most changes files and the clock. -/
theorem launch (c : Program.Command) : (Program.launch c).Obeys SameOutput := by
  refine fun w => ⟨?_, fun _ _ => trivial⟩
  rw [Program.launch_run]
  split
  · rfl
  · rfl
  · rfl
  · exact applyAll _ (Program.launched c w)

/-- Waiting moves the clock and the files. -/
theorem await (o : Outcome) (argv : List String) (limit : Value) :
    (Program.await o argv limit).Obeys SameOutput := by
  refine fun w => ⟨?_, fun _ _ => trivial⟩
  rw [Program.await_run]
  dsimp only [Program.awaited]
  split
  · exact applyAll _ { w with clock := w.clock + o.wall }
  · exact applyAll _ { w with clock := w.clock + limit.toFloat }
  · exact applyAll _ w

/-- Only the clock moves. -/
theorem pause (seconds : Float) : (Program.pause seconds).Obeys SameOutput := .modify fun _ => rfl

/-- A note stands on the trail. -/
theorem note (event : Event) : (note event).Obeys SameOutput := fun _ => ⟨rfl, fun _ _ => trivial⟩

/-- Starting, waiting, ending and counting all leave the output alone. -/
theorem repetition (command : Value) (folder : Option String) (env : Option Environment)
    (limit : Value) : (Timing.repetition command folder env limit).Obeys SameOutput := by
  have collected (o : Outcome) : (Timing.collect o).Obeys SameOutput := .modify fun _ => rfl
  have ended (o : Outcome) : (Timing.endProcess o).Obeys SameOutput := by
    rw [Timing.endProcess, Timing.endGroup_eq]
    refine .bind (note _) fun _ => .bind (note _) fun _ => .bind (pause _) fun _ => ?_
    dsimp only
    split
    · exact .bind (note _) fun _ => .bind (note _) fun _ => .bind (pause _) fun _ => collected o
    · exact collected o
  have waited (o : Outcome) (argv : List String) :
      (Timing.waitOrEnd o argv limit).Obeys SameOutput := by
    refine .bind (note _) fun _ => .bind (await _ _ _) fun inTime => ?_
    split
    · exact .bind (collected o) fun _ => .pure _
    · exact .bind (ended o) fun _ => .pure _
  exact .bind .get fun _ => .bind (.given _) fun _ => .bind (launch _) fun _ =>
    .bind (waited _ _) fun _ => .bind (.given _) fun _ => .bind .get fun _ => .pure _

/-- Starting and waiting do, and so does whatever comes of it. -/
theorem run (c : Program.Command) : (Program.run c).Obeys SameOutput := by
  have stopped {β : Type} (o : Outcome) (f : Fault) : (do
      Program.pause o.dying
      throw f : Action β).Obeys SameOutput :=
    .bind (pause _) fun _ => .throw trivial
  refine .bind (launch c) fun o => .bind (.tryCatch (await _ _ _) fun f _ => stopped o f)
    fun inTime => ?_
  split
  · exact .given _
  · exact stopped o _

/-- A request stands on the trail and takes the next reply. -/
theorem request (url timeout : Value) : (Fixture.request url timeout).Obeys SameOutput := by
  refine fun w => ⟨?_, fun _ _ => trivial⟩
  unfold Fixture.request
  simp only [bind_run, note_run, get_run, set_run]
  rcases replied : w.replies.next.1 with ⟨status, chunks, cut⟩ | ⟨_ | _ | _, text⟩ <;>
    simp only [noted, replied]
  · split <;> rfl
  all_goals rfl

/-- Each of the ways in which a run acts leaves the output alone, so a whole run does. -/
theorem throughout : Throughout SameOutput where
  records := record
  processes := run
  repetitions := repetition
  files _ _ := rfl
  newFile _ _ := rfl
  bounds _ _ := ⟨rfl, fun _ _ => trivial⟩
  notes := note
  requests := request

end SameOutput

end BuildBench
