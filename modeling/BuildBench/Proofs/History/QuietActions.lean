import BuildBench.Proofs.History.Deeds
import BuildBench.Proofs.History.Faults

/-!
# Actions that leave the outside alone

Writing records, asking about files and changing them start no process and make no download. All of
them fail only with faults that are no failure of a stage. Out of these come the parts of a run that
work on files alone: hashing lock files, restoring and saving the cache, looking for programs. Of
them only restoring, saving and taking a stale artifact away fail as a stage, and then without an
exit code of their own.
-/

namespace BuildBench

open BuildBench.Action

variable {α β : Type}

/-- Does nothing to the outside, and does not fail as a stage. -/
def Quiet (a : Action α) : Prop := Keeps Untouched (fun f => f.isStage = false) a

/-- A fault that, if it is the failure of a stage, has one of some kinds and no exit code of its
own. -/
def Fault.IsInternal (kinds : FailureKind → Prop) (f : Fault) : Prop :=
  ∀ s, f = .stage s → kinds s.kind ∧ s.exitCode = 1

/-- A fault of no stage has no kind that could be the wrong one. -/
theorem Fault.isInternal_of_other {kinds : FailureKind → Prop} {f : Fault}
    (other : f.isStage = false) : f.IsInternal kinds := by
  rintro s rfl
  simp [Fault.isStage] at other

/-- Does nothing to the outside, and may fail as a stage of some kinds. -/
def QuietStage (kinds : FailureKind → Prop) (a : Action α) : Prop :=
  Keeps Untouched (Fault.IsInternal kinds) a

/-- An action that only asks leaves the world as it is. -/
def Asks (a : Action α) : Prop := Keeps (· = ·) (fun f => f.isStage = false) a

instance : Law (fun w v : World => w = v) where
  refl _ := rfl
  trans first second := first.trans second

/-- A question leaves the very same world, and every law holds of a world and itself. -/
theorem Asks.keeps {R : World → World → Prop} [Law R] {a : Action α} (asks : Asks a) :
    Keeps R (fun f => f.isStage = false) a :=
  asks.weaken fun w _ same => same ▸ Law.refl w

/-- A question is quiet, because the same world is an untouched one. -/
theorem Asks.quiet {a : Action α} (asks : Asks a) : Quiet a := asks.keeps

/-- The second part of a question's result is known, so only the answer is left to name. -/
theorem Asks.run {a : Action α} (asks : Asks a) (w : World) : ∃ answer, a w = (answer, w) :=
  ⟨_, Prod.ext rfl (asks w).1.symm⟩

/-- A quiet action has no fault of a stage, so whatever kinds are allowed is no matter. -/
theorem Quiet.stage {kinds : FailureKind → Prop} {a : Action α} (quiet : Quiet a) :
    QuietStage kinds a :=
  quiet.mono fun _ other => Fault.isInternal_of_other other

/-- Without a mark on the trail no deed was done. -/
theorem Quiet.idle {a : Action α} (quiet : Quiet a) : Keeps Idle (fun f => f.isStage = false) a :=
  quiet.weaken fun _ _ => Untouched.enacted

/-- The same for quiet actions that a stage gives its own faults. -/
theorem QuietStage.idle {kinds : FailureKind → Prop} {a : Action α} (quiet : QuietStage kinds a) :
    Keeps Idle (Fault.IsInternal kinds) a :=
  quiet.weaken fun _ _ => Untouched.enacted

/-! ## Records -/

/-- What a handler does with a record changes files and texts alone. -/
theorem emit_untouched (r : Record) (w : World) (handler : Handler) :
    Untouched w (emit r w handler) ∧ (emit r w handler).handlers = w.handlers := by
  cases handler with
  | journal => exact ⟨⟨⟨rfl, rfl, rfl, fun _ opened => opened⟩, rfl, rfl, rfl⟩, rfl⟩
  | console least =>
    simp only [emit]
    split <;> exact ⟨⟨⟨rfl, rfl, rfl, fun _ opened => opened⟩, rfl, rfl, rfl⟩, rfl⟩
  | file location => exact ⟨⟨⟨rfl, rfl, rfl, fun _ opened => opened⟩, rfl, rfl, rfl⟩, rfl⟩

/-- What each handler keeps, a record keeps. -/
theorem record_keeps {R : World → World → Prop} [Law R] {F : Fault → Prop} (r : Record)
    (each : ∀ w handler, handler ∈ w.handlers → R w (emit r w handler)) : Keeps R F (record r) := by
  have all : ∀ (handlers : List Handler) w, handlers ⊆ w.handlers →
      R w (handlers.foldl (emit r) w) := by
    intro handlers
    induction handlers with
    | nil => exact fun w _ => Law.refl w
    | cons handler rest ih =>
      intro w opened
      obtain ⟨here, others⟩ := List.cons_subset.mp opened
      refine Law.trans (each w handler here) (ih _ ?_)
      rw [(emit_untouched r w handler).2]
      exact others
  refine .modify fun w => ?_
  split
  · exact all _ w (List.Subset.refl _)
  · exact Law.refl w

/-- Writing a record cannot fail. -/
theorem record_untouched {F : Fault → Prop} (r : Record) : Keeps Untouched F (record r) :=
  record_keeps r fun w handler _ => (emit_untouched r w handler).1

/-- A record ends up in texts and log files only. -/
theorem log_quiet (level : Level) (part text : String) : Quiet (log level part text) :=
  record_untouched _

/-- Output is one record for each line. -/
theorem logOutput_quiet (level : Level) (part output : String) :
    Quiet (logOutput level part output) :=
  .forM fun _ => log_quiet _ _ _

/-! ## Files -/

/-- Files may change as they like; a log file that is gone is no longer open. -/
theorem withFiles_untouched (w : World) (files : Files) : Untouched w (w.withFiles files) :=
  ⟨⟨rfl, rfl, rfl, fun _ opened => (List.mem_filter.mp opened).1⟩, rfl, rfl, rfl⟩

namespace Disk

/-- Whether a name can be handed over is a matter of its characters. -/
theorem requireName_asks (path : PathName) : Asks (requireName path) := by
  unfold requireName
  split
  · next found => exact .throw (nameFault_plain found)
  · exact .pure _

/-- A question is quiet. -/
theorem requireName_quiet (path : PathName) : Quiet (requireName path) :=
  (requireName_asks path).quiet

/-- The tree is looked at, or not even that if the name is none. -/
theorem ask_asks (path : PathName) (question : Files → PathName → Except SystemError Bool) :
    Asks (ask path question) := by
  unfold ask
  split
  · exact .pure _
  · exact .bind .get fun _ => .ofResult (Plain.mapError fun _ => rfl)

/-- It only asks. -/
theorem exists_quiet (path : PathName) : Quiet (exists? path) := (ask_asks _ _).quiet

/-- It only asks. -/
theorem isFile_quiet (path : PathName) : Quiet (isFile path) := (ask_asks _ _).quiet

/-- It only asks. -/
theorem isFolder_quiet (path : PathName) : Quiet (isFolder path) := (ask_asks _ _).quiet

/-- A file is read without being changed, and a failure is one of the system. -/
theorem read_asks (path : PathName) : Asks (read path) :=
  .bind (requireName_asks _) fun _ => .bind .get fun _ => .ofResult (Plain.mapError fun _ => rfl)

/-- The content is read first; bytes that are no text are refused with a fault of no stage. -/
theorem readText_asks (path : PathName) : Asks (readText path) := by
  refine .bind (read_asks _) fun bytes => ?_
  split
  · exact .pure _
  · exact .throw rfl

/-- An action that asks for the world and puts changed files into it. -/
theorem quiet_of_files {a : World → Action PUnit}
    (each : ∀ w, (∃ files, a w = set (w.withFiles files)) ∨
      ∃ f, f.isStage = false ∧ a w = throw f) :
    Quiet (get >>= a) := by
  intro w
  simp only [bind_run, get_run]
  rcases each w with ⟨files, same⟩ | ⟨f, other, same⟩ <;> rw [same]
  · exact ⟨withFiles_untouched w files, fun _ failed => by simp [set_run] at failed⟩
  · exact ⟨Law.refl w, fun g failed => by
      simp only [throw_run, Except.error.injEq] at failed
      exact failed ▸ other⟩

/-- Whether the operation succeeds or not, at most the files are other ones afterwards. -/
theorem change_quiet (path : PathName) (operation : Files → Except SystemError Files) :
    Quiet (change path operation) := by
  refine .bind (requireName_quiet _) fun _ => quiet_of_files fun w => ?_
  split
  · exact .inl ⟨_, rfl⟩
  · exact .inr ⟨_, rfl, rfl⟩

/-- An answer that came out well is the one that the tree gives. A name that is none is answered
with no. -/
theorem ask_ok {path : PathName} {question : Files → PathName → Except SystemError Bool}
    {answer : Bool} {w v : World} (asked : ask path question w = (.ok answer, v)) :
    v = w ∧ (isName path → question w.files path = .ok answer) ∧ (answer → isName path) := by
  unfold ask at asked
  by_cases named : isName path
  · simp only [named, Bool.not_true, Bool.false_eq_true, if_false, bind_run, get_run,
      ofResult_run] at asked
    obtain ⟨told, rfl⟩ := Prod.mk.inj asked
    refine ⟨rfl, fun _ => ?_, fun _ => named⟩
    rcases said : question w.files path with e | b <;> rw [said] at told <;> cases told
    rfl
  · simp only [named, Bool.not_false, if_true, pure_run] at asked
    obtain ⟨told, rfl⟩ := Prod.mk.inj asked
    cases told
    exact ⟨rfl, fun other => absurd other named, fun other => by simp at other⟩

/-- An operation that came out well succeeded on the tree, and its files are the new ones. -/
theorem change_ok {path : PathName} {operation : Files → Except SystemError Files} {w v : World}
    {x : Unit} (changed : change path operation w = (.ok x, v)) :
    ∃ files, operation w.files = .ok files ∧ v = w.withFiles files := by
  obtain ⟨_, u, named, changed⟩ := ok_of_bind_ok changed
  obtain rfl : w = u := by simpa [named] using (requireName_asks path w).1
  simp only [bind_run, get_run] at changed
  rcases done : operation w.files with e | files <;> rw [done] at changed
  · exact absurd changed throw_not_ok
  · exact ⟨files, rfl, (Prod.mk.inj changed).2.symm⟩

/-- The handler gives a value back or passes the fault of the operation on. -/
theorem unlinkIfThere_quiet (path : PathName) : Quiet (unlinkIfThere path) := by
  refine .tryCatch (change_quiet _ _) fun f other => ?_
  split
  · exact .pure _
  · exact .throw other

/-- Folders that were made stay there when a later one fails, and they are files all the same. -/
theorem makeFolders_quiet (path : PathName) : Quiet (makeFolders path) := by
  refine .bind (requireName_quiet _) fun _ => quiet_of_files fun w => ?_
  split
  · exact .inl ⟨_, rfl⟩
  · exact .inr ⟨_, rfl, rfl⟩

/-- A copy gives back files in any case, and then reports what went wrong on the way with faults of
no stage. -/
theorem copyTree_quiet (merge : Bool) (source target : PathName) :
    Quiet (copyTree merge source target) := by
  refine .bind (requireName_quiet _) fun _ => .bind (requireName_quiet _) fun _ => ?_
  intro w
  have reported : ∀ copied : Files.CopyResult, Quiet (do
      if copied.tooDeep then throw (.tooDeep "")
      unless copied.failures.isEmpty do
        throw (.several (copied.failures.map fun failed =>
          (systemFault failed.1 failed.2).message))) := by
    intro copied
    have listed : Quiet (do
        unless copied.failures.isEmpty do
          throw (.several (copied.failures.map fun failed =>
            (systemFault failed.1 failed.2).message))) := by
      split
      · exact .pure _
      · exact .throw rfl
    dsimp only
    split
    · exact .bind (.throw rfl) fun _ => listed
    · exact listed
  have after := reported (w.files.copyTree merge source target)
    (w.withFiles (w.files.copyTree merge source target).files)
  exact ⟨Law.trans (withFiles_untouched _ _) after.1, after.2⟩

/-- The size is read off the entry that stands there. -/
theorem size_asks (path : PathName) : Asks (size path) := by
  refine .bind (requireName_asks _) fun _ => .bind .get fun w => ?_
  split
  · exact .pure _
  · exact .throw rfl

/-- The tree is looked at, and nothing else. -/
theorem isExecutable_asks (path : PathName) : Asks (isExecutable path) :=
  .bind .get fun _ => .pure _

/-- A name is followed through the tree, which takes no change to it. -/
theorem realPath_asks (path : PathName) : Asks (realPath path) :=
  .bind (requireName_asks _) fun _ => .bind .get fun _ => .ofResult (Files.realPath_plain _ _)

/-- A pattern is searched for in the tree as it stands. -/
theorem glob_asks (base : PathName) (pattern : Pattern) : Asks (glob base pattern) := by
  unfold glob
  split
  · exact .pure _
  · exact .bind .get fun _ => .ofResult (Files.glob_plain _ _ _)

/-- Home directories are known from the accounts and a variable. -/
theorem homes_asks : Asks homes := .bind .get fun _ => .pure _

/-! ## Programs -/

/-- The name is looked up in the tree, if it is one at all. -/
theorem isProgram_asks (name : String) : Asks (isProgram name) := by
  have found : Asks (find? name) := by
    refine .bind (requireName_asks _) fun _ => ?_
    split
    · exact .pure _
    · refine .bind .get fun w => ?_
      split <;> exact .pure _
  unfold isProgram
  split
  · exact .pure _
  · refine .bind found fun entry => ?_
    split <;> exact .pure _

/-- By induction on the names: one is asked about after the other until one is a program. -/
theorem firstProgram_asks (names : List String) : Asks (firstProgram names) := by
  induction names with
  | nil => exact .pure _
  | cons name rest ih =>
    refine .bind (isProgram_asks _) fun there => ?_
    split
    · exact .pure _
    · exact ih

/-- A name with a slash is asked about itself, any other in each folder of the search path. -/
theorem findProgram_asks (name : String) (searchPath : Option String) :
    Asks (findProgram name searchPath) := by
  unfold findProgram
  split
  · exact .bind (isProgram_asks _) fun there => by split <;> exact .pure _
  · refine .bind .get fun w => ?_
    dsimp only
    split
    · exact .pure _
    · exact firstProgram_asks _

/-- The name and the search path are computed first, and then there is a search. -/
theorem which_asks (name searchPath : Value) : Asks (which name searchPath) := by
  have found : ∀ s : String, Asks (if s.toList.contains '/' then findProgram s none
      else do findProgram s (← ofResult (searchPathText searchPath))) := by
    intro s
    split
    · exact findProgram_asks _ _
    · exact .bind (.ofResult (searchPathText_plain _)) fun _ => findProgram_asks _ _
  unfold which
  split
  · exact .bind (found _) fun _ => .pure _
  · exact .bind (found _) fun _ => .pure _
  · exact .throw rfl

end Disk

/-! ## Keys of the cache -/

namespace Cache

/-- By induction on the items that are left: each of them is tested by an action that keeps the law.
-/
theorem filterM_keeps {R : World → World → Prop} [Law R] {F : Fault → Prop}
    {each : β → Action Bool} (kept : ∀ x, Keeps R F (each x)) (items : List β) :
    Keeps R F (items.filterM each) := by
  have below : ∀ rest chosen : List β, Keeps R F (rest.filterAuxM each chosen) := by
    intro rest
    induction rest with
    | nil => exact fun _ => .pure _
    | cons x rest ih => exact fun chosen => .bind (kept x) fun there => ih _
  exact .bind (below items []) fun _ => .pure _

/-- The pattern is searched for, and each path that it selects is asked about. -/
theorem lockFiles_asks (root : PathName) (selection : Pattern) :
    Asks (lockFiles root selection) := by
  refine .bind (Disk.glob_asks _ _) fun found =>
    .bind (filterM_keeps (fun path => ?_) _) fun _ => .pure _
  refine .bind (Disk.ask_asks _ _) fun there => ?_
  split <;> exact .pure _

/-- Lock files are only read, and what is found is recorded. -/
theorem hashFiles_keeps {R : World → World → Prop} [Law R]
    (logs : ∀ level part text, Keeps R (fun f => f.isStage = false) (log level part text))
    (root : PathName) (pattern : Value) :
    Keeps R (fun f => f.isStage = false) (hashFiles root pattern) := by
  refine .bind (.ofResult (patternOf_plain _)) fun selection =>
    .bind (lockFiles_asks _ _).keeps fun files => ?_
  split
  · exact .pure _
  · exact .bind (.mapM fun path => (Disk.read_asks path).keeps) fun _ =>
      .bind (logs _ _ _) fun _ => .pure _

end Cache

/-- The lock files are asked about and read, and one record tells what came out. The rest is
computed. -/
theorem workdirKey_keeps {R : World → World → Prop} [Law R]
    (logs : ∀ level part text, Keeps R (fun f => f.isStage = false) (log level part text))
    (s : Settings) : Keeps R (fun f => f.isStage = false) (workdirKey s) := by
  refine .bind (.ofResult (Section.given_plain _)) fun cache =>
    .bind (Cache.hashFiles_keeps logs _ _) fun digest => ?_
  have keyed : Keeps R (fun f => f.isStage = false) (do
      ofResult (Cache.key (Cache.systemLabel (← get).systemName) cache.keyStart digest)) :=
    .bind .get fun _ => .ofResult (Cache.key_plain _ _ _)
  split
  · exact .bind (logs _ _ _) fun _ => keyed
  · exact keyed

/-- A record is the only thing that it leaves. -/
theorem workdirKey_quiet (s : Settings) : Quiet (workdirKey s) := workdirKey_keeps log_quiet s

/-! ## The cache -/

namespace CacheStore

/-- Whether there is an entry is asked of the name of its manifest. -/
theorem has_asks (store : CacheStore) (key : String) : Asks (store.has key) :=
  Disk.ask_asks (store.manifestPath key) Files.isFile

/-- A manifest is a text that is read and a document that is made of it. -/
theorem readManifest_asks (store : CacheStore) (key : String) : Asks (store.readManifest key) :=
  .bind (Disk.readText_asks _) fun _ => .ofResult (Timing.readDocument_plain _)

/-- The manifest is read, and the paths that it names are compared with those that are wanted. -/
theorem lists_asks (store : CacheStore) (key : String) (wanted : List String) :
    Asks (store.lists key wanted) := by
  -- The manifest is only attempted, so that its fault reaches the handler as a result.
  intro w
  have attempted := readManifest_asks store key w
  unfold lists
  simp only [bind_run, attempt_run]
  rcases ran : store.readManifest key w with ⟨f | manifest, v⟩ <;> rw [ran] at attempted
  · have rest : Asks (if isUnreadable f then Pure.pure false else throw f) := by
      split
      · exact .pure _
      · exact .throw (attempted.2 f rfl)
    exact ⟨Law.trans attempted.1 (rest v).1, (rest v).2⟩
  · cases manifest <;> exact ⟨attempted.1, fun _ failed => by simp [pure_run] at failed⟩

/-- The handler makes failures of preparation out of faults of the system and lets all others
through. -/
theorem failingAs_keeps {R : World → World → Prop} [Law R] {stage start : String} {a : Action α}
    (kept : Keeps R (fun f => f.isStage = false) a) :
    Keeps R (Fault.IsInternal (· = .setup)) (failingAs stage start a) := by
  refine .tryCatch kept fun f other => ?_
  split
  · refine .throw ?_
    rintro s ⟨⟩
    exact ⟨rfl, rfl⟩
  · exact .throw (Fault.isInternal_of_other other)

/-- The parts of an entry are copied back one by one, each of them in one of two ways. -/
theorem restoreParts_keeps {R : World → World → Prop} [Law R]
    (trees : ∀ source target, Keeps R (fun f => f.isStage = false) (Disk.copyTree true source target))
    (folders : ∀ path, Keeps R (fun f => f.isStage = false) (Disk.makeFolders path))
    (copies : ∀ source target, Keeps R (fun f => f.isStage = false) (Disk.copyFile source target))
    (entry : PathName) (i : Nat) (paths : List PathName) :
    Keeps R (fun f => f.isStage = false) (restoreParts entry i paths) := by
  induction paths generalizing i with
  | nil => exact .pure _
  | cons target rest ih =>
    refine .bind (.bind (Disk.ask_asks _ _).keeps fun there => ?_) fun _ => ih _
    split
    · refine .bind (Disk.ask_asks _ _).keeps fun isFolder => ?_
      split
      · exact trees _ _
      · exact .bind (folders _) fun _ => copies _ _
    · exact .pure _

/-- The parts are copied one after the other, and copying is quiet. -/
theorem restoreParts_quiet (entry : PathName) (i : Nat) (paths : List PathName) :
    Quiet (restoreParts entry i paths) :=
  restoreParts_keeps (Disk.copyTree_quiet true) Disk.makeFolders_quiet
    (fun _ _ => Disk.change_quiet _ _) entry i paths

/-- Whatever records and copies keep restoring keeps, and it fails only as preparation does. -/
theorem restore_keeps {R : World → World → Prop} [Law R] (store : CacheStore) (key : String)
    (paths : List PathName)
    (logs : ∀ text, Keeps R (Fault.IsInternal (· = .setup)) (log .info "cache" text))
    (copies : Keeps R (fun f => f.isStage = false) (restoreParts (store.entryFolder key) 0 paths)) :
    Keeps R (Fault.IsInternal (· = .setup)) (store.restore key paths) := by
  have asks {α : Type} {a : Action α} (asks : Asks a) : Keeps R (Fault.IsInternal (· = .setup)) a :=
    asks.keeps.mono fun _ => Fault.isInternal_of_other
  have listed : ∀ saved, Keeps R (Fault.IsInternal (· = .setup)) (do
      if !isListOf (paths.map PathName.display) saved then
        log .info "cache"
          ("Cache entry " ++ key ++ " was saved for different paths; treating as miss")
        return false
      failingAs "prepare" ("Cache restore failed for " ++ key)
        (restoreParts (store.entryFolder key) 0 paths)
      log .info "cache"
        ("Cache hit for " ++ key ++ " (" ++ toString paths.length ++ " path(s) restored)")
      return true) := by
    intro saved
    split
    · exact .bind (logs _) fun _ => .pure _
    · exact .bind (failingAs_keeps copies) fun _ => .bind (logs _) fun _ => .pure _
  refine .bind (asks (has_asks _ _)) fun there => ?_
  split
  · exact .bind (logs _) fun _ => .pure _
  · refine .bind (.tryCatch (readManifest_asks _ _).keeps fun f other => ?_) fun manifest => ?_
    · split
      · refine .throw ?_
        rintro s ⟨⟩
        exact ⟨rfl, rfl⟩
      · exact .throw (Fault.isInternal_of_other other)
    · dsimp only
      split
      · exact .bind (.pure _) listed
      · exact .bind (.throw (Fault.isInternal_of_other rfl)) listed

/-- Restoring is a matter of files. -/
theorem restore_quiet (store : CacheStore) (key : String) (paths : List PathName) :
    QuietStage (· = .setup) (store.restore key paths) :=
  restore_keeps store key paths (fun _ => (log_quiet _ _ _).stage) (restoreParts_quiet _ _ _)

/-- By induction on the paths: each part is saved by questions and copies. -/
theorem saveParts_quiet (entry : PathName) (i : Nat) (paths : List PathName) :
    Quiet (saveParts entry i paths) := by
  induction paths generalizing i with
  | nil => exact .pure _
  | cons source rest ih =>
    refine .bind (.bind (Disk.isFolder_quiet _) fun isFolder => ?_) fun _ => ih _
    split
    · exact Disk.copyTree_quiet _ _ _
    · refine .bind (Disk.isFile_quiet _) fun isFile => ?_
      split
      · exact Disk.change_quiet _ _
      · exact log_quiet _ _ _

/-- A folder is made, filled and moved, and taken away again if that fails. Each step changes files
only. -/
theorem writeEntry_quiet (store : CacheStore) (key : String) (paths : List PathName) :
    Quiet (store.writeEntry key paths) := by
  have written : Quiet (do
      let staging ← store.stagingFolder key
      Disk.makeFolder staging
      let fill : Action Unit := do
        saveParts staging 0 paths
        Disk.write (staging.child manifestName)
          (manifestText key (paths.map PathName.display)).toUTF8
        Disk.moveFolder staging (store.entryFolder key)
      tryCatch fill fun f => do
        modify fun w => w.withFiles (w.files.discard staging)
        throw f) := by
    refine .bind (.bind .get fun _ => .pure _) fun staging =>
      .bind (Disk.change_quiet _ _) fun _ =>
        .tryCatch (G := fun f => f.isStage = false) ?_ fun f other => ?_
    · exact .bind (saveParts_quiet _ _ _) fun _ => .bind (Disk.change_quiet _ _) fun _ =>
        Disk.change_quiet _ _
    · exact .bind (.modify fun w => withFiles_untouched w _) fun _ => .throw other
  refine .bind (Disk.makeFolders_quiet _) fun _ => .bind (Disk.exists_quiet _) fun there => ?_
  split
  · exact .bind (Disk.change_quiet _ _) fun _ => written
  · exact written

/-- Saving is a matter of files, and fails as a stage only in what it has to do with them. -/
theorem save_quiet (store : CacheStore) (key : String) (paths : List PathName) :
    QuietStage (· = .setup) (store.save key paths) := by
  have written : QuietStage (· = .setup) (do
      failingAs "save-cache" ("Cache save failed for " ++ key) (store.writeEntry key paths)
      log .info "cache" ("Saved cache entry " ++ key)
      return true) :=
    .bind (failingAs_keeps (writeEntry_quiet _ _ _)) fun _ =>
      .bind (log_quiet _ _ _).stage fun _ => .pure _
  refine .bind (has_asks _ _).quiet.stage fun there => ?_
  split
  · refine .bind (lists_asks _ _ _).quiet.stage fun listed => ?_
    split
    · exact .bind (log_quiet _ _ _).stage fun _ => .pure _
    · exact .bind (log_quiet _ _ _).stage fun _ => written
  · exact written

end CacheStore

end BuildBench
