import BuildBench.Proofs.Cache.SaveOutcome

/-!
# Where a restore may change files

Restoring makes and fills files and folders, and never takes one away. Whatever it changes is on the
way of one of the names that it is given, or is a log file. So a place that none of these names passes
stays as it is.
-/

namespace BuildBench

open BuildBench.Action

variable {α : Type} {names : PathName → Prop} {w u v : World}

/-- Files that, if the current directory exists, only grew on the ways of some names. Open log files
elsewhere may have become longer. -/
structure Roams (names : PathName → Prop) (w v : World) : Prop extends SameHost w v where
  current : w.files.Tidy → v.files.current = w.files.current
  tidy : w.files.Tidy → v.files.Tidy
  grows : w.files.Tidy → w.files.Steady → w.files.root.Grows v.files.root
  reached : w.files.Tidy → w.files.Steady → ∀ location,
    v.files.root.node? location ≠ w.files.root.node? location → .file location ∉ w.handlers →
      ∃ path, names path ∧ location ∈ v.files.way path

namespace Roams

/-- The files only grew. -/
theorem steady (roams : Roams names w v) (tidy : w.files.Tidy) (steady : w.files.Steady) :
    v.files.Steady :=
  steady.of_grows (roams.grows tidy steady) (roams.current tidy)

instance : Law (Roams names) where
  refl w := ⟨.rfl, fun _ => rfl, id, fun _ _ => .refl _, fun _ _ _ different => absurd rfl different⟩
  trans {u v w} first second := by
    have later (tidy : u.files.Tidy) (steady : u.files.Steady) :
        v.files.root.Grows w.files.root :=
      second.grows (first.tidy tidy) (first.steady tidy steady)
    constructor
    · exact first.toSameHost.trans second.toSameHost
    · exact fun tidy => (second.current (first.tidy tidy)).trans (first.current tidy)
    · exact second.tidy ∘ first.tidy
    · exact fun tidy steady => (first.grows tidy steady).trans (later tidy steady)
    · intro tidy steady location different closed
      by_cases same : w.files.root.node? location = v.files.root.node? location
      · obtain ⟨path, named, passed⟩ :=
          first.reached tidy steady location (same ▸ different) closed
        exact ⟨path, named, Files.way_mono (later tidy steady) (second.current (first.tidy tidy))
          path passed⟩
      · exact second.reached (first.tidy tidy) (first.steady tidy steady) location same
          fun opened => closed (first.logs location opened)

/-- Only files are other ones. -/
theorem of_reaches {files : Files} (reaches : w.files.Tidy → Files.Reaches names w.files files) :
    Roams names w (w.withFiles files) where
  toSameHost := (withFiles_untouched w files).toSameHost
  current tidy := (reaches tidy).current
  tidy tidy := (reaches tidy).tidy tidy
  grows tidy steady := ((reaches tidy).spread steady).grows
  reached tidy steady location different _ :=
    ((reaches tidy).spread steady).reached location different

/-- Nothing changed but open log files. -/
theorem of_confined (confined : Confined nowhere w v) : Roams names w v where
  toSameHost := confined.toSameHost
  current _ := confined.current
  tidy := confined.tidy
  grows _ _ location _ held := (confined.kinds location id).trans held
  reached _ _ location different closed := absurd (confined.nodes location id closed) different

end Roams

/-! ## Restoring -/

namespace CacheStore

variable {store : CacheStore} {place : Location} {key : String} {paths : List PathName}

/-- The names at and below some paths, and of the folders above them. -/
def Around (paths : List PathName) : PathName → Prop :=
  fun name => ∃ path ∈ paths, Files.Below path name ∨ name = path.parent

/-- What is below one of the paths is around them. -/
theorem around_below {path : PathName} (among : path ∈ paths) :
    ∀ name, Files.Below path name → Around paths name :=
  fun _ below => ⟨path, among, .inl below⟩

/-- An operation that fails changes nothing. -/
theorem Disk.change_roams {path : PathName} {operation : Files → Except SystemError Files}
    (each : ∀ files changed, operation files = .ok changed → Files.Reaches names files changed) :
    Keeps (Roams names) (fun f => f.isStage = false) (Disk.change path operation) := by
  intro w
  refine ⟨?_, (Disk.change_quiet path operation w).2⟩
  obtain ⟨f, failed⟩ | ⟨files, -, done, changed⟩ := Disk.change_cases path operation w
  · rw [failed]
    exact Law.refl w
  · rw [changed]
    exact .of_reaches fun _ => each w.files files done

/-- The folders are on the way of the name, also those that were made before a failure. -/
theorem Disk.makeFolders_roams {path : PathName} (named : names path) :
    Keeps (Roams names) (fun f => f.isStage = false) (Disk.makeFolders path) := by
  refine fun w => ⟨?_, (Disk.makeFolders_quiet path w).2⟩
  obtain ⟨f, failed, -⟩ | ⟨files, -, made, done⟩ := Disk.makeFolders_cases path w
  · rw [failed]
    exact Law.refl w
  · rw [done]
    exact .of_reaches fun _ => Files.makeFolders_reaches made named

/-- Folders are made above the path, and what is copied is copied below it. -/
theorem restorePart_roams {source target : PathName} (among : target ∈ paths)
    (notUp : source.name ≠ "..") :
    Keeps (Roams (Around paths)) (fun f => f.isStage = false) (restorePart source target) := by
  refine .bind (Disk.ask_asks _ _).keeps fun there => ?_
  split
  · refine .bind (Disk.ask_asks _ _).keeps fun isFolder => ?_
    split
    · intro w
      refine ⟨?_, (Disk.copyTree_quiet true source target w).2⟩
      obtain ⟨f, failed⟩ | ⟨-, -, copied⟩ := Disk.copyTree_cases true source target w
      · rw [failed]
        exact Law.refl w
      · rw [copied]
        exact .of_reaches fun tidy =>
          (Files.copyFolder_reaches true Files.copyDepth w.files source target tidy).mono
            (around_below among)
    · exact .bind (Disk.makeFolders_roams ⟨target, among, .inr rfl⟩) fun _ =>
        Disk.change_roams fun files changed copied =>
          (Files.copyFile_reaches copied notUp).mono (around_below among)
  · exact .pure _

/-- By induction on the paths that are left. -/
theorem restoreParts_roams {entry : PathName} {i : Nat} {some : List PathName}
    (among : ∀ path ∈ some, path ∈ paths) :
    Keeps (Roams (Around paths)) (fun f => f.isStage = false) (restoreParts entry i some) := by
  induction some generalizing i with
  | nil => exact .pure _
  | cons path rest ih =>
    have notUp : (entry.child (toString i)).name ≠ ".." := by
      rw [PathName.name_child]
      exact toString_notUp i
    exact .bind (restorePart_roams (among path (List.mem_cons_self ..)) notUp) fun _ =>
      ih fun other later => among other (List.mem_cons_of_mem _ later)

/-- Restoring changes files on the ways of its paths. -/
theorem restore_roams (store : CacheStore) (key : String) (paths : List PathName) :
    Keeps (Roams (Around paths)) (Fault.IsInternal (· = .setup)) (store.restore key paths) := by
  refine restore_keeps store key paths (fun text w => ⟨?_, nofun⟩)
    (restoreParts_roams fun _ among => among)
  exact .of_confined (log_confined .info "cache" text w)

/-- No name at or below the paths leads into a folder. -/
def Spared (place : Location) (files : Files) (paths : List PathName) : Prop :=
  ∀ path ∈ paths, ∀ name, Files.Below path name → ∀ passed ∈ files.way name, ¬ inside place passed

/-- A folder above a path is on the way of the path. -/
theorem Spared.around {files : Files} (spared : Spared place files paths) :
    ∀ name, Around paths name → ∀ passed ∈ files.way name, ¬ inside place passed := by
  rintro name ⟨path, among, below | rfl⟩ passed there
  · exact spared path among name below passed there
  · exact spared path among path (Files.below_self path) passed (Files.way_parent files path there)

/-- A cache that is spared stays where it is and as it is. -/
theorem spared_of_roams (roams : Roams (Around paths) w v) (tidy : w.files.Tidy)
    (steady : w.files.Steady) (sits : store.Sits w.files place) (unlogged : Unlogged place w)
    (spared : Spared place v.files paths) : Same place w v ∧ store.Sits v.files place := by
  have grows := roams.grows tidy steady
  have after := sits.grows grows (roams.current tidy)
  refine ⟨fun location below => ?_, after⟩
  by_cases root : location = place
  · rw [root, Folder.kind?_eq_folder_iff.mp sits.opens.folder,
      Folder.kind?_eq_folder_iff.mp after.opens.folder]
  · apply Classical.byContradiction
    intro different
    obtain ⟨name, around, passed⟩ := roams.reached tidy steady location different
      fun opened => unlogged location opened below
    exact spared.around name around location passed ⟨below, root⟩

end CacheStore

end BuildBench
