import BuildBench.Proofs.Cache.Saving

/-!
# How saving ends

A save finds that there is nothing to do, fails, or writes an entry. When it fails the cache is as it
was, except that the old entry for the key may be gone: it is taken away as a whole before the new
one is written.
-/

namespace BuildBench

open BuildBench.Action

namespace CacheStore

variable {store : CacheStore} {place : Location} {key : String} {paths : List PathName}
  {w u v : World}

/-- What an attempt to write an entry leads to. -/
inductive Wrote (store : CacheStore) (place : Location) (key : String) (paths : List PathName)
    (w : World) : Except Fault Unit → World → Prop
  /-- The folder of the cache is missing and cannot be made. -/
  | unmade {f : Fault}
    (closed : ∀ location, w.files.Opens store.root location → Disk.isName store.root = false) :
    Wrote store place key paths w (.error f) w
  /-- Nothing of the cache changed; the key had no folder. -/
  | kept {f : Fault} {files : Files} {v : World}
    (made : w.files.makeFolders store.root = .ok files)
    (unheld : ¬ store.HasFolder files place key)
    (same : Confined nowhere (w.withFiles files) v) : Wrote store place key paths w (.error f) v
  /-- The old entry is gone, and there is no new one. -/
  | lost {f : Fault} {files : Files} {v : World}
    (made : w.files.makeFolders store.root = .ok files)
    (confined : Confined (beneath (place ++ [key])) (w.withFiles files) v)
    (gone : ∀ rest, v.files.root.node? (place ++ key :: rest) = none) :
    Wrote store place key paths w (.error f) v
  /-- There is a new entry. -/
  | written {files : Files} {u v : World} (made : w.files.makeFolders store.root = .ok files)
    (cleared : Confined (beneath (place ++ [key])) (w.withFiles files) u)
    (written : Written store place key paths u v) : Wrote store place key paths w (.ok ()) v

/-- Step by step: folders are made, the old entry is taken away, and the new one is staged; each
step may be the last. -/
theorem writeEntry_wrote (tidy : w.files.Tidy) (stands : store.Stands w.files place)
    (named : IsKey key) (paths : List PathName) :
    Wrote store place key paths w (store.writeEntry key paths w).1
      (store.writeEntry key paths w).2 := by
  rw [writeEntry_eq, bind_run]
  obtain ⟨f, failed, closed⟩ | ⟨files, -, made, done⟩ := Disk.makeFolders_cases store.root w
  · rw [failed]
    exact .unmade closed
  have sits : store.Sits (w.withFiles files).files place := (stands.made made).1
  have tidyMade : (w.withFiles files).files.Tidy := (Files.makeFolders_ok made).1.tidy tidy
  simp only [done, bind_run]
  obtain ⟨f, failed, unheld⟩ | ⟨cleared, unheld⟩ | ⟨rest, cleared, confined, gone⟩ :=
    clearEntry_cases (w := w.withFiles files) sits.opens named
  · rw [failed]
    exact .kept made unheld (.refl _ _)
  · -- Nothing stood in the place of the entry.
    simp only [cleared]
    obtain ⟨f, v, staged, same⟩ | ⟨v, staged, written⟩ :=
      stageEntry_cases tidyMade sits.opens named paths
    · rw [staged]
      exact .kept made unheld same
    · rw [staged]
      exact .written made (.refl _ _) written
  · -- What stood in its place is gone.
    simp only [cleared]
    have opens : ((w.withFiles files).withFiles rest).files.Opens store.root place :=
      (sits.confined (confined.mono fun _ => inside_of_beneath)).opens
    obtain ⟨f, v, staged, same⟩ | ⟨v, staged, written⟩ :=
      stageEntry_cases (confined.tidy tidyMade) opens named paths
    · rw [staged]
      refine .lost made (confined.trans (same.mono fun _ => False.elim)) fun below => ?_
      rw [Folder.node?_eq_none, same.kinds _ id, ← Folder.node?_eq_none]
      exact gone below
    · rw [staged]
      exact .written made confined written

/-- What a save leads to. -/
inductive Saved (store : CacheStore) (place : Location) (key : String) (paths : List PathName)
    (w : World) : Except Fault Bool → World → Prop
  /-- It cannot be said whether there is an entry that lists the paths. -/
  | unasked {f : Fault} (unsaid : store.has key w = (.error f, w) ∨
      store.has key w = (.ok true, w) ∧
        store.lists key (paths.map PathName.display) w = (.error f, w)) :
    Saved store place key paths w (.error f) w
  /-- There is one, and nothing is done. -/
  | unneeded {v : World} (held : store.has key w = (.ok true, w))
    (listed : store.lists key (paths.map PathName.display) w = (.ok true, w))
    (same : Confined nowhere w v) : Saved store place key paths w (.ok false) v
  | failed {f g : Fault} {u v : World} (begun : Confined nowhere w u)
    (wrote : Wrote store place key paths u (.error f) v) :
    Saved store place key paths w (.error g) v
  | written {u t v : World} (begun : Confined nowhere w u)
    (wrote : Wrote store place key paths u (.ok ()) t) (ended : Confined nowhere t v) :
    Saved store place key paths w (.ok true) v

/-- What goes well goes through, and what fails does so under one name or the other. -/
theorem failingAs_run {α : Type} (stage start : String) (a : Action α) (w : World) :
    (∃ x, (a w).1 = .ok x ∧ failingAs stage start a w = (.ok x, (a w).2)) ∨
      ∃ f g, (a w).1 = .error f ∧ failingAs stage start a w = (.error g, (a w).2) := by
  rw [failingAs, tryCatch_run]
  rcases a w with ⟨f | x, v⟩
  · right
    dsimp only
    split
    · exact ⟨f, _, rfl, rfl⟩
    · exact ⟨f, f, rfl, rfl⟩
  · exact .inl ⟨x, rfl, rfl⟩

/-- Writing an entry that is needed. -/
def saveNew (store : CacheStore) (key : String) (paths : List PathName) : Action Bool := do
  failingAs "save-cache" ("Cache save failed for " ++ key) (store.writeEntry key paths)
  log .info "cache" ("Saved cache entry " ++ key)
  return true

/-- The answers are grouped in another way: there is an entry for these paths, or a new one has to
be written. -/
theorem save_eq (store : CacheStore) (key : String) (paths : List PathName) :
    store.save key paths = (do
      if ← store.has key then
        if ← store.lists key (paths.map PathName.display) then
          log .debug "cache" ("Cache entry " ++ key ++ " already exists, not saving")
          return false
        log .info "cache"
          ("Cache entry " ++ key ++ " was saved for different paths; replacing it")
      store.saveNew key paths) := rfl

/-- An entry is written, and what comes of that is told with a record. -/
theorem saveNew_saved (tidy : w.files.Tidy) (stands : store.Stands w.files place)
    (named : IsKey key) (paths : List PathName) (begun : Confined nowhere w u) :
    Saved store place key paths w (store.saveNew key paths u).1 (store.saveNew key paths u).2 := by
  have wrote := writeEntry_wrote (begun.tidy tidy) (stands.logged begun) named paths
  unfold saveNew
  simp only [bind_run]
  obtain ⟨x, ended, ran⟩ | ⟨f, g, ended, ran⟩ := failingAs_run "save-cache"
    ("Cache save failed for " ++ key) (store.writeEntry key paths) u <;>
    rw [ended] at wrote <;> simp only [ran]
  · exact .written begun wrote (log_confined _ _ _ _)
  · exact .failed begun wrote

/-- By the answers to two questions: is there an entry, and does it list the paths. -/
theorem save_saved (tidy : w.files.Tidy) (stands : store.Stands w.files place)
    (named : IsKey key) (paths : List PathName) :
    Saved store place key paths w (store.save key paths w).1 (store.save key paths w).2 := by
  rw [save_eq]
  simp only [bind_run]
  obtain ⟨answer, asked⟩ := (has_asks store key).run w
  simp only [asked]
  rcases answer with f | held <;> dsimp only
  · exact .unasked (.inl asked)
  cases held with
  | false => exact saveNew_saved tidy stands named paths (.refl _ w)
  | true =>
    simp only [if_true, bind_run]
    obtain ⟨answer, listed⟩ := (lists_asks store key (paths.map PathName.display)).run w
    simp only [listed]
    rcases answer with f | same <;> dsimp only
    · exact .unasked (.inr ⟨asked, listed⟩)
    cases same with
    | true => exact .unneeded asked listed (log_confined _ _ _ w)
    | false =>
      simp only [Bool.false_eq_true, if_false, bind_run]
      exact saveNew_saved tidy stands named paths (log_confined .info "cache" _ w)

/-! ## What is spared -/

/-- No log file is open at or below a location. -/
def Unlogged (place : Location) (w : World) : Prop :=
  ∀ location, .file location ∈ w.handlers → ¬ place <+: location

/-- Files are the same at a location and below it. -/
def Same (place : Location) (w v : World) : Prop :=
  ∀ location, place <+: location → v.files.root.node? location = w.files.root.node? location

/-- No log file was opened meanwhile. -/
theorem Unlogged.after {w v : World} (unlogged : Unlogged place w) (host : SameHost w v) :
    Unlogged place v := fun location opened => unlogged location (host.logs location opened)

/-- Only open log files could have changed, and none is there. -/
theorem Unlogged.same (unlogged : Unlogged place w) (confined : Confined nowhere w v) :
    Same place w v :=
  fun location below => confined.nodes location id fun opened => unlogged location opened below

/-- Nothing of a cache changed but the entry for one key; its folder may be new. -/
structure OnlyEntry (place : Location) (key : String) (w v : World) : Prop where
  others : ∀ location, inside place location → ¬ place ++ [key] <+: location →
    v.files.root.node? location = w.files.root.node? location
  folder : v.files.root.node? place = w.files.root.node? place ∨
    w.files.root.node? place = none ∧ v.files.root.node? place = some .folder

/-- Nothing changed. -/
theorem OnlyEntry.of_same (same : Same place w v) : OnlyEntry place key w v :=
  ⟨fun location within _ => same location within.1, .inl (same place (List.prefix_refl _))⟩

/-- Nothing changed before. -/
theorem OnlyEntry.after_same (same : Same place w u) (only : OnlyEntry place key u v) :
    OnlyEntry place key w v where
  others location within other :=
    (only.others location within other).trans (same location within.1)
  folder := by
    rw [← same place (List.prefix_refl _)]
    exact only.folder

/-- Nothing changed afterwards. -/
theorem OnlyEntry.then_same (only : OnlyEntry place key w u) (same : Same place u v) :
    OnlyEntry place key w v where
  others location within other :=
    (same location within.1).trans (only.others location within other)
  folder := by
    rw [same place (List.prefix_refl _)]
    exact only.folder

/-- A world in which the folder of the cache was made, and that changed in the place of the entry. -/
theorem onlyEntry_of_made {files : Files} (key : String) (stands : store.Stands w.files place)
    (unlogged : Unlogged place w) (made : w.files.makeFolders store.root = .ok files)
    (confined : Confined (beneath (place ++ [key])) (w.withFiles files) v) :
    OnlyEntry place key w v ∧ store.Sits v.files place := by
  obtain ⟨sits, spared⟩ := stands.made made
  have closed : Unlogged place (w.withFiles files) :=
    unlogged.after (withFiles_untouched w files).toSameHost
  have kept (location : Location) (below : place <+: location)
      (other : ¬ place ++ [key] <+: location) :
      v.files.root.node? location = files.root.node? location :=
    confined.nodes location other fun opened => closed location opened below
  have here : v.files.root.node? place = files.root.node? place :=
    kept place (List.prefix_refl _) fun below => absurd below.length_le (by simp)
  refine ⟨⟨fun location within other => ?_, ?_⟩,
    Sits.confined (w := w.withFiles files) sits (confined.mono fun _ => inside_of_beneath)⟩
  · exact (kept location within.1 other).trans (spared location within)
  · rw [here, Folder.kind?_eq_folder_iff.mp sits.opens.folder]
    rcases before : w.files.root.node? place with _ | n
    · exact .inr ⟨rfl, rfl⟩
    · have after := (Files.makeFolders_ok made).1.kept place n before
      rw [Folder.kind?_eq_folder_iff.mp sits.opens.folder] at after
      exact .inl after

/-- By how far the writing came. What was staged is hidden, and gone in the end or moved to the
place of the entry. -/
theorem Wrote.onlyEntry {result : Except Fault Unit} (wrote : Wrote store place key paths w result v)
    (stands : store.Stands w.files place) (unlogged : Unlogged place w) :
    OnlyEntry place key w v ∧ store.Stands v.files place := by
  cases wrote with
  | unmade closed => exact ⟨.of_same fun _ _ => rfl, stands⟩
  | kept made unheld same =>
    obtain ⟨only, sits⟩ := onlyEntry_of_made key stands unlogged made
      (same.mono fun _ => False.elim)
    exact ⟨only, sits.stands⟩
  | lost made confined gone =>
    obtain ⟨only, sits⟩ := onlyEntry_of_made key stands unlogged made confined
    exact ⟨only, sits.stands⟩
  | written made cleared written =>
    obtain ⟨only, sits⟩ := onlyEntry_of_made key stands unlogged made (cleared.trans written.confined)
    exact ⟨only, sits.stands⟩

/-- By how far the writing came: files changed, and nothing else. -/
theorem Wrote.untouched {result : Except Fault Unit}
    (wrote : Wrote store place key paths w result v) : Untouched w v := by
  cases wrote with
  | unmade _ => exact Law.refl w
  | kept _ _ same => exact Law.trans (withFiles_untouched w _) same.toUntouched
  | lost _ confined _ => exact Law.trans (withFiles_untouched w _) confined.toUntouched
  | written _ cleared written =>
    exact Law.trans (withFiles_untouched w _)
      (Law.trans cleared.toUntouched written.confined.toUntouched)

/-- A save changes nothing of a cache but the entry for its key. -/
theorem Saved.onlyEntry {result : Except Fault Bool} (saved : Saved store place key paths w result v)
    (stands : store.Stands w.files place) (unlogged : Unlogged place w) :
    OnlyEntry place key w v ∧ store.Stands v.files place := by
  cases saved with
  | unasked _ => exact ⟨.of_same fun _ _ => rfl, stands⟩
  | unneeded _ _ same => exact ⟨.of_same (unlogged.same same), stands.logged same⟩
  | failed begun wrote =>
    obtain ⟨only, after⟩ :=
      wrote.onlyEntry (stands.logged begun) (unlogged.after begun.toSameHost)
    exact ⟨.after_same (unlogged.same begun) only, after⟩
  | written begun wrote ended =>
    obtain ⟨only, after⟩ :=
      wrote.onlyEntry (stands.logged begun) (unlogged.after begun.toSameHost)
    have closed := (unlogged.after begun.toSameHost).after wrote.untouched.toSameHost
    exact ⟨(OnlyEntry.after_same (unlogged.same begun) only).then_same (closed.same ended),
      after.logged ended⟩

/-- By how far the writing came. -/
theorem Wrote.tidy {result : Except Fault Unit} (wrote : Wrote store place key paths w result v)
    (tidy : w.files.Tidy) : v.files.Tidy := by
  cases wrote with
  | unmade _ => exact tidy
  | kept made _ same => exact same.tidy ((Files.makeFolders_ok made).1.tidy tidy)
  | lost made confined _ => exact confined.tidy ((Files.makeFolders_ok made).1.tidy tidy)
  | written made cleared written =>
    exact (cleared.trans written.confined).tidy ((Files.makeFolders_ok made).1.tidy tidy)

/-- By how the save ended. -/
theorem Saved.tidy {result : Except Fault Bool} (saved : Saved store place key paths w result v)
    (tidy : w.files.Tidy) : v.files.Tidy := by
  cases saved with
  | unasked _ => exact tidy
  | unneeded _ _ same => exact same.tidy tidy
  | failed begun wrote => exact wrote.tidy (begun.tidy tidy)
  | written begun wrote ended => exact ended.tidy (wrote.tidy (begun.tidy tidy))

/-- By how the save ended. -/
theorem Saved.untouched {result : Except Fault Bool}
    (saved : Saved store place key paths w result v) : Untouched w v := by
  cases saved with
  | unasked _ => exact Law.refl w
  | unneeded _ _ same => exact same.toUntouched
  | failed begun wrote => exact Law.trans begun.toUntouched wrote.untouched
  | written begun wrote ended =>
    exact Law.trans (Law.trans begun.toUntouched wrote.untouched) ended.toUntouched

/-- Nothing changed. -/
theorem withFiles_same_confined (w : World) : Confined nowhere w (w.withFiles w.files) :=
  confined_of_nodes rfl (fun _ _ => rfl) id

/-- By how far the writing came. The folder of the cache is there already, so making it changes
nothing. -/
theorem Wrote.confined {result : Except Fault Unit}
    (wrote : Wrote store place key paths w result v) (sits : store.Sits w.files place) :
    Confined (inside place) w v := by
  have same {files : Files} (made : w.files.makeFolders store.root = .ok files) :
      Confined (inside place) w (w.withFiles files) := by
    cases made.symm.trans (Files.makeFolders_of_opens sits.opens)
    exact (withFiles_same_confined w).mono fun _ => False.elim
  cases wrote with
  | unmade _ => exact .refl _ w
  | kept made _ kept => exact (same made).trans (kept.mono fun _ => False.elim)
  | lost made confined _ => exact (same made).trans (confined.mono fun _ => inside_of_beneath)
  | written made cleared written =>
    exact (same made).trans ((cleared.trans written.confined).mono fun _ => inside_of_beneath)

/-- Where the folder of a cache is there already a save changes nothing outside of it. -/
theorem Saved.confined {result : Except Fault Bool}
    (saved : Saved store place key paths w result v) (sits : store.Sits w.files place) :
    Confined (inside place) w v := by
  have quiet {u v : World} (confined : Confined nowhere u v) : Confined (inside place) u v :=
    confined.mono fun _ => False.elim
  cases saved with
  | unasked _ => exact .refl _ w
  | unneeded _ _ same => exact quiet same
  | failed begun wrote =>
    exact (quiet begun).trans (wrote.confined (sits.confined (quiet begun)))
  | written begun wrote ended =>
    exact ((quiet begun).trans (wrote.confined (sits.confined (quiet begun)))).trans (quiet ended)

/-! ## Saves that fail -/

/-- The answer was yes, so a file was found. -/
theorem isFile_ok {files : Files} {path : PathName} (asked : files.isFile path = .ok true) :
    ∃ content executable goal, files.Leads true path goal ∧
      files.root.at? goal = some (.file content executable) := by
  unfold Files.isFile Files.check at asked
  rcases found : files.lookUp path with e | ⟨content, executable⟩ | target | entries <;>
    rw [found] at asked <;> dsimp only at asked
  · split at asked <;> simp at asked
  · exact ⟨content, executable, Files.lookUp_eq_file_iff.mp found⟩
  · simp [Entry.isFile] at asked
  · simp [Entry.isFile] at asked

/-- Where there is an entry for a key there is the folder of the cache, and something in it under the
key. -/
theorem opens_of_has (named : IsKey key) (held : (store.has key w).1 = .ok true) :
    ∃ location, w.files.Opens store.root location ∧
      w.files.root.kind? (location ++ [key]) ≠ none := by
  have asked : Disk.ask (store.manifestPath key) Files.isFile w = (.ok true, w) :=
    Prod.ext held (has_asks store key w).1.symm
  obtain ⟨-, told, isName⟩ := Disk.ask_ok asked
  obtain ⟨content, executable, goal, leads, there⟩ := isFile_ok (told (isName rfl))
  rw [manifestPath, named.entryFolder_eq] at leads
  -- The manifest is in the folder of the entry, and that is in the folder of the cache.
  obtain ⟨direct, unfollowed, -⟩ := leads.unfollowed (by simp [Folder.kind?_of_at? there])
  obtain ⟨inner, -, opensEntry⟩ := unfollowed.above manifestName_notDot manifestName_notUp
  obtain ⟨entry, unfollowed, present⟩ := opensEntry.leads.unfollowed (by simp [opensEntry.folder])
  obtain ⟨location, rfl, opens⟩ := unfollowed.above named.notDot named.notUp
  exact ⟨location, opens, present⟩

/-- A save that fails leaves the cache as it was, up to the folder of the cache, which may be new,
and up to the old entry for its key, which is gone as a whole if it is not as it was. Nothing of a new
entry is there. -/
theorem save_failed {f : Fault} (named : IsKey key) (tidy : w.files.Tidy)
    (stands : store.Stands w.files place) (unlogged : Unlogged place w)
    (failed : store.save key paths w = (.error f, v)) :
    (∀ location, inside place location → ¬ place ++ [key] <+: location →
      v.files.root.node? location = w.files.root.node? location) ∧
    (v.files.root.node? place = w.files.root.node? place ∨
      w.files.root.node? place = none ∧ v.files.root.node? place = some .folder) ∧
    (Same (place ++ [key]) w v ∨
      (store.has key v).1 ≠ .ok true ∧
        ∀ rest, v.files.root.node? (place ++ key :: rest) = none) := by
  have saved := save_saved tidy stands named paths
  rw [failed] at saved
  obtain ⟨⟨others, folder⟩, after⟩ := saved.onlyEntry stands unlogged
  refine ⟨others, folder, ?_⟩
  cases saved with
  | unasked _ => exact .inl fun _ _ => rfl
  | @failed g _ u _ begun wrote =>
    have before (location : Location) (below : place ++ [key] <+: location) :
        u.files.root.node? location = w.files.root.node? location :=
      unlogged.same begun location ((List.prefix_append place [key]).trans below)
    cases wrote with
    | unmade _ => exact .inl before
    | @kept _ files _ made unheld same =>
      have closed : Unlogged place (u.withFiles files) :=
        (unlogged.after begun.toSameHost).after (withFiles_untouched u files).toSameHost
      refine .inl fun location below => ?_
      have within := inside_of_beneath below
      calc v.files.root.node? location
          = files.root.node? location := closed.same same location within.1
        _ = u.files.root.node? location := ((stands.logged begun).made made).2 location within
        _ = w.files.root.node? location := before location below
    | lost made confined gone =>
      refine .inr ⟨fun held => ?_, gone⟩
      obtain ⟨location, opens, there⟩ := opens_of_has named held
      obtain rfl : location = place := opens.unique (after.sits opens).opens
      exact there (Folder.node?_eq_none.mp (gone []))

/-- A cache at the root of all files. -/
def sampleStore : CacheStore := ⟨⟨.root, ["c"]⟩⟩

/-- A world with an empty cache and one file to save. -/
def emptyCache : World where
  files := { root := [("c", .folder []), ("w", .folder [("a", .file "x".toUTF8 false)])] }
  processes := ⟨[], {}⟩
  replies := ⟨[], .refused .connection ""⟩

/-- A path of which the last component is too long for the name of a file: 64 characters of four
bytes each. -/
def longPath : PathName := ⟨.root, ["w", String.ofList (List.replicate 64 (Char.ofNat 0x1F600))]⟩

/-- None of its characters is zero or a half. -/
theorem isName_longPath : Disk.isName longPath = true := by
  have plain {c : Char} (bound : c.toNat < Text.halfDistance) (nonzero : c ≠ Char.ofNat 0) :
      Text.Nameable c := by
    refine ⟨fun n half => ?_, nonzero⟩
    rw [Text.half?, if_pos bound] at half
    cases half
  rw [isName_iff]
  simp only [longPath, List.forall_mem_cons, String.toList_ofList]
  refine ⟨fun c among => ?_, fun c among => ?_, List.forall_mem_nil _⟩
  · obtain rfl : c = 'w' := by simpa using among
    exact plain (by decide) (by decide)
  · obtain ⟨-, rfl⟩ := List.mem_replicate.mp among
    exact plain (by decide) (by decide)

/-- The question about the long path needs no look at its characters. -/
theorem isFolder_longPath : Disk.isFolder longPath = (do
    ofResult (((← get).files.isFolder longPath).mapError (Disk.systemFault longPath))) := by
  simp [Disk.isFolder, Disk.ask, isName_longPath]

/-- The name is followed by evaluation. -/
theorem emptyCache_sits : sampleStore.Sits emptyCache.files ["c"] := by
  have placed : emptyCache.files.place true sampleStore.root = .ok ⟨["c"], some (.folder [])⟩ := rfl
  exact ⟨⟨(Files.leads_of_place placed).1, by decide⟩, by decide⟩

/-- Folder by folder. -/
theorem emptyCache_tidy : emptyCache.files.Tidy := by
  refine .folder ⟨by decide, by decide⟩ ?_
  simp only [emptyCache, List.forall_mem_cons]
  refine ⟨.folder ⟨.nil, nofun⟩ nofun, .folder ⟨by decide, by decide⟩ ?_, nofun⟩
  simp only [List.forall_mem_cons]
  exact ⟨.file _ _, nofun⟩

/-- By looking at it. -/
theorem isKey_k : IsKey "k" := ⟨by decide, by decide, by decide⟩

/-- The name is too long for a file, so the part cannot be copied, and what was staged is taken away
again. -/
theorem save_failed_longPath :
    IsKey "k" ∧ emptyCache.files.Tidy ∧ sampleStore.Stands emptyCache.files ["c"] ∧
      Unlogged ["c"] emptyCache ∧ ∃ f v,
        sampleStore.save "k" [longPath] emptyCache = (.error f, v) ∧
          ∀ location, inside ["c"] location → ¬ ["c", "k"] <+: location →
            v.files.root.node? location = emptyCache.files.root.node? location := by
  have unlogged : Unlogged ["c"] emptyCache := nofun
  have fails : (sampleStore.save "k" [longPath] emptyCache).1.toOption = none := by
    simp only [save, writeEntry, saveParts, savePart, isFolder_longPath]
    decide +kernel
  refine ⟨isKey_k, emptyCache_tidy, emptyCache_sits.stands, unlogged, ?_⟩
  rcases ended : sampleStore.save "k" [longPath] emptyCache with ⟨f | answer, v⟩
  · exact ⟨f, v, rfl,
      (save_failed isKey_k emptyCache_tidy emptyCache_sits.stands unlogged ended).1⟩
  · rw [ended] at fails
    cases fails

/-- A save that fails can take the old entry away: there is no entry for the key afterwards. -/
theorem save_loses_entry :
    let saved := sampleStore.save "k" [⟨.root, ["w", "a"]⟩] emptyCache
    let failed := sampleStore.save "k" [longPath] saved.2
    saved.1.toOption = some true ∧ (sampleStore.has "k" saved.2).1.toOption = some true ∧
      failed.1.toOption = none ∧ (sampleStore.has "k" failed.2).1.toOption = some false := by
  simp only [save, writeEntry, saveParts, savePart, isFolder_longPath]
  decide +kernel

end CacheStore

end BuildBench
