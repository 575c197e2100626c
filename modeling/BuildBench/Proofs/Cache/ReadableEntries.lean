import BuildBench.Proofs.Cache.SaveOutcome

/-!
# Entries that can be read

An entry that was written lists its paths in a manifest. As long as the manifest stands where it was
written the entry is found, and is accepted for exactly these paths.
-/

namespace BuildBench

open BuildBench.Action

namespace CacheStore

variable {store : CacheStore} {place : Location} {key : String} {texts : List String}
  {paths : List PathName} {files changed : Files} {w u v : World}

/-- Two lists are the same if they are as long and agree item by item. -/
theorem isListOf_texts_iff {wanted : List String} :
    isListOf wanted (.list (texts.map .text)) = true ↔ texts = wanted := by
  have each : ∀ {wanted : List String}, texts.length = wanted.length →
      (((texts.map Value.text).zip wanted).all (fun pair => pair.1.isText pair.2) = true ↔
        texts = wanted) := by
    induction texts with
    | nil =>
      intro wanted same
      simp [List.length_eq_zero_iff.mp same.symm]
    | cons t more ih =>
      intro wanted same
      cases wanted with
      | nil => simp at same
      | cons s others =>
        simp only [List.map_cons, List.zip_cons_cons, List.all_cons, Bool.and_eq_true,
          ih (Nat.succ.inj same), List.cons.injEq]
        simp [Value.isText]
  simp only [isListOf, List.length_map, Bool.and_eq_true, decide_eq_true_eq]
  constructor
  · rintro ⟨same, all⟩
    exact (each same).mp all
  · rintro rfl
    exact ⟨rfl, (each rfl).mpr rfl⟩

/-- An entry whose manifest is a file with some content. -/
structure Filed (store : CacheStore) (place : Location) (files : Files) (key : String)
    (content : ByteArray) : Prop where
  sits : store.Sits files place
  manifest : ∃ executable, files.root.node? (place ++ [key] ++ [manifestName]) =
    some (.file content executable)
  entrySound : (store.entryFolder key).Sound
  sound : (store.manifestPath key).Sound
  named : Disk.isName (store.manifestPath key) = true

namespace Filed

variable {content : ByteArray} (filed : Filed store place w.files key content) (named : IsKey key)

include filed named

/-- The manifest stands in it, so it is a folder. -/
theorem opens_entry : w.files.Opens (store.entryFolder key) (place ++ [key]) := by
  obtain ⟨executable, held⟩ := filed.manifest
  have folder : w.files.root.kind? (place ++ [key]) = some .folder := by
    refine Folder.kind?_eq_folder_iff.mpr (Folder.node?_above (List.cons_ne_nil manifestName []) ?_)
    rw [held]
    exact nofun
  have sound := filed.entrySound
  rw [named.entryFolder_eq] at sound ⊢
  exact ⟨(filed.sits.opens.child named.notDot named.notUp sound).followed (by simp [folder]),
    folder⟩

/-- The name goes to the folder of the entry and on to the file. -/
theorem lookUp_manifest : ∃ executable, w.files.lookUp (store.manifestPath key) =
    .ok (.file content executable) := by
  obtain ⟨executable, held⟩ := filed.manifest
  have file : w.files.root.kind? (place ++ [key] ++ [manifestName]) = some .file := by
    rw [Folder.kind?, held]
    rfl
  have leads := (filed.opens_entry named).child manifestName_notDot manifestName_notUp filed.sound
  exact ⟨executable, Files.lookUp_eq_file_iff.mpr
    ⟨_, leads.followed (by rw [file]; simp), Files.at?_of_node?_file held⟩⟩

/-- The manifest is a file. -/
theorem has_run : store.has key w = (.ok true, w) := by
  obtain ⟨executable, found⟩ := filed.lookUp_manifest named
  have asked : w.files.isFile (store.manifestPath key) = .ok true := by
    rw [Files.isFile, Files.check, found]
    rfl
  rw [has, Disk.isFile, Disk.ask_run filed.named asked]

end Filed

/-- An entry with a manifest that lists some texts. -/
structure Stored (store : CacheStore) (place : Location) (files : Files) (key : String)
    (texts : List String) : Prop where
  sits : store.Sits files place
  manifest : ∃ executable, files.root.node? (place ++ [key] ++ [manifestName]) =
    some (.file (manifestText key texts).toUTF8 executable)
  entrySound : (store.entryFolder key).Sound
  sound : (store.manifestPath key).Sound
  named : Disk.isName (store.manifestPath key) = true
  unpaired : ∀ text ∈ texts, Text.Unpaired text.toList

namespace Stored

/-- The manifest is a file with that text. -/
theorem filed (stored : Stored store place files key texts) :
    Filed store place files key (manifestText key texts).toUTF8 :=
  ⟨stored.sits, stored.manifest, stored.entrySound, stored.sound, stored.named⟩

variable (stored : Stored store place w.files key texts) (named : IsKey key)

include stored named

/-- As for any entry that is filed. -/
theorem opens_entry : w.files.Opens (store.entryFolder key) (place ++ [key]) :=
  stored.filed.opens_entry named

/-- The manifest can be named, and so can its folder. -/
theorem hasFolder : store.HasFolder w.files place key :=
  have manifestNamed : Disk.isName ((store.entryFolder key).child manifestName) = true :=
    stored.named
  ⟨(stored.opens_entry named).folder, stored.entrySound, (isName_of_child manifestNamed).1⟩

/-- As for any entry that is filed. -/
theorem has_run : store.has key w = (.ok true, w) := stored.filed.has_run named

/-- The text is decoded, and read as the document that it was written from. -/
theorem readManifest_ok : store.readManifest key w = (.ok (.map
    [(.text "key", .text key), (.text "paths", .list (texts.map .text))]), w) := by
  obtain ⟨executable, found⟩ := stored.filed.lookUp_manifest named
  have entryNamed := (stored.hasFolder named).named
  rw [named.entryFolder_eq] at entryNamed
  have written : w.files.read (store.manifestPath key) = .ok (manifestText key texts).toUTF8 :=
    Files.read_eq_ok_iff.mpr ⟨executable, found⟩
  have unpairedKey : Text.Unpaired key.toList :=
    unpaired_of_nameable (isName_of_child entryNamed).2
  exact readManifest_run stored.named written unpairedKey stored.unpaired

/-- The paths in the document are compared with those that are wanted. -/
theorem lists_run (wanted : List String) :
    store.lists key wanted w = (.ok (decide (texts = wanted)), w) := by
  have paths : member? "paths" [(.text "key", .text key), (.text "paths", .list (texts.map .text))] =
      some (.list (texts.map Value.text)) := by
    simp [member?, Value.isText]
  have same : isListOf wanted (.list (texts.map .text)) = decide (texts = wanted) := by
    rw [Bool.eq_iff_iff, isListOf_texts_iff, decide_eq_true_eq]
  rw [lists, bind_run, attempt_run, stored.readManifest_ok named]
  simp only [paths, Option.getD_some, same]
  rfl

end Stored

/-- A name may only hold halves that have bytes, and those are second ones. -/
theorem unpaired_of_isName {path : PathName} (named : Disk.isName path = true) :
    Text.Unpaired path.display.toList := by
  refine unpaired_of_nameable (nameFault?_eq_none_iff.mp ?_)
  simpa [Disk.isName] using named

/-- An entry that was written can be read. -/
theorem Written.stored (written : Written store place key paths w v)
    (sits : store.Sits v.files place)
    (unpaired : ∀ path ∈ paths, Text.Unpaired path.display.toList) :
    Stored store place v.files key (paths.map PathName.display) where
  sits := sits
  manifest := by simpa using written.manifest
  entrySound := written.entrySound
  sound := written.sound
  named := written.named
  unpaired := List.forall_mem_map.mpr unpaired

/-- The manifest is where it was, and the same. -/
theorem Stored.of_same (stored : Stored store place files key texts)
    (sits : store.Sits changed place)
    (same : changed.root.node? (place ++ [key] ++ [manifestName]) =
      files.root.node? (place ++ [key] ++ [manifestName])) :
    Stored store place changed key texts := by
  obtain ⟨executable, held⟩ := stored.manifest
  exact ⟨sits, ⟨executable, same.trans held⟩, stored.entrySound, stored.sound, stored.named,
    stored.unpaired⟩

/-- A save that wrote an entry leaves one that can be read. -/
theorem Saved.stored (saved : Saved store place key paths w (.ok true) v)
    (stands : store.Stands w.files place) (unlogged : Unlogged place w)
    (unpaired : ∀ path ∈ paths, Text.Unpaired path.display.toList) :
    Stored store place v.files key (paths.map PathName.display) := by
  cases saved with
  | @written u t _ begun wrote ended =>
    have closed : Unlogged place t :=
      (unlogged.after begun.toSameHost).after wrote.untouched.toSameHost
    cases wrote with
    | @written files m _ made cleared written =>
      obtain ⟨sitsMade, -⟩ := (stands.logged begun).made made
      have changed : Confined (beneath (place ++ [key])) (u.withFiles files) t :=
        cleared.trans written.confined
      have sits : store.Sits t.files place := Sits.confined (w := u.withFiles files) sitsMade
        (changed.mono fun _ => inside_of_beneath)
      apply (written.stored sits unpaired).of_same
      · exact sits.confined (ended.mono fun _ => False.elim)
      · apply closed.same ended
        rw [List.append_assoc]
        exact List.prefix_append place _

/-! ## Restoring what is stored -/

/-- Restoring from an entry that lists the paths. -/
def restoreListed (store : CacheStore) (key : String) (paths : List PathName) : Action Bool := do
  failingAs "prepare" ("Cache restore failed for " ++ key)
    (restoreParts (store.entryFolder key) 0 paths)
  log .info "cache"
    ("Cache hit for " ++ key ++ " (" ++ toString paths.length ++ " path(s) restored)")
  return true

/-- An entry is restored for the paths that it lists, and for no others. -/
theorem Stored.restore_run (stored : Stored store place w.files key texts) (named : IsKey key)
    (paths : List PathName) :
    store.restore key paths w =
      if texts = paths.map PathName.display then store.restoreListed key paths w
      else (.ok false, (log .info "cache"
        ("Cache entry " ++ key ++ " was saved for different paths; treating as miss") w).2) := by
  have listed : member? "paths"
      [(.text "key", .text key), (.text "paths", .list (texts.map .text))] =
        some (.list (texts.map Value.text)) := by
    simp [member?, Value.isText]
  rw [restore, bind_run, stored.has_run named]
  simp only [Bool.not_true, Bool.false_eq_true, if_false, bind_run, tryCatch_run,
    stored.readManifest_ok named, pure_run, listed, Option.getD_some]
  by_cases same : texts = paths.map PathName.display
  · have accepted := isListOf_texts_iff.mpr same
    rw [if_pos same, accepted]
    rfl
  · have refused : isListOf (paths.map PathName.display) (.list (texts.map .text)) = false := by
      simpa using mt isListOf_texts_iff.mp same
    rw [if_neg same, refused]
    simp only [Bool.not_false, if_true]
    rw [bind_run, log_run]
    rfl

/-- Without an entry there is nothing to restore. -/
theorem restore_of_none (unheld : store.has key w = (.ok false, w)) (paths : List PathName) :
    store.restore key paths w =
      (.ok false, (log .info "cache" ("Cache miss for " ++ key) w).2) := by
  rw [restore, bind_run, unheld]
  rfl

end CacheStore

end BuildBench
