import BuildBench.Proofs.Cache.CallSequences
import BuildBench.Proofs.Cache.DamagedEntries

/-!
# Entries that are accepted

Whether an entry is accepted depends on the text of its manifest alone, whoever wrote it. So an entry
that was accepted once, or found to list some paths, is accepted for exactly these paths as long as its
manifest is left alone. An entry or a manifest that is a link is left out here: what it leads to may
stand anywhere.
-/

namespace BuildBench

open BuildBench.Action

/-- An entry of a folder that is no link is where its name leads. -/
theorem Files.Leads.direct {files : Files} {path : PathName} {name : String}
    {above goal : Location}
    (leads : files.Leads true (path.child name) goal) (held : files.root.kind? goal ≠ none)
    (opens : files.Opens path above) (notDot : name ≠ ".") (notUp : name ≠ "..")
    (plain : ∀ target, files.root.kind? (above ++ [name]) ≠ some (.link target)) :
    goal = above ++ [name] := by
  obtain ⟨other, unfollowed, -⟩ := leads.unfollowed held
  obtain ⟨base, rfl, opened⟩ := unfollowed.above notDot notUp
  obtain rfl := opens.unique opened
  exact leads.unique (unfollowed.followed plain)

namespace CacheStore

variable {store : CacheStore} {place : Location} {key text : String} {texts : List String}
  {paths : List PathName} {files changed : Files} {content : ByteArray} {w v : World}

/-! ## Entries that list some paths -/

/-- An entry that is restored for some paths, and for no others. -/
def AcceptsOnly (store : CacheStore) (key : String) (paths : List PathName) (w : World) : Prop :=
  ∀ others : List PathName, store.restore key others w =
    if paths.map PathName.display = others.map PathName.display then
      store.restoreListed key others w
    else (.ok false, (log .info "cache"
      ("Cache entry " ++ key ++ " was saved for different paths; treating as miss") w).2)

/-- Restoring the paths of an entry that accepts them is no miss. -/
theorem AcceptsOnly.ne_miss (accepts : AcceptsOnly store key paths w) :
    (store.restore key paths w).1 ≠ .ok false := by
  rw [accepts, if_pos rfl]
  exact restoreListed_ne_miss store key paths w

/-- A value is a list of texts in one way. -/
theorem isListOf_unique {wanted : List String} {value : Value} (one : isListOf texts value = true)
    (other : isListOf wanted value = true) : texts = wanted := by
  cases value with
  | list items =>
    simp only [isListOf, Bool.and_eq_true, decide_eq_true_eq] at one other
    obtain ⟨length, each⟩ := one
    obtain ⟨lengthOther, eachOther⟩ := other
    refine List.ext_getElem (length.symm.trans lengthOther) fun i inside insideOther => ?_
    have here : i < items.length := length ▸ inside
    rw [List.all_eq_true] at each eachOther
    have first := each _ (List.getElem_mem (n := i) (by
      rw [List.length_zip]
      exact Nat.lt_min.mpr ⟨here, inside⟩))
    have second := eachOther _ (List.getElem_mem (n := i) (by
      rw [List.length_zip]
      exact Nat.lt_min.mpr ⟨here, insideOther⟩))
    simp only [List.getElem_zip] at first second
    cases listed : items[i] with
    | text t =>
      simp only [listed, Value.isText, beq_iff_eq] at first second
      exact first.symm.trans second
    | _ => simp [listed, Value.isText] at first
  | _ => cases one

/-- The entry is asked for, its manifest is read, and the paths in it are compared. -/
theorem SaysList.acceptsOnly (told : SaysList store key (paths.map PathName.display) w) :
    AcceptsOnly store key paths w := by
  intro others
  obtain ⟨text, entries, told, parsed, listed⟩ := told
  rw [told.restore_run, parsed]
  dsimp only
  by_cases same : paths.map PathName.display = others.map PathName.display
  · rw [if_pos same, if_pos (same ▸ listed)]
  · rw [if_neg same, if_neg fun accepted => same (isListOf_unique listed accepted)]

/-- A restore that is answered has read a manifest with an object. -/
theorem says_of_restore {answer : Bool} (held : store.has key w = (.ok true, w))
    (answered : (store.restore key paths w).1 = .ok answer) :
    ∃ text entries, Says store key text w ∧ Json.parse text = .ok (.map entries) := by
  obtain ⟨result, read⟩ := (Disk.readText_asks (store.manifestPath key)).run w
  rcases result with f | text
  · have unreadable : isUnreadable f = true := readText_error (by rw [read]) (isName_manifest held)
    have failed : store.readManifest key w = (.error f, w) := by rw [readManifest, bind_run, read]
    rw [restore, bind_run, held] at answered
    simp only [Bool.not_true, Bool.false_eq_true, if_false, bind_run, tryCatch_run, failed,
      unreadable, if_true, throw_run] at answered
    cases answered
  have told : Says store key text w := ⟨held, read⟩
  rw [told.restore_run] at answered
  rcases parsed : Json.parse text with e | value <;> rw [parsed] at answered
  · dsimp only at answered
    split at answered <;> cases answered
  cases value with
  | map entries => exact ⟨text, entries, told, parsed⟩
  | _ => cases answered

/-- An entry is restored only if it lists the paths. -/
theorem saysList_of_restore (restored : (store.restore key paths w).1 = .ok true) :
    SaysList store key (paths.map PathName.display) w := by
  obtain ⟨answer, asked⟩ := (has_asks store key).run w
  rcases answer with f | _ | _
  · rw [restore, bind_run, asked] at restored
    cases restored
  · rw [restore_of_none asked] at restored
    cases restored
  obtain ⟨text, entries, told, parsed⟩ := says_of_restore asked restored
  rw [told.restore_run, parsed] at restored
  dsimp only at restored
  split at restored
  · next listed => exact ⟨text, entries, told, parsed, listed⟩
  · cases restored

/-- A restore that misses changes nothing. -/
theorem restore_miss_confined (missed : store.restore key paths w = (.ok false, v)) :
    Confined nowhere w v := by
  by_cases held : (store.has key w).1 = .ok true
  · have asked : store.has key w = (.ok true, w) := Prod.ext held (has_asks store key w).1.symm
    obtain ⟨text, entries, told, parsed⟩ := says_of_restore asked (congrArg Prod.fst missed)
    rw [told.restore_run, parsed] at missed
    dsimp only at missed
    split at missed
    · exact absurd (congrArg Prod.fst missed) (restoreListed_ne_miss store key paths w)
    · obtain ⟨-, rfl⟩ := Prod.mk.inj missed
      exact log_confined .info "cache" _ w
  · have quiet := (restore_unheld held paths).2
    rwa [missed] at quiet

/-- An entry that does not have to be saved lists the paths. -/
theorem saysList_of_lists (held : store.has key w = (.ok true, w))
    (listed : store.lists key texts w = (.ok true, w)) : SaysList store key texts w := by
  obtain ⟨answer, read⟩ := (Disk.readText_asks (store.manifestPath key)).run w
  rw [lists, bind_run, attempt_run, readManifest, bind_run, read] at listed
  rcases answer with f | text
  · dsimp only at listed
    split at listed <;> cases listed
  simp only [ofResult_run, Timing.readDocument] at listed
  rcases parsed : Json.parse text with e | value <;> rw [parsed] at listed
  · simp only [mapError_error] at listed
    split at listed <;> cases listed
  cases value with
  | map entries =>
    refine ⟨text, entries, ⟨held, read⟩, parsed, ?_⟩
    have accepted : isListOf texts ((member? "paths" entries).getD .null) = true :=
      Except.ok.inj (Prod.mk.inj listed).1
    cases member : member? "paths" entries with
    | none => simp [member, isListOf] at accepted
    | some saved => simpa [member] using accepted
  | _ => cases listed

/-! ## Manifests that stay -/

/-- Neither an entry nor its manifest is a link. -/
structure Direct (place : Location) (key : String) (files : Files) : Prop where
  entry : ∀ target, files.root.kind? (place ++ [key]) ≠ some (.link target)
  manifest : ∀ target, files.root.kind? (place ++ [key] ++ [manifestName]) ≠ some (.link target)

/-- The manifest of an entry that is there stands in the entry's folder. -/
theorem filed_of_has (held : store.has key w = (.ok true, w)) (sits : store.Sits w.files place)
    (named : IsKey key) (direct : Direct place key w.files) :
    ∃ content, Filed store place w.files key content := by
  have manifestNamed := isName_manifest held
  have asked : Disk.ask (store.manifestPath key) Files.isFile w = (.ok true, w) := held
  have isFile := (Disk.ask_ok asked).2.1 manifestNamed
  rw [Files.isFile, Files.check] at isFile
  rcases looked : w.files.lookUp (store.manifestPath key) with e | entry <;> rw [looked] at isFile
  · dsimp only at isFile
    split at isFile <;> simp at isFile
  cases entry with
  | file content executable =>
    obtain ⟨goal, leads, there⟩ := Files.lookUp_eq_file_iff.mp looked
    have goalHeld : w.files.root.kind? goal ≠ none := by simp [Folder.kind?_of_at? there]
    obtain ⟨other, unfollowed, -⟩ := leads.unfollowed goalHeld
    obtain ⟨base, -, opened⟩ := unfollowed.above manifestName_notDot manifestName_notUp
    have whole : store.entryFolder key = store.root.child key := named.entryFolder_eq store
    have base_eq : base = place ++ [key] := by
      have entryLeads := opened.leads
      rw [whole] at entryLeads
      exact entryLeads.direct (by simp [opened.folder]) sits.opens named.notDot named.notUp direct.entry
    subst base_eq
    have goal_eq := leads.direct goalHeld opened manifestName_notDot manifestName_notUp direct.manifest
    subst goal_eq
    refine ⟨content, sits, ⟨executable, ?_⟩, opened.leads.sound, leads.sound, manifestNamed⟩
    rw [Folder.node?, there]
    rfl
  | _ => simp [Entry.isFile] at isFile

/-- The name leads to a file. -/
theorem read_of_lookUp {path : PathName} {content : ByteArray} {executable : Bool}
    (named : Disk.isName path = true)
    (found : w.files.lookUp path = .ok (.file content executable)) :
    Disk.read path w = (.ok content, w) := by
  rw [Disk.read, bind_run, Disk.requireName_run named]
  simp only [bind_run, get_run, Files.read_eq_ok_iff.mpr ⟨executable, found⟩, mapError_ok,
    ofResult_run]

/-- As long as the manifest is left alone it says what it said. -/
theorem SaysList.of_filed {content : ByteArray} (told : SaysList store key texts w)
    (before : Filed store place w.files key content)
    (after : Filed store place v.files key content) (named : IsKey key) :
    SaysList store key texts v := by
  obtain ⟨text, entries, ⟨-, read⟩, parsed, listed⟩ := told
  obtain ⟨_, foundBefore⟩ := before.lookUp_manifest named
  obtain ⟨_, foundAfter⟩ := after.lookUp_manifest named
  refine ⟨text, entries, ⟨after.has_run named, ?_⟩, parsed, listed⟩
  rw [Disk.readText, bind_run, read_of_lookUp before.named foundBefore] at read
  rw [Disk.readText, bind_run, read_of_lookUp after.named foundAfter]
  dsimp only at read ⊢
  rcases decoded : Text.decode content with reason | s <;> rw [decoded] at read
  · cases read
  · exact Prod.ext (Prod.mk.inj read).1 rfl

/-- The manifest is where it was, and the same. -/
theorem Filed.of_same {content : ByteArray} (filed : Filed store place files key content)
    (sits : store.Sits changed place)
    (same : changed.root.node? (place ++ [key] ++ [manifestName]) =
      files.root.node? (place ++ [key] ++ [manifestName])) :
    Filed store place changed key content := by
  obtain ⟨executable, held⟩ := filed.manifest
  exact ⟨sits, ⟨executable, same.trans held⟩, filed.entrySound, filed.sound, filed.named⟩

end CacheStore

end BuildBench
