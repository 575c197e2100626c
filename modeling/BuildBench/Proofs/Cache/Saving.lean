import BuildBench.Proofs.Cache.Location
import BuildBench.Proofs.Cache.Manifests

/-!
# Writing an entry

An entry is written beside its place, where nothing stands yet, and moved there when it is complete.
Whatever is copied, and whatever fails, nothing else of the cache changes meanwhile: what fails
takes away what it wrote, so that beside the place there is nothing again. An entry that stood at
the place before is taken away first, and does not come back.
-/

namespace BuildBench

open BuildBench.Action

variable {α : Type} {w u v : World}

/-! ## Operations as actions -/

namespace Disk

/-- A name has no fault. -/
theorem requireName_run {path : PathName} (named : isName path = true) (w : World) :
    requireName path w = (.ok (), w) := by
  have usable : nameFault? path.display = none := by simpa [isName] using named
  rw [requireName, usable]
  rfl

/-- The name can be used, so the file is read and its text decoded. -/
theorem readText_run {path : PathName} (named : isName path = true) (w : World) :
    readText path w =
      ((match w.files.read path with
        | .error e => .error (systemFault path e)
        | .ok content =>
          match Text.decode content with
          | .ok s => .ok (String.ofList (Text.plainNewlines s.toList))
          | .error reason => .error (.undecodable reason)), w) := by
  rw [readText, bind_run, read, bind_run, requireName_run named]
  dsimp only
  rw [bind_run, get_run]
  dsimp only
  rw [ofResult_run]
  rcases w.files.read path with e | content
  · rfl
  · dsimp only [mapError_ok]
    rcases Text.decode content with reason | s <;> rfl

/-- The name can be used, so the question is put to the files. -/
theorem ask_run {path : PathName} {question : Files → PathName → Except SystemError Bool}
    {answer : Bool} (named : isName path = true) (told : question w.files path = .ok answer) :
    ask path question w = (.ok answer, w) := by
  simp only [ask, named, Bool.not_true, Bool.false_eq_true, if_false, bind_run, get_run, told]
  rfl

/-- A name has a fault or has none. -/
theorem requireName_cases (path : PathName) (w : World) :
    (∃ f, requireName path w = (.error f, w)) ∨
      isName path = true ∧ requireName path w = (.ok (), w) := by
  rcases fault : nameFault? path.display with _ | f
  · have named : isName path = true := by simp [isName, fault]
    exact .inr ⟨named, requireName_run named w⟩
  · exact .inl ⟨f, by rw [requireName, fault]; rfl⟩

/-- A name that is none has a fault. -/
theorem requireName_refused {path : PathName} (unnamed : isName path = false) (w : World) :
    ∃ f, f.isInvalidValue = true ∧ requireName path w = (.error f, w) := by
  rcases fault : nameFault? path.display with _ | f
  · simp [isName, fault] at unnamed
  · exact ⟨f, isInvalidValue_of_nameFault? fault, by rw [requireName, fault]; rfl⟩

/-- The name can be used, and the operation succeeds. -/
theorem change_run {path : PathName} {operation : Files → Except SystemError Files}
    {files : Files} (named : isName path = true) (done : operation w.files = .ok files) :
    change path operation w = (.ok (), w.withFiles files) := by
  rw [change, bind_run, requireName_run named]
  simp only [bind_run, get_run, done, set_run]

/-- A change of the files is made as a whole or not at all. -/
theorem change_cases (path : PathName) (operation : Files → Except SystemError Files)
    (w : World) :
    (∃ f, change path operation w = (.error f, w)) ∨
      ∃ files, isName path = true ∧ operation w.files = .ok files ∧
        change path operation w = (.ok (), w.withFiles files) := by
  obtain ⟨f, failed⟩ | ⟨named, passed⟩ := requireName_cases path w
  · exact .inl ⟨f, by rw [change, bind_run, failed]⟩
  rcases done : operation w.files with e | files
  · refine .inl ⟨systemFault path e, ?_⟩
    rw [change, bind_run, passed]
    simp only [bind_run, get_run, done, throw_run]
  · exact .inr ⟨files, named, rfl, change_run named done⟩

/-- Folders are made as a whole or not at all, and it does not fail where the folder is there. -/
theorem makeFolders_cases (path : PathName) (w : World) :
    (∃ f, makeFolders path w = (.error f, w) ∧
      ∀ location, w.files.Opens path location → isName path = false) ∨
      ∃ files, isName path = true ∧ w.files.makeFolders path = .ok files ∧
        makeFolders path w = (.ok (), w.withFiles files) := by
  by_cases named : isName path = true
  · have passed := requireName_run named w
    rcases done : w.files.makeFolders path with ⟨e, upper⟩ | files
    · refine .inl ⟨systemFault upper e, ?_, fun location opens => ?_⟩
      · rw [makeFolders, bind_run, passed]
        simp only [bind_run, get_run, done, throw_run]
      · cases done.symm.trans (Files.makeFolders_of_opens opens)
    · refine .inr ⟨files, named, rfl, ?_⟩
      rw [makeFolders, bind_run, passed]
      simp only [bind_run, get_run, done, set_run]
  · obtain ⟨f, failed⟩ | ⟨other, -⟩ := requireName_cases path w
    · exact .inl ⟨f, by rw [makeFolders, bind_run, failed], fun _ _ => by simpa using named⟩
    · exact absurd other named

/-- How a copy of a folder ends. -/
def reportOf (result : Files.CopyResult) : Except Fault Unit :=
  if result.tooDeep then .error (.tooDeep "")
  else if result.failures.isEmpty then .ok ()
  else .error (.several (result.failures.map fun (path, e) => (systemFault path e).message))

/-- What went well had no failure to report. -/
theorem reportOf_ok {result : Files.CopyResult} (went : reportOf result = .ok ()) :
    result.Clean := by
  unfold reportOf at went
  split at went
  · cases went
  · next bounded =>
    split at went
    · next whole => exact ⟨by simpa using bounded, by simpa using whole⟩
    · cases went

/-- A folder is copied as far as possible once both names can be used. -/
theorem copyTree_run {merge : Bool} {source target : PathName} (namedSource : isName source = true)
    (namedTarget : isName target = true) (w : World) :
    copyTree merge source target w = (reportOf (w.files.copyTree merge source target),
      w.withFiles (w.files.copyTree merge source target).files) := by
  unfold copyTree
  simp only [bind_run, requireName_run namedSource, requireName_run namedTarget, get_run, set_run,
    reportOf]
  by_cases deep : (w.files.copyTree merge source target).tooDeep
  · simp [deep, throw_run, bind_run]
  · by_cases whole : (w.files.copyTree merge source target).failures = []
    · simp [deep, whole, pure_run]
    · simp [deep, whole, throw_run]

/-- Either one of the names cannot be used, or the tree is copied and its failures are reported. -/
theorem copyTree_cases (merge : Bool) (source target : PathName) (w : World) :
    (∃ f, copyTree merge source target w = (.error f, w)) ∨
      isName source = true ∧ isName target = true ∧
        copyTree merge source target w =
          (reportOf (w.files.copyTree merge source target),
            w.withFiles (w.files.copyTree merge source target).files) := by
  obtain ⟨f, failed⟩ | ⟨namedSource, passed⟩ := requireName_cases source w
  · refine .inl ⟨f, ?_⟩
    rw [copyTree, bind_run, failed]
  obtain ⟨f, failed⟩ | ⟨namedTarget, -⟩ := requireName_cases target w
  · refine .inl ⟨f, ?_⟩
    rw [copyTree, bind_run, passed]
    simp only [bind_run, failed]
  · exact .inr ⟨namedSource, namedTarget, copyTree_run namedSource namedTarget w⟩

end Disk

/-! ## Moves -/

namespace Files

variable {files changed : Files} {source target : PathName} {origin goal : Location}

/-- It was moved, so there was something to move and nothing in the way. -/
theorem moveFolder_ok (moved : files.moveFolder source target = .ok changed) :
    ∃ origin goal e, files.Leads false source origin ∧ files.Leads false target goal ∧
      files.root.at? origin = some e ∧ ¬ origin <+: goal ∧
      changed = { files with root := (files.root.remove origin).put e goal } := by
  unfold moveFolder at moved
  rcases placed : files.place false source with failure | ⟨origin, held⟩ <;>
    rw [placed] at moved
  · cases moved
  rcases aimed : files.place false target with failure | ⟨goal, there⟩ <;> rw [aimed] at moved
  · cases moved
  obtain ⟨sourceLeads, same⟩ := leads_of_place placed
  obtain ⟨targetLeads, -⟩ := leads_of_place aimed
  simp only at same
  simp only [bind, Except.bind] at moved
  split at moved
  · cases moved
  · cases moved
  · cases moved
  · cases moved
  · next e _ _ _ =>
    split at moved
    · cases moved
    · next outside =>
      refine ⟨origin, goal, e, sourceLeads, targetLeads, same.symm, ?_, (Except.ok.inj moved).symm⟩
      simpa using outside

/-- What a move leaves: nothing in the old place, everything in the new one. -/
theorem node?_move {e : Entry} (held : files.root.at? origin = some e)
    (parent : files.root.node? goal.dropLast = some .folder) (nonempty : goal ≠ [])
    (outside : ¬ origin <+: goal) (location : Location) :
    ((files.root.remove origin).put e goal).node? location =
      if goal <+: location then files.root.node? (origin ++ location.drop goal.length)
      else if origin <+: location then none else files.root.node? location := by
  have proper : origin ≠ [] := by
    rintro rfl
    exact outside List.nil_prefix
  have above : (files.root.remove origin).node? goal.dropLast = some .folder := by
    rw [Folder.node?_remove proper, if_neg, parent]
    exact fun below => outside (below.trans (List.dropLast_prefix goal))
  rw [Folder.node?_put e nonempty above, Folder.node?_remove proper, Folder.node?_append, held]
  rfl

end Files

/-! ## Parts -/

section Parts

variable {folder : PathName} {above : Location} {name : String}

/-- What happens at a vacant place only adds to the files. -/
theorem Confined.grows {goal : Location} (confined : Confined (beneath goal) w v)
    (vacant : w.files.root.kind? goal = none) : w.files.root.Grows v.files.root := by
  intro location kind held
  by_cases inside : goal <+: location
  · have closed : w.files.root.kind? goal ≠ some .folder := by simp [vacant]
    obtain ⟨rest, rfl⟩ := inside
    cases rest with
    | nil => rw [List.append_nil, vacant] at held; cases held
    | cons first rest => rw [Files.kind?_below closed] at held; cases held
  · rw [confined.kinds location inside]
    exact held

/-- What waited for another entry still waits. -/
theorem Confined.awaits {other : String} (confined : Confined (beneath (above ++ [name])) w v)
    (vacant : w.files.root.kind? (above ++ [name]) = none)
    (awaits : w.files.Awaits folder above other) (different : name ≠ other) :
    v.files.Awaits folder above other where
  opens := awaits.opens.of_grows (confined.grows vacant) confined.current
  notDot := awaits.notDot
  notUp := awaits.notUp
  vacant := by
    rw [confined.kinds _ (apart_children different).1]
    exact awaits.vacant

namespace CacheStore

/-- Saving a part in a vacant place changes nothing elsewhere, also if it fails. -/
theorem savePart_confined (tidy : w.files.Tidy) (awaits : w.files.Awaits folder above name)
    (source : PathName) :
    Confined (beneath (above ++ [name])) w (savePart source (folder.child name) w).2 := by
  unfold savePart
  simp only [bind_run]
  obtain ⟨answer, asked⟩ : ∃ answer, Disk.isFolder source w = (answer, w) :=
    (Disk.ask_asks _ _).run w
  rw [asked]
  rcases answer with f | there
  · exact .refl _ w
  cases there with
  | true =>
    simp only [if_true]
    obtain ⟨f, failed⟩ | ⟨-, -, copied⟩ := Disk.copyTree_cases false source (folder.child name) w
    · rw [failed]
      exact .refl _ w
    · rw [copied]
      exact withFiles_confined (Files.copyFolder_fresh Files.copyDepth tidy awaits)
  | false =>
    simp only [Bool.false_eq_true, if_false, bind_run]
    obtain ⟨answer, asked⟩ : ∃ answer, Disk.isFile source w = (answer, w) :=
      (Disk.ask_asks _ _).run w
    rw [asked]
    rcases answer with f | there
    · exact .refl _ w
    cases there with
    | true =>
      simp only [if_true]
      obtain ⟨f, failed⟩ | ⟨files, -, copied, done⟩ := Disk.change_cases (folder.child name)
        (·.copyFile source (folder.child name)) w
      · rw [Disk.copyFile, failed]
        exact .refl _ w
      · rw [Disk.copyFile, done]
        exact withFiles_confined (Files.copyFile_fresh awaits copied)
    | false => exact (log_confined _ _ _ w).mono fun _ => False.elim

/-- A folder that waits for the parts from some number on, and for the manifest. -/
structure Fillable (files : Files) (folder : PathName) (above : Location) (i : Nat) : Prop where
  tidy : files.Tidy
  parts : ∀ j, i ≤ j → files.Awaits folder above (toString j)
  manifest : files.Awaits folder above manifestName

/-- The part that was filled is beside all later ones. -/
theorem Fillable.next {i : Nat} (fillable : Fillable w.files folder above i)
    (confined : Confined (beneath (above ++ [toString i])) w v) :
    Fillable v.files folder above (i + 1) := by
  have vacant := (fillable.parts i (Nat.le_refl i)).vacant
  refine ⟨confined.tidy fillable.tidy, fun j later => ?_, ?_⟩
  · have different : toString i ≠ toString j := fun same => by
      have := toString_injective same
      omega
    exact confined.awaits vacant (fillable.parts j (by omega)) different
  · exact confined.awaits vacant fillable.manifest (toString_ne_manifestName i)

/-- The places of the parts from some number on. -/
def partsFrom (above : Location) (i : Nat) : Location → Prop :=
  fun location => ∃ j, i ≤ j ∧ above ++ [toString j] <+: location

/-- A part is in the folder. -/
theorem partsFrom_beneath {i : Nat} {location : Location} (among : partsFrom above i location) :
    beneath above location := by
  obtain ⟨j, -, below⟩ := among
  exact (List.prefix_append above [toString j]).trans below

/-- Parts do not touch what is in a part of a lower number. -/
theorem not_partsFrom_below {i j : Nat} (lower : i < j) (rest : Location) :
    ¬ partsFrom above j (above ++ [toString i] ++ rest) := by
  rintro ⟨k, beyond, below⟩
  have different : toString k ≠ toString i := fun same => by
    have := toString_injective same
    omega
  rw [List.append_assoc] at below
  exact Files.not_prefix_child different above rest below

/-- Saving parts changes nothing but these parts, and leaves room for the manifest. -/
theorem saveParts_confined {i : Nat} (fillable : Fillable w.files folder above i)
    (paths : List PathName) :
    Confined (partsFrom above i) w (saveParts folder i paths w).2 ∧
      w.files.root.Grows (saveParts folder i paths w).2.files.root ∧
      (saveParts folder i paths w).2.files.Awaits folder above manifestName := by
  induction paths generalizing i w with
  | nil => exact ⟨.refl _ w, .refl _, fillable.manifest⟩
  | cons source rest ih =>
    have awaits := fillable.parts i (Nat.le_refl i)
    have one := savePart_confined fillable.tidy awaits source
    have next := fillable.next one
    have wider : Confined (partsFrom above i) w (savePart source (folder.child (toString i)) w).2 :=
      one.mono fun l below => ⟨i, Nat.le_refl i, below⟩
    rw [saveParts, bind_run]
    rcases saved : savePart source (folder.child (toString i)) w with ⟨f | _, u⟩ <;>
      rw [saved] at one next wider
    · exact ⟨wider, one.grows awaits.vacant, next.manifest⟩
    · obtain ⟨confined, grows, manifest⟩ := ih next
      have later : Confined (partsFrom above i) u (saveParts folder (i + 1) rest u).2 :=
        confined.mono fun l ⟨j, beyond, below⟩ => ⟨j, Nat.le_of_succ_le beyond, below⟩
      exact ⟨wider.trans later, (one.grows awaits.vacant).trans grows, manifest⟩

end CacheStore

end Parts

/-! ## The complete entry -/

section Entry

variable {store : CacheStore} {key : String} {paths : List PathName} {staging entry : PathName}
  {hidden place : Location}

/-- Where the files are the same in the end nothing changed. -/
theorem Confined.narrow {places wider : Location → Prop} (confined : Confined wider w v)
    (same : ∀ location, wider location → ¬ places location →
      v.files.root.node? location = w.files.root.node? location) : Confined places w v := by
  refine ⟨confined.toUntouched, confined.unique, confined.current, fun location outside => ?_,
    fun location outside closed => ?_, confined.tidy⟩
  · by_cases inside : wider location
    · rw [Folder.kind?, same location inside outside]
      rfl
    · exact confined.kinds location inside
  · by_cases inside : wider location
    · exact same location inside outside
    · exact confined.nodes location inside closed

namespace Files

variable {files : Files} {path : PathName} {goal : Location}

/-- It was taken away, so it was there. -/
theorem removeTree_ok {changed : Files} (removed : files.removeTree path = .ok changed) :
    ∃ location, files.Leads false path location ∧
      changed = { files with root := files.root.remove location } := by
  unfold removeTree at removed
  rcases placed : files.place false path with failure | place <;> rw [placed] at removed
  · cases removed
  · refine ⟨place.location, (leads_of_place placed).1, ?_⟩
    simp only [bind, Except.bind] at removed
    split at removed <;> cases removed
    rfl

/-- Something stands there, and is taken away. -/
theorem discard_of_leads (leads : files.Leads false path goal)
    (held : files.root.kind? goal ≠ none) :
    files.discard path = { files with root := files.root.remove goal } := by
  obtain ⟨e, there⟩ := Option.ne_none_iff_exists'.mp (mt Folder.kind?_eq_none.mpr held)
  rw [discard, leads.place]
  simp [there]

end Files

namespace CacheStore

/-- Filling the hidden folder and moving it to its place. -/
def fill (staging entry : PathName) (key : String) (paths : List PathName) : Action Unit := do
  saveParts staging 0 paths
  Disk.write (staging.child manifestName) (manifestText key (paths.map PathName.display)).toUTF8
  Disk.moveFolder staging entry

/-- Taking away what stands in the place of an entry. -/
def clearEntry (entry : PathName) : Action Unit := do
  if ← Disk.exists? entry then Disk.removeTree entry

/-- Filling the hidden folder, or taking it away again. -/
def fillOrDiscard (staging entry : PathName) (key : String) (paths : List PathName) :
    Action Unit :=
  tryCatch (fill staging entry key paths) fun f => do
    modify fun w => w.withFiles (w.files.discard staging)
    throw f

/-- Writing an entry beside its place, which is clear, and moving it there. -/
def stageEntry (store : CacheStore) (key : String) (paths : List PathName) : Action Unit := do
  let staging ← store.stagingFolder key
  Disk.makeFolder staging
  fillOrDiscard staging (store.entryFolder key) key paths

/-- The steps are the same, with names for some of them. -/
theorem writeEntry_eq (store : CacheStore) (key : String) (paths : List PathName) :
    store.writeEntry key paths = (do
      Disk.makeFolders store.root
      clearEntry (store.entryFolder key)
      store.stageEntry key paths) := by
  have staged : store.writeEntry key paths = (do
      Disk.makeFolders store.root
      if ← Disk.exists? (store.entryFolder key) then Disk.removeTree (store.entryFolder key)
      store.stageEntry key paths) := rfl
  funext w
  simp only [staged, clearEntry, bind_run]
  rcases Disk.makeFolders store.root w with ⟨f | _, u⟩ <;> dsimp only
  rcases Disk.exists? (store.entryFolder key) u with ⟨f | there, v⟩ <;> dsimp only
  cases there <;> simp [bind_run, pure_run]

/-- The folder that is made to be filled has room for everything. -/
theorem fillable_of_made {files : Files} (tidy : files.Tidy)
    (leads : files.Leads false staging hidden) (vacant : files.root.kind? hidden = none) :
    Fillable (files.put hidden (.folder [])) staging hidden 0 := by
  have opens := Files.opens_put_empty leads vacant
  have empty : ∀ name, (files.put hidden (.folder [])).root.kind? (hidden ++ [name]) = none := by
    intro name
    rw [Folder.kind?, Files.node?_put_empty leads vacant, if_neg (by simp),
      Folder.node?_below (by simp [vacant])]
    rfl
  exact ⟨(Files.within_put_empty leads vacant).tidy tidy,
    fun j _ => ⟨opens, toString_notDot j, toString_notUp j, empty _⟩,
    ⟨opens, manifestName_notDot, manifestName_notUp, empty _⟩⟩

/-- The world once the manifest is written as well. -/
def withManifest (w : World) (hidden : Location) (key : String) (paths : List PathName)
    (executable : Bool) : World :=
  w.withFiles (w.files.put (hidden ++ [manifestName])
    (.file (manifestText key (paths.map PathName.display)).toUTF8 executable))

/-- The manifest is put where nothing stood. -/
theorem within_withManifest {executable : Bool}
    (awaits : w.files.Awaits staging hidden manifestName)
    (sound : (staging.child manifestName).Sound) :
    Files.Within (hidden ++ [manifestName]) w.files
      (withManifest w hidden key paths executable).files :=
  Files.within_put_leaf (awaits.leads sound) rfl (by simp [awaits.vacant])

/-- The manifest is in the hidden folder. -/
theorem withManifest_confined {executable : Bool}
    (awaits : w.files.Awaits staging hidden manifestName)
    (sound : (staging.child manifestName).Sound) :
    Confined (beneath hidden) w (withManifest w hidden key paths executable) :=
  (withFiles_confined (within_withManifest awaits sound)).mono fun _ below =>
    (List.prefix_append hidden [manifestName]).trans below

/-- It was put there. -/
theorem node?_withManifest {executable : Bool}
    (awaits : w.files.Awaits staging hidden manifestName) :
    (withManifest w hidden key paths executable).files.root.node? (hidden ++ [manifestName]) =
      some (.file (manifestText key (paths.map PathName.display)).toUTF8 executable) := by
  have parent : w.files.root.node? (hidden ++ [manifestName]).dropLast = some .folder := by
    rw [List.dropLast_concat]
    exact Folder.kind?_eq_folder_iff.mp awaits.opens.folder
  have closed : w.files.root.node? (hidden ++ [manifestName]) ≠ some .folder := fun opened => by
    cases awaits.vacant.symm.trans (Folder.kind?_eq_folder_iff.mpr opened)
  rw [withManifest, World.withFiles, Files.put_root, Folder.node?_put_leaf rfl (by simp) parent closed,
    if_pos rfl]
  rfl

/-- Filling fails with changes in the hidden folder only, or everything is there and the folder is
moved. -/
theorem fill_cases (entry : PathName) (key : String) (paths : List PathName)
    (fillable : Fillable w.files staging hidden 0) :
    (∃ f u, fill staging entry key paths w = (.error f, u) ∧ Confined (beneath hidden) w u ∧
      w.files.root.Grows u.files.root) ∨
    ∃ u executable files, saveParts staging 0 paths w = (.ok (), u) ∧
      Disk.isName (staging.child manifestName) = true ∧ (staging.child manifestName).Sound ∧
      (withManifest u hidden key paths executable).files.moveFolder staging entry = .ok files ∧
      fill staging entry key paths w =
        (.ok (), (withManifest u hidden key paths executable).withFiles files) := by
  obtain ⟨inParts, grows, manifest⟩ := saveParts_confined fillable paths
  have confined := inParts.mono fun _ => partsFrom_beneath
  simp only [fill, bind_run]
  rcases saved : saveParts staging 0 paths w with ⟨f | _, u⟩ <;>
    rw [saved] at confined grows manifest
  · exact .inl ⟨f, u, rfl, confined, grows⟩
  obtain ⟨f, failed⟩ | ⟨files, named, written, done⟩ := Disk.change_cases
    (staging.child manifestName) (·.write (staging.child manifestName)
      (manifestText key (paths.map PathName.display)).toUTF8) u
  · exact .inl ⟨f, u, by simp only [Disk.write, failed], confined, grows⟩
  obtain ⟨⟨executable, rfl⟩, sound⟩ := Files.write_fresh manifest written
  simp only [Disk.write, done]
  obtain ⟨f, failed⟩ | ⟨files, -, moved, done⟩ := Disk.change_cases entry
    (·.moveFolder staging entry) (withManifest u hidden key paths executable)
  · have within : Files.Within (hidden ++ [manifestName]) u.files
        (withManifest u hidden key paths executable).files := within_withManifest manifest sound
    exact .inl ⟨f, _, failed, confined.trans (withManifest_confined manifest sound),
      grows.trans (within.grows manifest.vacant)⟩
  · exact .inr ⟨u, executable, files, rfl, named, sound, moved, done⟩

/-- There is a folder for the key, and its name can be used. -/
structure HasFolder (store : CacheStore) (files : Files) (place : Location) (key : String) :
    Prop where
  folder : files.root.kind? (place ++ [key]) = some .folder
  sound : (store.entryFolder key).Sound
  named : Disk.isName (store.entryFolder key) = true

/-- A folder in the place of an entry is taken away as a whole; what fails to be taken away stays. -/
theorem clearEntry_cases (opens : w.files.Opens store.root place) (named : IsKey key) :
    (∃ f, clearEntry (store.entryFolder key) w = (.error f, w) ∧
      ¬ store.HasFolder w.files place key) ∨
    (clearEntry (store.entryFolder key) w = (.ok (), w) ∧ ¬ store.HasFolder w.files place key) ∨
    ∃ files, clearEntry (store.entryFolder key) w = (.ok (), w.withFiles files) ∧
      Confined (beneath (place ++ [key])) w (w.withFiles files) ∧
      ∀ rest, files.root.node? (place ++ key :: rest) = none := by
  have leads (sound : (store.root.child key).Sound) :
      w.files.Leads false (store.root.child key) (place ++ [key]) :=
    opens.child named.notDot named.notUp sound
  -- Where there is a folder it is found, and taking it away is possible.
  have found (held : store.HasFolder w.files place key) :
      Disk.exists? (store.root.child key) w = (.ok true, w) ∧
        ∃ files, Disk.removeTree (store.root.child key) w = (.ok (), w.withFiles files) := by
    obtain ⟨folder, sound, isName⟩ := held
    rw [named.entryFolder_eq] at sound isName
    obtain ⟨f, there⟩ := Folder.at?_of_kind?_folder folder
    have followed : w.files.Opens (store.root.child key) (place ++ [key]) :=
      ⟨(leads sound).followed (by simp [folder]), folder⟩
    have asked : w.files.exists? (store.root.child key) = .ok true := by
      rw [Files.exists?, Files.check, Files.lookUp_of_opens followed there]
    have removed : w.files.removeTree (store.root.child key) =
        .ok { w.files with root := w.files.root.remove (place ++ [key]) } := by
      rw [Files.removeTree, (leads sound).place, there]
      rfl
    exact ⟨Disk.ask_run isName asked, _, Disk.change_run isName removed⟩
  unfold clearEntry
  simp only [bind_run]
  rw [named.entryFolder_eq]
  obtain ⟨answer, asked⟩ : ∃ answer, Disk.exists? (store.root.child key) w = (answer, w) :=
    (Disk.ask_asks _ _).run w
  rw [asked]
  rcases answer with f | there
  · exact .inl ⟨f, rfl, fun held => by cases asked.symm.trans (found held).1⟩
  cases there with
  | false => exact .inr (.inl ⟨rfl, fun held => by cases asked.symm.trans (found held).1⟩)
  | true =>
    obtain ⟨f, failed⟩ | ⟨files, -, removed, done⟩ := Disk.change_cases (store.root.child key)
      (·.removeTree (store.root.child key)) w
    · refine .inl ⟨f, failed, fun held => ?_⟩
      obtain ⟨-, files, done⟩ := found held
      cases failed.symm.trans done
    · obtain ⟨location, goalLeads, rfl⟩ := Files.removeTree_ok removed
      obtain rfl : location = place ++ [key] := goalLeads.unique (leads goalLeads.sound)
      refine .inr (.inr ⟨_, done, withFiles_confined (.remove (by simp) w.files), fun rest => ?_⟩)
      rw [Folder.node?_remove (by simp), if_pos ⟨rest, by simp⟩]

/-- The world once the hidden folder is made. -/
def withFolder (w : World) (hidden : Location) : World :=
  w.withFiles (w.files.put hidden (.folder []))

/-- The folder is put where nothing stood. -/
theorem withFolder_confined (leads : w.files.Leads false staging hidden)
    (vacant : w.files.root.kind? hidden = none) :
    Confined (beneath hidden) w (withFolder w hidden) :=
  withFiles_confined (Files.within_put_empty leads vacant)

/-- The name of the hidden folder leads to it as long as files are only added. -/
theorem leads_of_withFolder (leads : w.files.Leads false staging hidden)
    (vacant : w.files.root.kind? hidden = none)
    (grows : (withFolder w hidden).files.root.Grows u.files.root)
    (current : u.files.current = w.files.current) :
    u.files.Leads false staging hidden ∧ u.files.root.kind? hidden = some .folder := by
  have folder : (withFolder w hidden).files.root.kind? hidden = some .folder :=
    (Files.opens_put_empty leads vacant).folder
  have there : (withFolder w hidden).files.Leads false staging hidden :=
    ⟨leads.short, leads.walks.of_grows (Files.grows_put_empty leads vacant) fun _ _ _ => rfl⟩
  exact ⟨there.of_grows_held grows current (by rw [folder]; exact nofun), grows _ _ folder⟩

/-- What failed is taken away, so nothing changed in the end. -/
theorem discarded (leads : w.files.Leads false staging hidden)
    (vacant : w.files.root.kind? hidden = none)
    (confined : Confined (beneath hidden) (withFolder w hidden) u)
    (grows : (withFolder w hidden).files.root.Grows u.files.root) :
    Confined nowhere w (u.withFiles (u.files.discard staging)) := by
  obtain ⟨there, folder⟩ := leads_of_withFolder leads vacant grows confined.current
  have nonempty := Folder.nonempty_of_vacant vacant
  have removed : Confined (beneath hidden) u (u.withFiles (u.files.discard staging)) := by
    rw [Files.discard_of_leads there (by simp [folder])]
    exact withFiles_confined (.remove nonempty u.files)
  refine (((withFolder_confined leads vacant).trans confined).trans removed).narrow ?_
  rintro location ⟨rest, rfl⟩ -
  rw [Folder.node?_of_vacant vacant ⟨rest, rfl⟩, Files.discard_of_leads there (by simp [folder]), World.withFiles,
    Folder.node?_remove nonempty, if_pos (List.prefix_append hidden rest)]

/-- The worlds between which the parts of an entry were copied into the hidden folder, before the
entry was moved to its place. -/
inductive Filled (store : CacheStore) (place : Location) (key : String) (paths : List PathName)
    (w v : World) : Prop
  | intro {unique : String} {more : List String} {hidden : Location} {start u : World}
    (simple : '/' ∉ w.unique.toList → inside place hidden)
    (begun : Confined (beneath hidden) w start)
    (fillable : Fillable start.files (store.hiddenFolder key unique more) hidden 0)
    (saved : saveParts (store.hiddenFolder key unique more) 0 paths start = (.ok (), u))
    (later : Confined (fun l => place ++ [key] <+: l ∨ hidden <+: l) start v)
    (parts : ∀ (i : Nat) rest, v.files.root.node? (place ++ key :: toString i :: rest) =
      u.files.root.node? (hidden ++ toString i :: rest)) : Filled store place key paths w v

/-- A complete entry in its place: its manifest lists the paths, and can be read. -/
structure Written (store : CacheStore) (place : Location) (key : String) (paths : List PathName)
    (w v : World) : Prop where
  confined : Confined (beneath (place ++ [key])) w v
  manifest : ∃ executable, v.files.root.node? (place ++ [key, manifestName]) =
    some (.file (manifestText key (paths.map PathName.display)).toUTF8 executable)
  entrySound : (store.entryFolder key).Sound
  sound : (store.manifestPath key).Sound
  named : Disk.isName (store.manifestPath key) = true
  filled : Filled store place key paths w v

/-- The hidden folder becomes the entry as it is. -/
theorem moved_to_entry {files : Files} (opens : w.files.Opens store.root place) (named : IsKey key)
    (leads : w.files.Leads false staging hidden)
    (moved : w.files.moveFolder staging (store.entryFolder key) = .ok files) :
    Confined (fun l => place ++ [key] <+: l ∨ hidden <+: l) w (w.withFiles files) ∧
      (∀ rest, files.root.node? (place ++ key :: rest) = w.files.root.node? (hidden ++ rest)) ∧
      (∀ location, hidden <+: location → ¬ place ++ [key] <+: location →
        files.root.node? location = none) ∧ (store.entryFolder key).Sound := by
  obtain ⟨origin, goal, e, sourceLeads, targetLeads, held, outside, rfl⟩ := Files.moveFolder_ok moved
  obtain rfl : origin = hidden := sourceLeads.unique leads
  rw [named.entryFolder_eq] at targetLeads
  obtain rfl : goal = place ++ [key] :=
    targetLeads.unique (opens.child named.notDot named.notUp targetLeads.sound)
  have parent : w.files.root.node? (place ++ [key]).dropLast = some .folder := by
    rw [List.dropLast_concat]
    exact Folder.kind?_eq_folder_iff.mp opens.folder
  have nodes := Files.node?_move held parent (by simp) outside
  refine ⟨confined_of_nodes rfl (fun location elsewhere => ?_) fun before => ?_, fun rest => ?_,
    fun location below elsewhere => ?_, by rw [named.entryFolder_eq]; exact targetLeads.sound⟩
  · rw [not_or] at elsewhere
    rw [nodes, if_neg elsewhere.1, if_neg elsewhere.2]
  · exact Folder.tidy_put (Folder.tidy_remove origin before) (Folder.tidy_at? before held).1
      (targetLeads.namedWell before)
  · rw [nodes, if_pos ⟨rest, by simp⟩]
    simp
  · rw [nodes, if_neg elsewhere, if_pos below]

/-- The entry is complete when it was filled and moved. -/
theorem written_of_moved {unique : String} {more : List String} {executable : Bool}
    {files : Files} (opens : w.files.Opens store.root place) (named : IsKey key)
    (tidy : w.files.Tidy) (simple : '/' ∉ w.unique.toList → more = [])
    (leads : w.files.Leads false (store.hiddenFolder key unique more) hidden)
    (vacant : w.files.root.kind? hidden = none)
    (saved : saveParts (store.hiddenFolder key unique more) 0 paths (withFolder w hidden) =
      (.ok (), u))
    (manifestNamed : Disk.isName ((store.hiddenFolder key unique more).child manifestName) = true)
    (manifestSound : ((store.hiddenFolder key unique more).child manifestName).Sound)
    (moved : (withManifest u hidden key paths executable).files.moveFolder
      (store.hiddenFolder key unique more) (store.entryFolder key) = .ok files) :
    Written store place key paths w
      ((withManifest u hidden key paths executable).withFiles files) := by
  have fillable := fillable_of_made tidy leads vacant
  have began := withFolder_confined leads vacant
  obtain ⟨inParts, grows, manifest⟩ := saveParts_confined (w := withFolder w hidden) fillable paths
  have confined := inParts.mono fun _ => partsFrom_beneath
  rw [saved] at confined grows manifest
  have awaits : u.files.Awaits (store.hiddenFolder key unique more) hidden manifestName := manifest
  have within : Files.Within (hidden ++ [manifestName]) u.files
      (withManifest u hidden key paths executable).files := within_withManifest awaits manifestSound
  have once : Confined (beneath hidden) u (withManifest u hidden key paths executable) :=
    withManifest_confined awaits manifestSound
  have grew : (withFolder w hidden).files.root.Grows
      (withManifest u hidden key paths executable).files.root :=
    grows.trans (within.grows awaits.vacant)
  have current : (withManifest u hidden key paths executable).files.current = w.files.current :=
    once.current.trans confined.current
  obtain ⟨moving, inEntry, nothing, entrySound⟩ := moved_to_entry
    (opens.of_grows ((began.grows vacant).trans grew) current) named
    (leads_of_withFolder leads vacant grew current).1 moved
  have later : Confined (fun l => place ++ [key] <+: l ∨ hidden <+: l) (withFolder w hidden)
      ((withManifest u hidden key paths executable).withFiles files) :=
    (Confined.mono (.trans confined once) fun l below => .inr below).trans moving
  refine ⟨?_, ⟨executable, ?_⟩, entrySound, ?_, ?_, ⟨fun simply => ?_, began, fillable, saved, later, ?_⟩⟩
  · -- Nothing stood in the hidden place before, and nothing stands there in the end.
    refine ((began.mono fun l below => .inr below).trans later).narrow
      fun location inside elsewhere => ?_
    have below : hidden <+: location := inside.resolve_left elsewhere
    rw [Folder.node?_of_vacant vacant below]
    exact nothing location below elsewhere
  · calc files.root.node? (place ++ [key, manifestName])
        = (withManifest u hidden key paths executable).files.root.node?
            (hidden ++ [manifestName]) := inEntry [manifestName]
      _ = _ := node?_withManifest awaits
  · rw [manifestPath, named.entryFolder_eq]
    exact sound_of_hidden [manifestName] (by simp) manifestSound
  · rw [manifestPath, named.entryFolder_eq]
    exact isName_of_hidden [manifestName] manifestNamed
  · obtain rfl := simple simply
    obtain ⟨notDot, notUp, -⟩ := stagingName_ne key unique
    obtain rfl : hidden = place ++ [stagingName key unique] :=
      leads.unique (opens.child notDot notUp leads.sound)
    exact inside_of_beneath (List.prefix_refl _)
  · intro i rest
    calc files.root.node? (place ++ key :: toString i :: rest)
        = (withManifest u hidden key paths executable).files.root.node?
            (hidden ++ toString i :: rest) := inEntry (toString i :: rest)
      _ = u.files.root.node? (hidden ++ toString i :: rest) := by
        exact within.nodes _
          (Files.not_prefix_child (toString_ne_manifestName i).symm hidden rest)

/-- An entry is written completely, or there is nothing of it. -/
theorem stageEntry_cases (tidy : w.files.Tidy) (opens : w.files.Opens store.root place)
    (named : IsKey key) (paths : List PathName) :
    (∃ f v, store.stageEntry key paths w = (.error f, v) ∧ Confined nowhere w v) ∨
      ∃ v, store.stageEntry key paths w = (.ok (), v) ∧ Written store place key paths w v := by
  obtain ⟨unique, more, simple, chosen⟩ := stagingFolder_run store named w
  rw [stageEntry, bind_run, chosen]
  simp only [bind_run]
  obtain ⟨f, failed⟩ | ⟨files, -, made, done⟩ := Disk.change_cases
    (store.hiddenFolder key unique more) (·.makeFolder (store.hiddenFolder key unique more)) w
  · exact .inl ⟨f, w, by simp only [Disk.makeFolder, failed], .refl _ w⟩
  obtain ⟨hidden, leads, vacant, rfl⟩ := Files.makeFolder_ok made
  have began : Disk.makeFolder (store.hiddenFolder key unique more) w =
      (.ok (), withFolder w hidden) := done
  simp only [began, fillOrDiscard, tryCatch_run]
  obtain ⟨f, u, failed, confined, grows⟩ | ⟨u, executable, files, saved, manifestNamed,
    manifestSound, moved, done⟩ := fill_cases (store.entryFolder key) key paths
      (w := withFolder w hidden) (fillable_of_made tidy leads vacant)
  · rw [failed]
    exact .inl ⟨f, _, rfl, discarded leads vacant confined grows⟩
  · rw [done]
    exact .inr ⟨_, rfl, written_of_moved opens named tidy simple leads vacant saved manifestNamed
      manifestSound moved⟩

end CacheStore

end Entry

end BuildBench
