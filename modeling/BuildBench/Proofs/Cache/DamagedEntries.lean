import BuildBench.Proofs.Cache.ReadableEntries

/-!
# Restoring from a damaged cache

Whatever stands in a cache, a restore is answered, or it fails as preparation does, unless one of a few
things keeps it from that: `Spoiled` lists them, each with the fault that it ends in. A manifest that is
no text or no document is not among them. A manifest that holds a document of another shape than an
object is.
-/

namespace BuildBench

open BuildBench.Action

namespace CacheStore

variable {store : CacheStore} {key text : String} {path : PathName} {paths : List PathName}
  {w u : World} {f : Fault}

/-! ## Manifests -/

/-- There is a manifest, and this is its text. -/
def Says (store : CacheStore) (key text : String) (w : World) : Prop :=
  store.has key w = (.ok true, w) ∧ Disk.readText (store.manifestPath key) w = (.ok text, w)

/-- The manifest is an object that lists some texts. Without a list it lists none. -/
def SaysList (store : CacheStore) (key : String) (texts : List String) (w : World) : Prop :=
  ∃ text entries, Says store key text w ∧ Json.parse text = .ok (.map entries) ∧
    isListOf texts ((member? "paths" entries).getD (.list [])) = true

/-- What keeps a restore from an answer, and from failing as preparation does. -/
inductive Spoiled (store : CacheStore) (key : String) (paths : List PathName) (w : World) :
    Fault → Prop
  /-- The name of the manifest is too long to ask for it. -/
  | longName (named : Disk.isName (store.manifestPath key) = true)
    (long : w.files.isFile (store.manifestPath key) = .error .nameTooLong) :
    Spoiled store key paths w (.system .nameTooLong (store.manifestPath key).display)
  /-- The manifest is a document that is no object. -/
  | noObject {text : String} {v : Value} (told : Says store key text w)
    (parsed : Json.parse text = .ok v) (other : ∀ entries, v ≠ .map entries) :
    Spoiled store key paths w .noSuchMember
  /-- The manifest nests too deep to be read. -/
  | nested {text : String} {part : Json.Nested} (told : Says store key text w)
    (parsed : Json.parse text = .error (.nestedTooDeep part)) :
    Spoiled store key paths w (Timing.readFault text (.nestedTooDeep part))
  /-- A part of the entry nests too deep to be copied. -/
  | deepPart (told : SaysList store key (paths.map PathName.display) w)
    (failed : (restoreParts (store.entryFolder key) 0 paths w).1 = .error (.tooDeep "")) :
    Spoiled store key paths w (.tooDeep "")
  /-- One of the paths is no name, and the manifest lists it even so. -/
  | noName {f : Fault} {path : PathName} (told : SaysList store key (paths.map PathName.display) w)
    (among : path ∈ paths) (unnamed : Disk.isName path = false)
    (failed : (restoreParts (store.entryFolder key) 0 paths w).1 = .error f)
    (invalid : f.isInvalidValue = true) : Spoiled store key paths w f

/-- A restore is answered, or fails as preparation does. -/
def EndsWell (result : Except Fault Bool) : Prop :=
  (∃ answer, result = .ok answer) ∨
    ∃ s, result = .error (.stage s) ∧ s.stage = "prepare" ∧ s.kind = .setup

/-- It is a failure of preparation. -/
theorem endsWell_setupFailure (message : String) :
    EndsWell (.error (setupFailure "prepare" message)) := .inr ⟨_, rfl, rfl, rfl⟩

/-- A restore that ends well has no fault or one of a stage. -/
theorem EndsWell.not_error {result : Except Fault Bool} (well : EndsWell result)
    (other : f.isStage = false) : result ≠ .error f := by
  rintro rfl
  obtain ⟨answer, answered⟩ | ⟨s, failed, -⟩ := well
  · cases answered
  · cases failed
    cases other

/-- By what the entry is spoiled by. -/
theorem Spoiled.isStage_eq (spoiled : Spoiled store key paths w f) : f.isStage = false := by
  cases spoiled with
  | noName told among unnamed failed invalid => cases f <;> simp_all [Fault.isInvalidValue, Fault.isStage]
  | _ => rfl

/-! ## Asking for the manifest -/

/-- The question could be put, so it was the name of the manifest that was too long. -/
theorem has_error (refused : (store.has key w).1 = .error f) : Spoiled store key paths w f := by
  rw [has, Disk.isFile, Disk.ask] at refused
  split at refused
  · cases refused
  · next named =>
    simp only [bind_run, get_run, ofResult_run] at refused
    rcases asked : w.files.isFile (store.manifestPath key) with e | answer <;> rw [asked] at refused
    · cases refused
      obtain rfl := Files.check_error asked
      exact .longName (by simpa using named) asked
    · cases refused

/-! ## Reading the manifest -/

/-- A manifest that cannot be read as text is reported as preparation reports failures. -/
theorem readText_error (refused : (Disk.readText path w).1 = .error f)
    (named : Disk.isName path = true) : isUnreadable f = true := by
  rw [Disk.readText_run named] at refused
  rcases read : w.files.read path with e | content <;> simp only [read] at refused
  · cases refused
    rfl
  · rcases decoded : Text.decode content with reason | s <;> simp only [decoded] at refused <;>
      cases refused
    rfl

/-- What a restore does with a manifest that is text. -/
theorem Says.restore_run (told : Says store key text w) (paths : List PathName) :
    store.restore key paths w =
      match Json.parse text with
      | .ok (.map entries) =>
        if isListOf (paths.map PathName.display) ((member? "paths" entries).getD (.list [])) then
          store.restoreListed key paths w
        else (.ok false, (log .info "cache"
          ("Cache entry " ++ key ++ " was saved for different paths; treating as miss") w).2)
      | .ok _ => (.error .noSuchMember, w)
      | .error e =>
        if isUnreadable (Timing.readFault text e) then
          (.error (setupFailure "prepare" ("Unreadable cache manifest for " ++ key ++ ": " ++
            (Timing.readFault text e).message)), w)
        else (.error (Timing.readFault text e), w) := by
  obtain ⟨held, read⟩ := told
  rw [restore, bind_run, held]
  simp only [Bool.not_true, Bool.false_eq_true, if_false, bind_run, tryCatch_run, readManifest, read,
    ofResult_run, Timing.readDocument]
  rcases parsed : Json.parse text with e | v
  · by_cases unreadable : isUnreadable (Timing.readFault text e) = true
    · simp [mapError_error, unreadable, throw_run]
    · simp [mapError_error, unreadable, throw_run]
  · cases v with
    | map entries =>
      simp only [mapError_ok, bind_run, pure_run]
      by_cases listed : isListOf (paths.map PathName.display)
          ((member? "paths" entries).getD (.list [])) = true
      · simp only [listed, Bool.not_true, Bool.false_eq_true, if_false, if_true]
        rfl
      · simp only [listed, Bool.not_false, if_true, bind_run]
        rw [log_run]
        rfl
    | _ => rfl

/-! ## Copying the parts back -/

/-- The faults of copying parts back: what concerns files, parts that nest too deep, and paths that are
no names. -/
def PartFault (paths : List PathName) (f : Fault) : Prop :=
  f.isOutside = true ∨ f = .tooDeep "" ∨
    f.isInvalidValue = true ∧ ∃ path ∈ paths, Disk.isName path = false

/-- Copies parts back: whatever it changes, it has no other faults. -/
abbrev CopiesBack (paths : List PathName) {α : Type} (a : Action α) : Prop :=
  Keeps (fun _ _ => True) (PartFault paths) a

instance : Law (fun _ _ : World => True) where
  refl _ := trivial
  trans _ _ := trivial

variable {operation : Files → Except SystemError Files} {part : PathName}

/-- A name that is none is one of the paths. -/
theorem requireName_copiesBack
    (unnamed : Disk.isName path = false → ∃ other ∈ paths, Disk.isName other = false) :
    CopiesBack paths (Disk.requireName path) := by
  unfold Disk.requireName
  split
  · next f found =>
    have unusable : Disk.isName path = false := by simp [Disk.isName, found]
    exact .throw (.inr (.inr ⟨isInvalidValue_of_nameFault? found, unnamed unusable⟩))
  · exact .pure _

/-- A question fails as the system does, or is not put at all. -/
theorem ask_copiesBack (path : PathName) (question : Files → PathName → Except SystemError Bool) :
    CopiesBack paths (Disk.ask path question) := by
  unfold Disk.ask
  split
  · exact .pure _
  · refine .bind .get fun w => .ofResult fun f failed => ?_
    rcases asked : question w.files path with e | answer <;> rw [asked] at failed
    · cases failed
      exact .inl rfl
    · cases failed

/-- An operation fails as the system does, or its name is none. -/
theorem change_copiesBack
    (unnamed : Disk.isName path = false → ∃ other ∈ paths, Disk.isName other = false) :
    CopiesBack paths (Disk.change path operation) := by
  refine .bind (requireName_copiesBack unnamed) fun _ => .bind .get fun w => ?_
  split
  · exact fun v => ⟨trivial, nofun⟩
  · exact .throw (.inl rfl)

/-- As for an operation. -/
theorem makeFolders_copiesBack
    (unnamed : Disk.isName path = false → ∃ other ∈ paths, Disk.isName other = false) :
    CopiesBack paths (Disk.makeFolders path) := by
  refine .bind (requireName_copiesBack unnamed) fun _ => .bind .get fun w => ?_
  split
  · exact fun v => ⟨trivial, nofun⟩
  · exact .throw (.inl rfl)

/-- The part can be named. What could not be copied concerns files, or lies too deep. -/
theorem copyTree_copiesBack (named : Disk.isName part = true) (among : path ∈ paths) :
    CopiesBack paths (Disk.copyTree true part path) := by
  intro w
  refine ⟨trivial, fun f failed => ?_⟩
  by_cases there : Disk.isName path = true
  · rw [Disk.copyTree_run named there] at failed
    dsimp only at failed
    unfold Disk.reportOf at failed
    split at failed
    · cases failed
      exact .inr (.inl rfl)
    · split at failed <;> cases failed
      exact .inl rfl
  · have unnamed : Disk.isName path = false := by simpa using there
    rw [Disk.copyTree, bind_run, Disk.requireName_run named] at failed
    obtain ⟨g, refused⟩ | ⟨other, -⟩ := Disk.requireName_cases path w
    · have kind : CopiesBack paths (Disk.requireName path) :=
        requireName_copiesBack fun _ => ⟨path, among, unnamed⟩
      simp only [bind_run, refused] at failed
      cases failed
      exact (kind w).2 _ (by rw [refused])
    · exact absurd other there

/-- By what the part is: a folder is copied as a tree, and a file into a folder that is made. -/
theorem restorePart_copiesBack (named : Disk.isName part = true) (among : path ∈ paths) :
    CopiesBack paths (restorePart part path) := by
  refine .bind (ask_copiesBack _ _) fun there => ?_
  split
  · refine .bind (ask_copiesBack _ _) fun isFolder => ?_
    split
    · exact copyTree_copiesBack named among
    · refine .bind (makeFolders_copiesBack fun unnamed => ⟨path, among, ?_⟩) fun _ =>
        change_copiesBack fun unnamed => ⟨path, among, unnamed⟩
      rw [Bool.eq_false_iff] at unnamed ⊢
      exact mt isName_parent unnamed
  · exact .pure _

/-- By induction on the paths that are left. -/
theorem restoreParts_copiesBack {entry : PathName} {i : Nat} {rest : List PathName}
    (named : Disk.isName entry = true) (among : ∀ path ∈ rest, path ∈ paths) :
    CopiesBack paths (restoreParts entry i rest) := by
  induction rest generalizing i with
  | nil => exact .pure _
  | cons path rest ih =>
    exact .bind
      (restorePart_copiesBack (isName_number named i) (among path (List.mem_cons_self ..))) fun _ =>
        ih fun other later => among other (List.mem_cons_of_mem _ later)

/-! ## How a restore ends -/

/-- A manifest that is there has a name. -/
theorem isName_manifest (held : store.has key w = (.ok true, w)) :
    Disk.isName (store.manifestPath key) = true :=
  have asked : Disk.ask (store.manifestPath key) Files.isFile w = (.ok true, w) := held
  (Disk.ask_ok asked).2.2 rfl

/-- There is a manifest in the folder, so both can be named. -/
theorem isName_of_has (held : store.has key w = (.ok true, w)) :
    Disk.isName (store.entryFolder key) = true :=
  have named : Disk.isName ((store.entryFolder key).child manifestName) = true :=
    isName_manifest held
  (isName_of_child named).1

/-- An entry that lists the paths is restored, or the restore fails over files, or something spoils
it. -/
theorem restoreListed_ends (told : SaysList store key (paths.map PathName.display) w) :
    EndsWell (store.restoreListed key paths w).1 ∨
      ∃ f, (store.restoreListed key paths w).1 = .error f ∧ Spoiled store key paths w f := by
  obtain ⟨text, entries, ⟨held, read⟩, more⟩ := id told
  have copies : CopiesBack paths (restoreParts (store.entryFolder key) 0 paths) :=
    restoreParts_copiesBack (isName_of_has held) fun _ among => among
  rw [restoreListed, bind_run, failingAs, tryCatch_run]
  rcases ended : restoreParts (store.entryFolder key) 0 paths w with ⟨f | _, v⟩ <;> dsimp only
  · have failed : (restoreParts (store.entryFolder key) 0 paths w).1 = .error f := by rw [ended]
    by_cases outside : f.isOutside = true
    · simp only [outside, if_true, throw_run]
      exact .inl (endsWell_setupFailure _)
    · simp only [outside, Bool.false_eq_true, if_false, throw_run]
      obtain other | rfl | ⟨invalid, path, among, unnamed⟩ := (copies w).2 f failed
      · exact absurd other outside
      · exact .inr ⟨_, rfl, .deepPart told failed⟩
      · exact .inr ⟨_, rfl, .noName told among unnamed failed invalid⟩
  · exact .inl (.inl ⟨true, rfl⟩)

/-- By how far the restore comes: is there an entry, can its manifest be read, does it list the
paths, can the parts be copied. -/
theorem restore_cases (store : CacheStore) (key : String) (paths : List PathName) (w : World) :
    EndsWell (store.restore key paths w).1 ∨
      ∃ f, (store.restore key paths w).1 = .error f ∧ Spoiled store key paths w f := by
  obtain ⟨answer, asked⟩ := (has_asks store key).run w
  rcases answer with f | held
  · have failed : store.restore key paths w = (.error f, w) := by rw [restore, bind_run, asked]
    exact .inr ⟨f, by rw [failed], has_error (by rw [asked])⟩
  cases held with
  | false =>
    rw [restore_of_none asked]
    exact .inl (.inl ⟨false, rfl⟩)
  | true =>
    have named : Disk.isName (store.manifestPath key) = true :=
      isName_manifest asked
    obtain ⟨answer, read⟩ := (Disk.readText_asks (store.manifestPath key)).run w
    rcases answer with f | text
    · have unreadable : isUnreadable f = true := readText_error (by rw [read]) named
      have failed : store.readManifest key w = (.error f, w) := by rw [readManifest, bind_run, read]
      rw [restore, bind_run, asked]
      simp only [Bool.not_true, Bool.false_eq_true, if_false, bind_run, tryCatch_run, failed, unreadable,
        if_true, throw_run]
      exact .inl (endsWell_setupFailure _)
    · have told : Says store key text w := ⟨asked, read⟩
      rw [told.restore_run]
      rcases parsed : Json.parse text with e | v
      · cases e with
        | nestedTooDeep part => exact .inr ⟨_, rfl, .nested told parsed⟩
        | _ => exact .inl (endsWell_setupFailure _)
      · cases v with
        | map entries =>
          dsimp only
          split
          · next listed => exact restoreListed_ends ⟨text, entries, told, parsed, listed⟩
          · exact .inl (.inl ⟨false, rfl⟩)
        | _ => exact .inr ⟨_, rfl, .noObject told parsed fun _ same => (by cases same)⟩

/-- What spoils a restore ends it. -/
theorem Spoiled.restore_eq (spoiled : Spoiled store key paths w f) :
    (store.restore key paths w).1 = .error f := by
  have listed (told : SaysList store key (paths.map PathName.display) w)
      (failed : (restoreParts (store.entryFolder key) 0 paths w).1 = .error f)
      (inside : f.isOutside = false) : (store.restore key paths w).1 = .error f := by
    obtain ⟨text, entries, told, parsed, accepted⟩ := told
    rw [told.restore_run, parsed]
    simp only [accepted, if_true]
    rw [restoreListed, bind_run, failingAs, tryCatch_run]
    rcases ended : restoreParts (store.entryFolder key) 0 paths w with ⟨g | _, v⟩ <;>
      rw [ended] at failed <;> cases failed
    simp only [inside, Bool.false_eq_true, if_false, throw_run]
  cases spoiled with
  | longName named long =>
    have asked : store.has key w =
        (.error (.system .nameTooLong (store.manifestPath key).display), w) := by
      rw [has, Disk.isFile, Disk.ask]
      simp only [named, Bool.not_true, Bool.false_eq_true, if_false, bind_run, get_run, long,
        ofResult_run]
      rfl
    rw [restore, bind_run, asked]
  | noObject told parsed other =>
    rw [told.restore_run, parsed]
    split
    · next entries same => exact absurd (Except.ok.inj same) (other entries)
    · rfl
    · next same => cases same
  | nested told parsed =>
    rw [told.restore_run, parsed]
    rfl
  | deepPart told failed => exact listed told failed rfl
  | noName told among unnamed failed invalid =>
    refine listed told failed ?_
    cases f <;> simp_all [Fault.isInvalidValue, Fault.isOutside]

/-- A restore ends well exactly when nothing spoils it, and otherwise with the fault of what spoils
it. -/
theorem restore_endsWell (store : CacheStore) (key : String) (paths : List PathName) (w : World) :
    (EndsWell (store.restore key paths w).1 ↔ ∀ f, ¬ Spoiled store key paths w f) ∧
      ∀ f, Spoiled store key paths w f → (store.restore key paths w).1 = .error f := by
  refine ⟨⟨fun well f spoiled => ?_, fun sound => ?_⟩, fun f => Spoiled.restore_eq⟩
  · exact well.not_error spoiled.isStage_eq spoiled.restore_eq
  · obtain well | ⟨f, -, spoiled⟩ := restore_cases store key paths w
    · exact well
    · exact absurd spoiled (sound f)

/-- A cache with an entry whose manifest is an empty list. -/
def listManifest : World where
  files := { root := [("c", .folder
    [("k", .folder [("manifest.json", .file "[]".toUTF8 false)])]), ("w", .folder [])] }
  processes := ⟨[], {}⟩
  replies := ⟨[], .refused .connection ""⟩

/-- By evaluation. -/
theorem listManifest_text : Says sampleStore "k" "[]" listManifest := ⟨rfl, rfl⟩

/-- By evaluation. -/
theorem listManifest_parsed : Json.parse "[]" = .ok (.list []) := rfl

/-- The manifest is a document, but no object that could have members. -/
theorem restore_endsWell_listManifest :
    Spoiled sampleStore "k" [⟨.root, ["w", "a"]⟩] listManifest .noSuchMember ∧
      (sampleStore.restore "k" [⟨.root, ["w", "a"]⟩] listManifest).1 = .error .noSuchMember := by
  have spoiled : Spoiled sampleStore "k" [⟨.root, ["w", "a"]⟩] listManifest .noSuchMember :=
    .noObject listManifest_text listManifest_parsed nofun
  exact ⟨spoiled, (restore_endsWell sampleStore "k" _ listManifest).2 _ spoiled⟩

/-- A restore from an entry with an empty list for its manifest neither is answered nor fails as
preparation does. -/
theorem restore_spoiled_by_list :
    ¬ EndsWell (sampleStore.restore "k" [⟨.root, ["w", "a"]⟩] listManifest).1 := by
  rw [listManifest_text.restore_run, listManifest_parsed]
  exact fun well => well.not_error (f := .noSuchMember) rfl rfl

end CacheStore

end BuildBench
