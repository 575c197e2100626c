import BuildBench.Proofs.Files.Copies
import BuildBench.Proofs.Files.WayOfName

/-!
# Where writing can reach

Making folders and copying over what is there already may write in many places, and may fail in the
middle. What is new or different afterwards lies on the way of one of the names that were written
to, as these ways are in the end: files only grow, and a way only becomes longer with them.
-/

namespace BuildBench

namespace Files

variable {files middle changed : Files} {last : Bool} {path source target : PathName}
  {goal location : Location} {names more : PathName → Prop}

/-- The current directory exists. -/
def Steady (files : Files) : Prop := files.root.kind? files.current = some .folder

/-- Files that grew, on the ways of some names only. -/
structure Spread (names : PathName → Prop) (files changed : Files) : Prop where
  grows : files.root.Grows changed.root
  reached : ∀ location, changed.root.node? location ≠ files.root.node? location →
    ∃ path, names path ∧ location ∈ changed.way path

/-- Files that, if the current directory exists, only grew on the ways of some names. -/
structure Reaches (names : PathName → Prop) (files changed : Files) : Prop where
  current : changed.current = files.current
  tidy : files.Tidy → changed.Tidy
  spread : files.Steady → Spread names files changed

/-- Nothing is new. -/
theorem Spread.refl (names : PathName → Prop) (files : Files) : Spread names files files :=
  ⟨.refl _, fun _ different => absurd rfl different⟩

/-- Nothing is new. -/
theorem Reaches.refl (names : PathName → Prop) (files : Files) : Reaches names files files :=
  ⟨rfl, id, fun _ => .refl _ _⟩

/-- What is on the way of some names is on the way of more. -/
theorem Reaches.mono (reaches : Reaches names files changed) (wider : ∀ p, names p → more p) :
    Reaches more files changed where
  current := reaches.current
  tidy := reaches.tidy
  spread steady := by
    obtain ⟨grows, reached⟩ := reaches.spread steady
    refine ⟨grows, fun location different => ?_⟩
    obtain ⟨p, named, passed⟩ := reached location different
    exact ⟨p, wider p named, passed⟩

/-- The current directory is still there. -/
theorem Steady.of_grows (steady : files.Steady) (grows : files.root.Grows changed.root)
    (current : changed.current = files.current) : changed.Steady := by
  rw [Steady, current]
  exact grows _ _ steady

/-- Files only grew. -/
theorem Reaches.steady (reaches : Reaches names files changed) (steady : files.Steady) :
    changed.Steady := steady.of_grows (reaches.spread steady).grows reaches.current

/-- What differs in the end differs after one of the steps. The ways of the second step are the same
before it, since they only grew. -/
theorem Spread.trans (first : Spread names files middle) (second : Spread names middle changed)
    (current : changed.current = middle.current) : Spread names files changed where
  grows := first.grows.trans second.grows
  reached location different := by
    by_cases same : changed.root.node? location = middle.root.node? location
    · obtain ⟨p, named, passed⟩ := first.reached location (same ▸ different)
      exact ⟨p, named, way_mono second.grows current p passed⟩
    · exact second.reached location same

/-- Each step begins where the current directory exists. -/
theorem Reaches.trans (first : Reaches names files middle)
    (second : Reaches names middle changed) : Reaches names files changed where
  current := second.current.trans first.current
  tidy := second.tidy ∘ first.tidy
  spread steady :=
    (first.spread steady).trans (second.spread (first.steady steady)) second.current

/-- Where the current directory exists no name that is followed ends at a link. -/
theorem Leads.plain (leads : files.Leads true path goal) (steady : files.Steady) (text : String) :
    files.root.kind? goal ≠ some (.link text) := by
  intro link
  obtain ⟨rfl, -⟩ := leads.walks.at_link link
  have folder : files.root.kind? (files.start path) = some .folder := by
    unfold start
    split
    · exact Folder.kind?_nil _
    · exact steady
  cases link.symm.trans folder

/-- A leaf that is put where a name leads, over nothing or over one of its kind. -/
theorem reaches_put_leaf {e : Entry} (leaf : e.isFolder = false)
    (leads : files.Leads last path goal) (named : names path)
    (closed : files.root.kind? goal ≠ some .folder)
    (same : files.Steady → ∀ kind, files.root.kind? goal = some kind → kind = e.node.kind) :
    Reaches names files (files.put goal e) where
  current := rfl
  tidy := (within_put_leaf leads leaf closed).tidy
  spread steady := by
    have nonempty := Folder.nonempty_of_closed closed
    have parent := leads.parent_folder nonempty
    have grows : files.root.Grows (files.put goal e).root :=
      Folder.grows_put_leaf leaf nonempty parent (same steady)
    have wider : files.way path ⊆ (files.put goal e).way path := way_mono grows rfl path
    refine ⟨grows, fun location different => ⟨path, named, ?_⟩⟩
    rw [put_root, Folder.node?_put_leaf leaf nonempty parent
      fun opened => closed (Folder.kind?_eq_folder_iff.mpr opened)] at different
    split at different
    · next here =>
      exact here ▸ wider leads.goal_mem_way
    · exact absurd rfl different

/-- The one new folder is at the end of the way of its name. -/
theorem makeFolder_spread (made : files.makeFolder path = .ok changed) (named : names path) :
    Spread names files changed := by
  obtain ⟨goal, leads, vacant, rfl⟩ := makeFolder_ok made
  have grows := grows_put_empty leads vacant
  have wider : files.way path ⊆ (files.put goal (.folder [])).way path :=
    way_mono grows rfl path
  refine ⟨grows, fun location different => ⟨path, named, ?_⟩⟩
  rw [node?_put_empty leads vacant] at different
  split at different
  · next here =>
    exact here ▸ wider leads.goal_mem_way
  · exact absurd rfl different

/-- Folders are made on the way of the name that is wanted. -/
theorem makeFolders_spread (made : files.makeFolders path = .ok changed) (named : names path) :
    Spread names files changed := by
  let upper (p : PathName) : Prop := ∃ rest, path = p.descend rest
  have spread : changed.current = files.current ∧ Spread upper files changed :=
    (makeFolders_rec (P := fun one two => two.current = one.current ∧ Spread upper one two)
      (fun _ => ⟨rfl, .refl _ _⟩)
      (fun first second => ⟨second.1.trans first.1, first.2.trans second.2 second.1⟩)
      (fun whole once => ⟨(founded_of_makeFolder once).1.current,
        makeFolder_spread once ⟨_, whole⟩⟩) made).1
  refine ⟨spread.2.grows, fun location different => ?_⟩
  obtain ⟨p, ⟨rest, rfl⟩, passed⟩ := spread.2.reached location different
  exact ⟨_, named, way_descend changed p rest passed⟩

/-- The new folders are on the way of the name. -/
theorem makeFolders_reaches (made : files.makeFolders path = .ok changed) (named : names path) :
    Reaches names files changed :=
  have founded := (makeFolders_ok made).1
  ⟨founded.current, founded.tidy, fun _ => makeFolders_spread made named⟩

/-- At most a folder is made, under the name of the target. -/
theorem makeTarget_reaches {merge : Bool} (made : files.makeTarget merge target = .ok changed)
    (named : names target) : Reaches names files changed := by
  unfold makeTarget at made
  split at made
  · split at made
    · cases made
      exact .refl _ _
    · cases made
  · exact makeFolders_reaches made named

/-- A file is put at the end of the way. -/
theorem write_reaches {content : ByteArray} (written : files.write path content = .ok changed)
    (named : names path) : Reaches names files changed := by
  obtain ⟨goal, executable, leads, closed, rfl⟩ := write_ok written
  refine reaches_put_leaf rfl leads named closed fun steady kind held => ?_
  cases kind with
  | file => rfl
  | link text => exact absurd held (leads.plain steady text)
  | folder => exact absurd held closed

/-- A file is put at the end of the way, where one was. -/
theorem setExecutable_reaches {wanted : Bool}
    (marked : files.setExecutable path wanted = .ok changed) (named : names path) :
    Reaches names files changed := by
  rcases setExecutable_ok marked with rfl | ⟨goal, content, leads, held, rfl⟩
  · exact .refl _ _
  · refine reaches_put_leaf rfl leads named (by rw [held]; exact nofun) fun _ kind there => ?_
    cases held.symm.trans there
    rfl

/-! ## Copies -/

/-- The names below a name, reached without going up. -/
def Below (target : PathName) : PathName → Prop :=
  fun path => ∃ rest, ".." ∉ rest ∧ path = target.descend rest

/-- There is nothing to go down. -/
theorem below_self (target : PathName) : Below target target :=
  ⟨[], by simp, (PathName.descend_nil target).symm⟩

/-- What is below the child is below its folder. -/
theorem below_child {name : String} (notUp : name ≠ "..") :
    ∀ path, Below (target.child name) path → Below target path := by
  rintro path ⟨rest, plain, rfl⟩
  exact ⟨name :: rest, by simpa using ⟨notUp.symm, plain⟩, target.child_descend name rest⟩

/-- The file is written at the target or under its own name in it, and both are below the target. -/
theorem copyFile_reaches (copied : files.copyFile source target = .ok changed)
    (notUp : source.name ≠ "..") : Reaches (Below target) files changed := by
  obtain ⟨-, -, written, content, executable, -, -, first, second⟩ := copyFile_steps copied
  have named : Below target (files.copyGoal source target) := by
    unfold copyGoal
    split
    · exact below_child notUp _ (below_self _)
    · exact below_self _
  exact (write_reaches first named).trans (setExecutable_reaches second named)

/-- A link is put at the end of the way. -/
theorem makeLink_reaches {text : String} (made : files.makeLink text target = .ok changed) :
    Reaches (Below target) files changed := by
  obtain ⟨-, goal, leads, vacant, rfl⟩ := makeLink_ok made
  exact reaches_put_leaf rfl leads (below_self _) (by simp [vacant]) (by simp [vacant])

/-- A change that fails changes nothing. -/
theorem ofChange_reaches {operation : Except SystemError Files}
    (each : ∀ after, operation = .ok after → Reaches names files after) (path : PathName) :
    Reaches names files (CopyResult.ofChange files path operation).files := by
  cases operation with
  | ok after => exact each after rfl
  | error e => exact .refl _ _

/-- Copies of folders that nest less deep reach no further than below their targets. -/
def FoldersReach (merge : Bool) (depth : Nat) : Prop :=
  ∀ (files : Files) (source target : PathName), files.Tidy →
    Reaches (Below target) files (copyFolder merge depth source target files).files

variable {merge : Bool} {depth : Nat}

/-- By the kind of the entry. Folders reach no further by assumption. -/
theorem copyEntry_reaches (inner : FoldersReach merge depth) (tidy : files.Tidy)
    (notUp : source.name ≠ "..") (target : PathName) (e : Entry) :
    Reaches (Below target) files
      (copyEntry (copyFolder merge depth) source target files e).files := by
  cases e with
  | file content executable =>
    exact ofChange_reaches (fun _ copied => copyFile_reaches copied notUp) target
  | link text =>
    rw [copyEntry]
    split
    · exact .refl _ _
    · exact ofChange_reaches (fun _ made => makeLink_reaches made) target
  | folder f => exact inner files source target tidy

/-- By induction on the entries that are left: each is copied below the target. -/
theorem copyEntries_reaches (inner : FoldersReach merge depth) (source target : PathName)
    {todo : Folder} (tidy : files.Tidy) (named : ∀ entry ∈ todo, entry.1 ≠ "..") :
    Reaches (Below target) files
      (copyEntries (copyFolder merge depth) source target todo files).files := by
  induction todo generalizing files with
  | nil => exact .refl _ _
  | cons first rest ih =>
    obtain ⟨name, e⟩ := first
    obtain ⟨notUp, others⟩ := List.forall_mem_cons.mp named
    have here : Reaches (Below target) files (copyEntry (copyFolder merge depth)
        (source.child name) (target.child name) files e).files :=
      (copyEntry_reaches inner tidy (by rwa [PathName.name_child]) _ e).mono (below_child notUp)
    rw [copyEntries, CopyResult.andThen]
    split
    · exact here
    · exact here.trans (ih (here.tidy tidy) others)

/-- A copy of a folder reaches no further than below its target, even when it fails. -/
theorem copyFolder_reaches (merge : Bool) (depth : Nat) : FoldersReach merge depth := by
  induction depth with
  | zero => exact fun _ _ _ _ => .refl _ _
  | succ depth ih =>
    intro files source target tidy
    rw [copyFolder]
    split
    · exact .refl _ _
    · next entries found =>
      split
      · exact .refl _ _
      · next made target' =>
        have opened := makeTarget_reaches target' (below_self target)
        have ordered := (tidy_of_lookUp tidy found).ordered
        exact opened.trans (copyEntries_reaches ih source target (opened.tidy tidy)
          fun entry member => (ordered.named entry member).2)
    · exact .refl _ _

/-! ## A place that is not reached -/

/-- A location is avoided by the ways of some names, and so is all that stands there. -/
def Avoids (files : Files) (names : PathName → Prop) (location : Location) : Prop :=
  ∀ path, names path → ∀ passed ∈ files.way path, ¬ location <+: passed

end Files

end BuildBench
