import BuildBench.Proofs.Cache.SaveOutcome

/-!
# The parts of an entry

Saving and restoring meet at the parts of an entry. A part holds what its path holds, and the names
of both are short enough for whatever is copied from one to the other. That takes some order among
the paths: none of them leads into the cache, or through what another one holds.
-/

namespace BuildBench

open BuildBench.Action

/-! ## Paths -/

namespace Files

variable {files changed : Files} {path : PathName} {goal : Location}

/-- A path name leads to a file or a folder. -/
structure Placed (files : Files) (path : PathName) (goal : Location) : Prop where
  leads : files.Leads false path goal
  held : files.root.kind? goal ≠ none
  plain : ∀ text, files.root.kind? goal ≠ some (.link text)

/-- Nothing stands at a path name, not even a link. -/
def Missing (files : Files) (path : PathName) : Prop :=
  ∀ last goal, files.Leads last path goal → files.root.kind? goal = none

/-- What stands at the end is no link, so nothing is left to follow. -/
theorem Placed.followed (placed : files.Placed path goal) : files.Leads true path goal :=
  placed.leads.followed placed.plain

/-- A name leads to one place. -/
theorem Placed.unique {other : Location} (one : files.Placed path goal)
    (two : files.Placed path other) : goal = other := one.leads.unique two.leads

/-- Something stands there. -/
theorem Placed.not_missing (placed : files.Placed path goal) : ¬ files.Missing path :=
  fun missing => placed.held (missing _ _ placed.leads)

/-- A path whose name does not lead through what it holds itself is the name of an entry in a
folder. -/
theorem Placed.above (placed : files.Placed path goal)
    (clear : ∀ passed ∈ files.way path.parent, ¬ goal <+: passed) :
    ∃ above name, path = path.parent.child name ∧ name ≠ "." ∧ name ≠ ".." ∧
      goal = above ++ [name] ∧ files.Opens path.parent above := by
  rcases List.eq_nil_or_concat path.parts with none | ⟨front, name, whole⟩
  · have same : path.parent = path := by
      cases path
      simp_all [PathName.parent]
    rw [same] at clear
    exact absurd (List.prefix_refl goal) (clear goal placed.leads.goal_mem_way)
  · have child : path = path.parent.child name := by
      cases path
      simp_all [PathName.parent, PathName.child]
    have proper : name ≠ "." ∧ name ≠ ".." := by
      rw [← not_or]
      intro dots
      have walks := placed.leads.walks
      rw [child] at walks
      obtain ⟨passed, among, below⟩ := walks.ends_in_dots dots
      exact clear passed among below
    have leads := placed.leads
    rw [child] at leads
    obtain ⟨above, here, opens⟩ := leads.above proper.1 proper.2
    exact ⟨above, name, child, proper.1, proper.2, here, opens⟩

/-- Path names that pass the same lead to the same. -/
theorem Missing.of_kinds (missing : files.Missing path) (current : changed.current = files.current)
    (same : ∀ location ∈ files.way path,
      changed.root.kind? location = files.root.kind? location) : changed.Missing path := by
  intro last goal leads
  have before := (leads_iff_of_way current same).mp leads
  rw [same goal before.goal_mem_way]
  exact missing last goal before

/-- A name is followed by the kinds of the entries on its way, the last of which is its own. -/
theorem Placed.of_kinds (placed : files.Placed path goal)
    (current : changed.current = files.current)
    (same : ∀ location ∈ files.way path,
      changed.root.kind? location = files.root.kind? location) : changed.Placed path goal := by
  have here := same goal placed.leads.goal_mem_way
  exact ⟨(leads_iff_of_way current same).mpr placed.leads, by rw [here]; exact placed.held,
    by rw [here]; exact placed.plain⟩

end Files

namespace CacheStore

variable {store : CacheStore} {place : Location} {key : String} {paths : List PathName}
  {files changed : Files} {w u v : World}

/-- Paths that hold files and folders apart from each other and from the cache, or nothing. No name
of a path leads into the cache; and neither the name of the cache nor the name of the folder above
one of these files and folders leads through them. -/
structure Arranged (store : CacheStore) (place : Location) (files : Files) (paths : List PathName) :
    Prop where
  sits : store.Sits files place
  named : ∀ path ∈ paths, Disk.isName path = true
  each : ∀ path ∈ paths, files.Missing path ∨ ∃ goal, files.Placed path goal
  spares : ∀ path ∈ paths, ∀ passed ∈ files.way path, ¬ inside place passed
  outside : ∀ path ∈ paths, ∀ goal, files.Placed path goal → Apart place goal
  apart : paths.Pairwise fun one two => ∀ goal other,
    files.Placed one goal → files.Placed two other → Apart goal other
  rootClear : ∀ path ∈ paths, ∀ goal, files.Placed path goal →
    ∀ passed ∈ files.way store.root, ¬ goal <+: passed
  clear : ∀ path ∈ paths, ∀ goal, files.Placed path goal → ∀ one ∈ paths, ∀ other,
    files.Placed one other → ∀ passed ∈ files.way one.parent, ¬ goal <+: passed

namespace Arranged

/-- What holds of all paths holds of those behind the first. -/
theorem tail {path : PathName} {rest : List PathName}
    (arranged : Arranged store place files (path :: rest)) : Arranged store place files rest where
  sits := arranged.sits
  named p among := arranged.named p (List.mem_cons_of_mem _ among)
  each p among := arranged.each p (List.mem_cons_of_mem _ among)
  spares p among := arranged.spares p (List.mem_cons_of_mem _ among)
  outside p among := arranged.outside p (List.mem_cons_of_mem _ among)
  apart := (List.pairwise_cons.mp arranged.apart).2
  rootClear p among := arranged.rootClear p (List.mem_cons_of_mem _ among)
  clear p among goal placed one other :=
    arranged.clear p (List.mem_cons_of_mem _ among) goal placed one (List.mem_cons_of_mem _ other)

/-- What a path holds is outside of the cache, where it looks the same. -/
theorem missing_of_kinds (arranged : Arranged store place files paths)
    (current : changed.current = files.current)
    (same : ∀ location, ¬ inside place location →
      changed.root.kind? location = files.root.kind? location) {path : PathName}
    (among : path ∈ paths) (missing : files.Missing path) : changed.Missing path :=
  missing.of_kinds current fun passed there => same passed (arranged.spares path among passed there)

/-- No way of a path goes into the cache, and outside of it the kinds are the same. -/
theorem placed_iff (arranged : Arranged store place files paths)
    (current : changed.current = files.current)
    (same : ∀ location, ¬ inside place location →
      changed.root.kind? location = files.root.kind? location) {path : PathName}
    (among : path ∈ paths) {goal : Location} :
    changed.Placed path goal ↔ files.Placed path goal := by
  have onWay : ∀ passed ∈ files.way path,
      changed.root.kind? passed = files.root.kind? passed :=
    fun passed there => same passed (arranged.spares path among passed there)
  refine ⟨fun there => ?_, fun there => there.of_kinds current onWay⟩
  rcases arranged.each path among with missing | ⟨other, before⟩
  · exact absurd (missing.of_kinds current onWay) there.not_missing
  · rwa [there.unique (before.of_kinds current onWay)]

/-- What is inside of the cache does not matter. -/
theorem of_kinds (arranged : Arranged store place files paths)
    (current : changed.current = files.current)
    (same : ∀ location, ¬ inside place location →
      changed.root.kind? location = files.root.kind? location) :
    Arranged store place changed paths := by
  have onWay (path : PathName) (among : path ∈ paths) : ∀ passed ∈ files.way path,
      changed.root.kind? passed = files.root.kind? passed :=
    fun passed there => same passed (arranged.spares path among passed there)
  have onRoot : ∀ passed ∈ files.way store.root,
      changed.root.kind? passed = files.root.kind? passed :=
    fun passed there => same passed fun within =>
      within.2 (arranged.sits.clear passed there within.1)
  have way (path : PathName) (among : path ∈ paths) : changed.way path = files.way path :=
    Files.way_congr current (onWay path among)
  have wayAbove (path : PathName) (among : path ∈ paths) :
      changed.way path.parent = files.way path.parent :=
    Files.way_congr current fun passed there =>
      onWay path among passed (Files.way_parent files path there)
  have wayRoot : changed.way store.root = files.way store.root := Files.way_congr current onRoot
  have placed (path : PathName) (among : path ∈ paths) (goal : Location)
      (there : changed.Placed path goal) : files.Placed path goal :=
    (arranged.placed_iff current same among).mp there
  constructor
  · refine ⟨⟨(Files.leads_iff_of_way current onRoot).mpr arranged.sits.opens.leads, ?_⟩, ?_⟩
    · rw [same place fun within => within.2 rfl]
      exact arranged.sits.opens.folder
    · rw [wayRoot]
      exact arranged.sits.clear
  · exact arranged.named
  · intro path among
    rcases arranged.each path among with missing | ⟨goal, before⟩
    · exact .inl (arranged.missing_of_kinds current same among missing)
    · exact .inr ⟨goal, (arranged.placed_iff current same among).mpr before⟩
  · intro path among
    rw [way path among]
    exact arranged.spares path among
  · exact fun path among goal there => arranged.outside path among goal (placed path among goal there)
  · exact arranged.apart.imp_of_mem fun first second disjoint goal other one two =>
      disjoint goal other (placed _ first goal one) (placed _ second other two)
  · intro path among goal there
    rw [wayRoot]
    exact arranged.rootClear path among goal (placed path among goal there)
  · intro path among goal there one other location its
    rw [wayAbove one other]
    exact arranged.clear path among goal (placed path among goal there) one other location
      (placed one other location its)

/-- Only places in the cache changed. -/
theorem confined (arranged : Arranged store place w.files paths)
    (confined : Confined (inside place) w v) : Arranged store place v.files paths :=
  arranged.of_kinds confined.current confined.kinds

/-- Only places in the cache changed, so the kinds elsewhere were the same before. -/
theorem before (arranged : Arranged store place v.files paths)
    (confined : Confined (inside place) w v) : Arranged store place w.files paths :=
  arranged.of_kinds confined.current.symm fun location outside =>
    (confined.kinds location outside).symm

end Arranged

/-! ## Saving -/

section Saving

variable {folder path : PathName} {above goal : Location} {name : String}

/-- What a path holds is a file or a folder, and is found as such. -/
theorem placed_cases (placed : w.files.Placed path goal) (named : Disk.isName path = true) :
    (∃ content executable, w.files.root.at? goal = some (.file content executable) ∧
      Disk.isFolder path w = (.ok false, w) ∧ Disk.isFile path w = (.ok true, w)) ∨
    ∃ f, w.files.root.at? goal = some (.folder f) ∧ Disk.isFolder path w = (.ok true, w) := by
  obtain ⟨e, there⟩ := Option.ne_none_iff_exists'.mp (mt Folder.kind?_eq_none.mpr placed.held)
  have found : w.files.lookUp path = .ok e := by
    rw [Files.lookUp, placed.followed.place, there]
    rfl
  cases e with
  | file content executable =>
    refine .inl ⟨content, executable, there, Disk.ask_run named ?_, Disk.ask_run named ?_⟩
    · rw [Files.isFolder, Files.check, found]
      rfl
    · rw [Files.isFile, Files.check, found]
      rfl
  | link target => exact absurd (Folder.kind?_of_at? there) (placed.plain target)
  | folder f =>
    refine .inr ⟨f, there, Disk.ask_run named ?_⟩
    rw [Files.isFolder, Files.check, found]
    rfl

/-- A part holds what its path holds. -/
structure Copy (files : Files) (part path : PathName) (spot goal : Location) : Prop where
  named : Disk.isName part = true
  sound : part.Sound
  nodes : ∀ rest, files.root.node? (spot ++ rest) = files.root.node? (goal ++ rest)
  fits : files.root.kind? goal = some .folder →
    ∀ f : Folder, (∀ rest, f.node? rest = files.root.node? (goal ++ rest)) →
      f.Fits Files.copyDepth path part

/-- What stands below a location is what stands in its entry. -/
theorem node?_of_at? {root : Folder} {e : Entry} (held : root.at? goal = some e)
    (rest : Location) : e.node? rest = root.node? (goal ++ rest) := by
  rw [Folder.node?_append, held]
  rfl

/-- What has to fit is told from outside. -/
theorem fits_congr {f other : Folder} {depth : Nat} {source target : PathName}
    (fits : f.Fits depth source target) (same : ∀ rest, other.node? rest = f.node? rest) :
    other.Fits depth source target :=
  ⟨fits.1, fun rest n nonempty there => fits.2 rest n nonempty ((same rest).symm.trans there)⟩

/-- A copy that was made apart from its source is like it. -/
theorem copy_of_within {part : PathName} {spot : Location} {e : Entry}
    (named : Disk.isName part = true) (sound : part.Sound) (held : files.root.at? goal = some e)
    (apart : Apart goal spot) (within : Files.Within spot files changed)
    (stands : ∀ rest, changed.root.node? (spot ++ rest) = e.node? rest)
    (fits : ∀ f, e = .folder f → Folder.Fits f Files.copyDepth path part) :
    Copy changed part path spot goal := by
  have kept (rest : Location) : changed.root.node? (goal ++ rest) = e.node? rest := by
    rw [node?_of_at? held]
    exact within.nodes _ (apart.symm.below (List.prefix_append goal rest)).1
  refine ⟨named, sound, fun rest => (stands rest).trans (kept rest).symm, fun folder f same => ?_⟩
  have here := kept []
  rw [List.append_nil] at here
  cases e with
  | folder inner => exact fits_congr (fits inner rfl) fun rest => (same rest).trans (kept rest)
  | _ => simp [Folder.kind?, here, Entry.node?, Entry.node, Node.kind] at folder

/-- By what the path holds: a folder is copied as a tree, a file with its permission. What could not
be copied would have been a failure. -/
theorem savePart_copies {x : Unit} (tidy : w.files.Tidy)
    (awaits : w.files.Awaits folder above name) (placed : w.files.Placed path goal)
    (named : Disk.isName path = true) (apart : Apart goal (above ++ [name]))
    (saved : savePart path (folder.child name) w = (.ok x, u)) :
    Copy u.files (folder.child name) path (above ++ [name]) goal := by
  unfold savePart at saved
  simp only [bind_run] at saved
  have closed : w.files.root.kind? (above ++ [name]) ≠ some .folder := by simp [awaits.vacant]
  have plain : ∀ text, w.files.root.kind? (above ++ [name]) ≠ some (.link text) := by
    simp [awaits.vacant]
  obtain ⟨content, executable, there, isFolder, isFile⟩ | ⟨f, there, isFolder⟩ :=
    placed_cases placed named
  · simp only [isFolder, Bool.false_eq_true, if_false, bind_run, isFile, if_true] at saved
    obtain ⟨f, failed⟩ | ⟨changed, partNamed, copied, done⟩ := Disk.change_cases
      (folder.child name) (·.copyFile path (folder.child name)) w
    · cases failed.symm.trans saved
    have sound := (Files.copyFile_ok copied).2
    have different : above ++ [name] ≠ goal := by
      rintro rfl
      exact apart.1 (List.prefix_refl _)
    obtain ⟨again, copiedAgain, within, stands⟩ := Files.copyFile_of_leads placed.followed there
      ((awaits.leads sound).followed plain) different closed plain
    cases copied.symm.trans copiedAgain
    cases done.symm.trans saved
    exact copy_of_within partNamed sound there apart within stands nofun
  · simp only [isFolder, if_true] at saved
    obtain ⟨f, failed⟩ | ⟨-, partNamed, copied⟩ :=
      Disk.copyTree_cases false path (folder.child name) w
    · cases failed.symm.trans saved
    obtain ⟨ended, rfl⟩ := Prod.mk.inj (copied.symm.trans saved)
    have clean : (Files.copyEntry (Files.copyFolder false Files.copyDepth) path (folder.child name)
        w.files (.folder f)).Clean := Disk.reportOf_ok ended
    have sound := (Files.copyEntry_sound clean).2
    have leads := awaits.leads sound
    have faces : Files.Faces false w.files goal (above ++ [name]) (.folder f) :=
      ⟨there, (Folder.tidy_at? tidy there).1, apart, .inr awaits.vacant, fun rest kind held => by
        rw [Folder.kind?, Folder.node?_of_vacant awaits.vacant (List.prefix_append _ rest)] at held
        cases held⟩
    have fits := Files.copyFolder_fits false Files.copyDepth placed.leads leads faces clean
    have copied := Files.copyFolder_copied false Files.copyDepth placed.leads leads faces fits
    refine copy_of_within partNamed sound there apart copied.within copied.stands fun inner same => ?_
    cases same
    exact fits

/-- A path that holds nothing is passed over. -/
theorem savePart_skips {x : Unit} {part : PathName} (missing : w.files.Missing path)
    (saved : savePart path part w = (.ok x, u)) : Confined nowhere w u := by
  unfold savePart at saved
  simp only [bind_run] at saved
  obtain ⟨answer, asked⟩ := (Disk.ask_asks path Files.isFolder).run w
  rw [Disk.isFolder, asked] at saved
  rcases answer with f | isFolder
  · cases saved
  cases isFolder with
  | true =>
    obtain ⟨-, told, named⟩ := Disk.ask_ok asked
    obtain ⟨goal, opens⟩ := Files.opens_of_isFolder (told (named rfl))
    cases opens.folder.symm.trans (missing true goal opens.leads)
  | false =>
    simp only [Bool.false_eq_true, if_false, bind_run] at saved
    obtain ⟨answer, asked⟩ := (Disk.ask_asks path Files.isFile).run w
    rw [Disk.isFile, asked] at saved
    rcases answer with f | isFile
    · cases saved
    cases isFile with
    | true =>
      obtain ⟨-, told, named⟩ := Disk.ask_ok asked
      obtain ⟨content, executable, goal, leads, there⟩ := isFile_ok (told (named rfl))
      cases (Folder.kind?_of_at? there).symm.trans (missing true goal leads)
    | false =>
      obtain ⟨-, rfl⟩ := Prod.mk.inj saved
      exact log_confined .debug "cache" _ w

/-- A copy is told from what stands at the part and at the path. -/
theorem Copy.of_nodes {part : PathName} {spot : Location}
    (copy : Copy files part path spot goal)
    (atSpot : ∀ rest, changed.root.node? (spot ++ rest) = files.root.node? (spot ++ rest))
    (atGoal : ∀ rest, changed.root.node? (goal ++ rest) = files.root.node? (goal ++ rest)) :
    Copy changed part path spot goal := by
  refine ⟨copy.named, copy.sound, fun rest => ?_, fun folder f same => ?_⟩
  · rw [atSpot, atGoal, copy.nodes]
  · have before : files.root.kind? goal = some .folder := by
      have here := atGoal []
      rw [List.append_nil] at here
      rwa [Folder.kind?, ← here]
    exact copy.fits before f fun rest => (same rest).trans (atGoal rest)

/-- Every part holds what its path holds, and there is none for a path that holds nothing. -/
structure Parts (files : Files) (folder : PathName) (above : Location) (i : Nat)
    (paths : List PathName) : Prop where
  copies : ∀ j path, paths[j]? = some path → ∀ goal, files.Placed path goal →
    Copy files (folder.child (toString (i + j))) path (above ++ [toString (i + j)]) goal
  absent : ∀ j path, paths[j]? = some path → files.Missing path →
    files.root.kind? (above ++ [toString (i + j)]) = none

/-- The first part is copied by assumption, and the others are those of the rest. -/
theorem Parts.cons {i : Nat} {rest : List PathName}
    (copies : ∀ goal, files.Placed path goal →
      Copy files (folder.child (toString i)) path (above ++ [toString i]) goal)
    (absent : files.Missing path → files.root.kind? (above ++ [toString i]) = none)
    (parts : Parts files folder above (i + 1) rest) : Parts files folder above i (path :: rest) := by
  constructor
  · intro j other found
    cases j with
    | zero =>
      obtain rfl : path = other := by simpa using found
      exact copies
    | succ j =>
      rw [← Nat.add_assoc, Nat.add_right_comm]
      exact parts.copies j other (by simpa using found)
  · intro j other found
    cases j with
    | zero =>
      obtain rfl : path = other := by simpa using found
      exact absent
    | succ j =>
      rw [← Nat.add_assoc, Nat.add_right_comm]
      exact parts.absent j other (by simpa using found)

/-- The others are numbered from the next number on. -/
theorem Parts.tail {i : Nat} {rest : List PathName} (parts : Parts files folder above i (path :: rest)) :
    Parts files folder above (i + 1) rest := by
  constructor
  · intro j other found
    have later := parts.copies (j + 1) other (by simpa using found)
    rwa [← Nat.add_assoc, Nat.add_right_comm] at later
  · intro j other found
    have later := parts.absent (j + 1) other (by simpa using found)
    rwa [← Nat.add_assoc, Nat.add_right_comm] at later

/-- No log file is open in what the paths hold. -/
def PathsUnlogged (files : Files) (paths : List PathName) (w : World) : Prop :=
  ∀ path ∈ paths, ∀ goal, files.Placed path goal → Unlogged goal w

/-- The paths lead to where they led before. -/
theorem PathsUnlogged.tail {rest : List PathName}
    (unlogged : PathsUnlogged w.files (path :: rest) w)
    (arranged : Arranged store place w.files (path :: rest))
    (confined : Confined (inside place) w v) : PathsUnlogged v.files rest v := by
  intro p among goal placed location opened
  have before : w.files.Placed p goal :=
    (arranged.placed_iff confined.current confined.kinds (List.mem_cons_of_mem _ among)).mp placed
  exact unlogged p (List.mem_cons_of_mem _ among) goal before location (confined.logs location opened)

/-- The first part is saved before the others, which do not touch it. -/
theorem saveParts_parts {x : Unit} {i : Nat} (arranged : Arranged store place w.files paths)
    (unlogged : Unlogged place w) (pathsUnlogged : PathsUnlogged w.files paths w)
    (fillable : Fillable w.files folder above i) (within : inside place above)
    (saved : saveParts folder i paths w = (.ok x, u)) : Parts u.files folder above i paths := by
  induction paths generalizing i w with
  | nil => exact ⟨fun j path found => by simp at found, fun j path found => by simp at found⟩
  | cons path rest ih =>
    have awaits := fillable.parts i (Nat.le_refl i)
    have one := savePart_confined fillable.tidy awaits path
    rw [saveParts, bind_run] at saved
    rcases first : savePart path (folder.child (toString i)) w with ⟨f | y, t⟩ <;>
      rw [first] at saved one
    · cases saved
    have next : Fillable t.files folder above (i + 1) := fillable.next one
    have later := (saveParts_confined next rest).1
    rw [show saveParts folder (i + 1) rest t = (.ok x, u) from saved] at later
    have inCache (l : Location) (below : beneath above l) : inside place l :=
      inside_below within below
    have oneInside : Confined (inside place) w t := one.mono fun l below =>
      inCache l ((List.prefix_append above [toString i]).trans below)
    have laterInside : Confined (inside place) t u := later.mono fun l among =>
      inCache l (partsFrom_beneath among)
    have whole : Confined (inside place) w u := oneInside.trans laterInside
    have unlogged' := unlogged.after one.toSameHost
    have rests := ih (arranged.confined oneInside).tail unlogged'
      (pathsUnlogged.tail arranged oneInside) next saved
    have spared (l : Location) : ¬ partsFrom above (i + 1) (above ++ [toString i] ++ l) :=
      not_partsFrom_below (Nat.lt_succ_self i) l
    refine .cons (fun goal placed => ?_) (fun missing => ?_) rests
    · have before : w.files.Placed path goal :=
        (arranged.placed_iff whole.current whole.kinds (List.mem_cons_self ..)).mp placed
      have outside := arranged.outside path (List.mem_cons_self ..) goal before
      have apart : Apart goal (above ++ [toString i]) := outside.symm.below
        (within.1.trans (List.prefix_append above [toString i]))
      have named := arranged.named path (List.mem_cons_self ..)
      refine (savePart_copies fillable.tidy awaits before named apart first).of_nodes
        (fun l => later.nodes _ (spared l) fun opened => ?_)
        (fun l => later.nodes _ (fun among => ?_) fun opened => ?_)
      · refine unlogged' _ opened (within.1.trans ?_)
        rw [List.append_assoc]
        exact List.prefix_append above _
      · exact not_below_of_apart outside l (inCache _ (partsFrom_beneath among)).1
      · exact pathsUnlogged path (List.mem_cons_self ..) goal before _ (one.logs _ opened)
          (List.prefix_append goal l)
    · have before : w.files.Missing path :=
        (arranged.confined whole).missing_of_kinds whole.current.symm
          (fun l outside => (whole.kinds l outside).symm) (List.mem_cons_self ..) missing
      have untouched := spared []
      rw [List.append_nil] at untouched
      rw [later.kinds _ untouched, (savePart_skips before first).kinds _ id]
      exact awaits.vacant

/-! ## The entry -/

/-- Moving the folder changes nothing in it, and the name of the entry is shorter than the hidden
one. -/
theorem Copy.of_hidden {unique : String} {more : List String} {spot place : Location} {i : Nat}
    (copy : Copy files ((store.hiddenFolder key unique more).child (toString i)) path spot goal)
    (named : IsKey key)
    (atEntry : ∀ rest, changed.root.node? (place ++ [key] ++ [toString i] ++ rest) =
      files.root.node? (spot ++ rest))
    (atGoal : ∀ rest, changed.root.node? (goal ++ rest) = files.root.node? (goal ++ rest)) :
    Copy changed ((store.entryFolder key).child (toString i)) path
      (place ++ [key] ++ [toString i]) goal := by
  rw [named.entryFolder_eq]
  refine ⟨isName_of_hidden [toString i] copy.named,
    sound_of_hidden [toString i] (by simp) copy.sound, fun rest => ?_,
    fun folder f same => ?_⟩
  · rw [atEntry, atGoal, copy.nodes]
  · have before : files.root.kind? goal = some .folder := by
      have here := atGoal []
      rw [List.append_nil] at here
      rwa [Folder.kind?, ← here]
    obtain ⟨deep, each⟩ := copy.fits before f fun rest => (same rest).trans (atGoal rest)
    refine ⟨deep, fun rest n nonempty there => ?_⟩
    obtain ⟨source, target, link, bounded⟩ := each rest n nonempty there
    rw [PathName.child_descend] at target ⊢
    exact ⟨source, sound_of_hidden _ (by simp) target, link, bounded⟩

/-- The parts were copied into the hidden folder one by one, nothing of that changed until the
folder was moved, and then it stood in its place as it was. -/
theorem Written.parts (written : Written store place key paths w v) (named : IsKey key)
    (arranged : Arranged store place v.files paths) (unlogged : Unlogged place w)
    (pathsUnlogged : PathsUnlogged v.files paths w) (simple : '/' ∉ w.unique.toList) :
    Parts v.files (store.entryFolder key) (place ++ [key]) 0 paths := by
  obtain @⟨unique, more, hidden, start, t, inCache, begun, fillable, saved, later, inEntry⟩ :=
    written.filled
  have within : inside place hidden := inCache simple
  have whole : Confined (inside place) start v := later.mono fun l => Or.rec inside_of_beneath
    (inside_below within)
  have inParts : Confined (partsFrom hidden 0) start t := by
    have confined := (saveParts_confined fillable paths).1
    rwa [saved] at confined
  have first : Confined (inside place) start t := inParts.mono fun l among =>
    inside_below within (partsFrom_beneath among)
  have arrangedStart := arranged.before whole
  have atStart {path : PathName} (among : path ∈ paths) {goal : Location} :
      v.files.Placed path goal ↔ start.files.Placed path goal :=
    arrangedStart.placed_iff whole.current whole.kinds among
  have unloggedStart : PathsUnlogged start.files paths start := fun path among goal placed l opened =>
    pathsUnlogged path among goal ((atStart among).mpr placed) l (begun.logs l opened)
  have parts := saveParts_parts arrangedStart (unlogged.after begun.toSameHost) unloggedStart fillable
    within saved
  constructor
  · intro j path found goal placed
    have among := List.mem_of_getElem? found
    have before := (atStart among).mp placed
    have outside := arrangedStart.outside path among goal before
    refine (parts.copies j path found goal
      ((arrangedStart.placed_iff first.current first.kinds among).mpr before)).of_hidden named
        (fun rest => ?_) fun rest => ?_
    · simpa using inEntry (0 + j) rest
    · have closed : .file (goal ++ rest) ∉ start.handlers := fun opened =>
        unloggedStart path among goal before _ opened (List.prefix_append goal rest)
      have elsewhere : ¬ inside place (goal ++ rest) := fun inner =>
        not_below_of_apart outside rest inner.1
      exact (whole.nodes _ elsewhere closed).trans (first.nodes _ elsewhere closed).symm
  · intro j path found missing
    have among := List.mem_of_getElem? found
    have before := arranged.missing_of_kinds whole.current.symm
      (fun l outside => (whole.kinds l outside).symm) among missing
    have absent := parts.absent j path found
      (arrangedStart.missing_of_kinds first.current first.kinds among before)
    have moved := inEntry (0 + j) []
    rw [Folder.kind?, Option.map_eq_none_iff] at absent ⊢
    rw [absent] at moved
    simpa using moved

end Saving

end CacheStore

end BuildBench
