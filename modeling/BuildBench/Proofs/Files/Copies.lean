import BuildBench.Proofs.Files.MakingFolders
import BuildBench.Proofs.Logging.Records

/-!
# Copies

A copy goes well exactly when the tree fits: no path name that it needs is too long, no link has an
empty target, and no folder lies too deep. Then the same tree stands at the target, and nothing else
was changed. A target that holds a part of the tree already may be copied over; all that fails then
is to make links that are there.
-/

namespace BuildBench

def Entry.kind? (e : Entry) (rest : Location) : Option Kind := (e.node? rest).map Node.kind

namespace Folder

/-- The path names of a folder's copy can all be used, its links can be made, and its folders do not
lie too deep. -/
def Fits (f : Folder) (depth : Nat) (source target : PathName) : Prop :=
  0 < depth ∧ ∀ rest n, rest ≠ [] → f.node? rest = some n →
    (source.descend rest).Sound ∧ (target.descend rest).Sound ∧ n ≠ .link "" ∧
      (n = .folder → rest.length < depth)

end Folder

/-- What an entry needs of its copy besides its own names. -/
def Entry.Fits (depth : Nat) (source target : PathName) : Entry → Prop
  | .file _ _ => True
  | .link text => text ≠ ""
  | .folder f => Folder.Fits f depth source target

namespace Folder

variable {f : Folder} {depth : Nat} {source target : PathName}

/-- A folder fits when its entries do. -/
theorem fits_succ_iff : f.Fits (depth + 1) source target ↔
    ∀ name e, f.lookup name = some e →
      (source.child name).Sound ∧ (target.child name).Sound ∧
        e.Fits depth (source.child name) (target.child name) := by
  constructor
  · rintro ⟨-, each⟩ name e held
    have found : ∀ rest, f.node? (name :: rest) = e.node? rest := by
      intro rest
      rw [node?_cons, held]
      rfl
    have own := each [name] e.node (by simp) (by rw [found]; simp [Entry.node?])
    refine ⟨own.1, own.2.1, ?_⟩
    cases e with
    | file content executable => trivial
    | link text =>
      intro none
      exact own.2.2.1 (by rw [none, Entry.node])
    | folder inner =>
      refine ⟨by simpa using own.2.2.2 rfl, fun rest n deeper there => ?_⟩
      have below := each (name :: rest) n (by simp) (by rw [found]; exact there)
      rw [PathName.child_descend, PathName.child_descend]
      exact ⟨below.1, below.2.1, below.2.2.1, fun opened => by simpa using below.2.2.2 opened⟩
  · intro each
    refine ⟨Nat.succ_pos _, fun rest n nonempty there => ?_⟩
    obtain ⟨name, more, rfl⟩ := List.exists_cons_of_ne_nil nonempty
    rw [node?_cons] at there
    obtain ⟨e, held, there⟩ := Option.bind_eq_some_iff.mp there
    obtain ⟨sourceSound, targetSound, fits⟩ := each name e held
    cases more with
    | nil =>
      obtain rfl : e.node = n := by simpa [Entry.node?] using there
      refine ⟨sourceSound, targetSound, ?_, fun opened => ?_⟩
      · cases e with
        | link text =>
          rintro ⟨⟩
          exact fits rfl
        | _ => rintro ⟨⟩
      · cases e with
        | folder inner => exact Nat.succ_lt_succ fits.1
        | _ => cases opened
    | cons next others =>
      cases e with
      | folder inner =>
        have below := fits.2 (next :: others) n (by simp) there
        rw [PathName.child_descend, PathName.child_descend] at below
        exact ⟨below.1, below.2.1, below.2.2.1, fun opened =>
          Nat.succ_lt_succ (below.2.2.2 opened)⟩
      | _ => cases there

end Folder

namespace Files

variable {files changed : Files} {last : Bool} {source target : PathName}
  {origin goal : Location} {e : Entry}

/-! ## One entry -/

/-- Only folders have something below them. -/
theorem kind?_below (closed : files.root.kind? goal ≠ some .folder) (name : String)
    (rest : Location) : files.root.kind? (goal ++ name :: rest) = none := by
  rw [Folder.kind?, Folder.node?_below closed]
  rfl

/-- What stands at the place after the change is the entry, so what stands below is what stands in
it. -/
theorem node?_put_below (nonempty : goal ≠ [])
    (parent : files.root.node? goal.dropLast = some .folder) (e : Entry) (rest : Location) :
    (files.put goal e).root.node? (goal ++ rest) = e.node? rest := by
  rw [put_root, Folder.node?_put e nonempty parent, if_pos (List.prefix_append _ _),
    List.drop_left]

/-- A place that is vacant was reached by a name, and one that holds something is in a tree in
order. -/
theorem Leads.namedWell (leads : files.Leads last target goal) (tidy : files.Tidy) :
    Folder.NamedWell goal := by
  cases held : files.root.at? goal with
  | none => exact leads.walks.named (Folder.kind?_eq_none.mpr held)
  | some e => exact (Folder.tidy_at? tidy held).2

/-- A leaf that is put where a path name leads. -/
theorem within_put_leaf (leads : files.Leads last target goal) (leaf : e.isFolder = false)
    (closed : files.root.kind? goal ≠ some .folder) : Within goal files (files.put goal e) := by
  have nonempty := Folder.nonempty_of_closed closed
  exact .put nonempty (leads.parent_folder nonempty) (.leaf leaf) leads.namedWell

/-- The name leads to the link itself, which is not followed. -/
theorem readLink_of_leads {text : String} (leads : files.Leads false source origin)
    (held : files.root.at? origin = some (.link text)) : files.readLink source = .ok text := by
  rw [readLink, leads.place, held]
  rfl

/-- A link was read, so the name led somewhere. -/
theorem readLink_ok {text : String} (read : files.readLink source = .ok text) :
    ∃ origin, files.Leads false source origin := by
  unfold readLink at read
  rcases placed : files.place false source with failure | place <;> rw [placed] at read
  · cases read
  · exact ⟨_, (leads_of_place placed).1⟩

/-- The place is vacant and the target is a name. -/
theorem makeLink_of_vacant {text : String} (leads : files.Leads false target goal)
    (vacant : files.root.kind? goal = none) (aimed : text ≠ "") :
    files.makeLink text target = .ok (files.put goal (.link text)) := by
  rw [makeLink, leads.place, Folder.kind?_eq_none.mp vacant]
  simp [bind, Except.bind, aimed]

/-- What stands there, be it a link itself, is in the way. -/
theorem makeLink_of_held {text : String} (leads : files.Leads false target goal)
    (held : files.root.kind? goal ≠ none) : files.makeLink text target = .error .exists := by
  cases found : files.root.at? goal with
  | none => exact absurd (Folder.kind?_eq_none.mpr found) held
  | some e =>
    rw [makeLink, leads.place, found]
    rfl

/-- A link was made, so nothing was in the way. -/
theorem makeLink_ok {text : String} (made : files.makeLink text target = .ok changed) :
    text ≠ "" ∧ ∃ goal, files.Leads false target goal ∧ files.root.kind? goal = none ∧
      changed = files.put goal (.link text) := by
  unfold makeLink at made
  rcases placed : files.place false target with failure | place <;> rw [placed] at made
  · cases made
  · simp only [bind, Except.bind] at made
    obtain ⟨leads, same⟩ := leads_of_place placed
    cases held : place.entry with
    | some e => simp [held] at made
    | none =>
      by_cases none : text = ""
      · simp [held, none] at made
      · simp only [held, String.isEmpty_iff, none, if_false, Except.ok.injEq] at made
        exact ⟨none, _, leads, Folder.kind?_eq_none.mpr (same.symm.trans held), made.symm⟩

/-- A file is seen from outside with all that it is. -/
theorem at?_of_node?_file {root : Folder} {location : Location} {content : ByteArray}
    {executable : Bool} (found : root.node? location = some (.file content executable)) :
    root.at? location = some (.file content executable) := by
  obtain ⟨e, held, same⟩ := Option.map_eq_some_iff.mp found
  cases e with
  | file _ _ => cases same; exact held
  | _ => cases same

/-- A path name that leads to a place of a file leads there after the file was put. -/
theorem leads_put_file {content : ByteArray} {executable : Bool}
    (leads : files.Leads true target goal) (closed : files.root.kind? goal ≠ some .folder)
    (plain : ∀ text, files.root.kind? goal ≠ some (.link text)) :
    (files.put goal (.file content executable)).Leads true target goal ∧
      (files.put goal (.file content executable)).root.at? goal =
        some (.file content executable) := by
  have nonempty := Folder.nonempty_of_closed closed
  have parent := leads.parent_folder nonempty
  have node : (files.put goal (.file content executable)).root.node? goal =
      some (.file content executable) := by
    simpa [Entry.node?, Entry.node] using
      node?_put_below nonempty parent (.file content executable) []
  refine ⟨⟨leads.short, leads.walks.of_grows (Folder.grows_put_leaf rfl nonempty parent ?_) ?_⟩,
    at?_of_node?_file node⟩
  · intro kind held
    cases kind with
    | file => rfl
    | link text => exact absurd held (plain text)
    | folder => exact absurd held closed
  · intro vacant text link
    rw [Folder.kind?, node] at link
    cases link

/-- A new file cannot be run, and an old one keeps its permission. -/
theorem write_of_leads (leads : files.Leads true target goal)
    (closed : files.root.kind? goal ≠ some .folder) (content : ByteArray) :
    ∃ executable, files.write target content =
      .ok (files.put goal (.file content executable)) := by
  rw [write, leads.place]
  rcases held : files.root.at? goal with _ | ⟨before, executable⟩ | text | f
  · exact ⟨false, rfl⟩
  · exact ⟨executable, rfl⟩
  · exact ⟨false, rfl⟩
  · exact absurd (Folder.kind?_of_at? held) closed

/-- There is a file, and it is put back with another permission. -/
theorem setExecutable_of_leads {content : ByteArray} {executable : Bool}
    (leads : files.Leads true target goal)
    (held : files.root.at? goal = some (.file content executable)) (wanted : Bool) :
    files.setExecutable target wanted = .ok (files.put goal (.file content wanted)) := by
  rw [setExecutable, leads.place, held]
  rfl

/-- A file is copied to another place where no folder and no link stands. -/
theorem copyFile_of_leads {content : ByteArray} {executable : Bool}
    (sourceLeads : files.Leads true source origin)
    (held : files.root.at? origin = some (.file content executable))
    (targetLeads : files.Leads true target goal) (different : goal ≠ origin)
    (closed : files.root.kind? goal ≠ some .folder)
    (plain : ∀ text, files.root.kind? goal ≠ some (.link text)) :
    ∃ changed, files.copyFile source target = .ok changed ∧ Within goal files changed ∧
      ∀ rest, changed.root.node? (goal ++ rest) =
        (Entry.file content executable).node? rest := by
  have chosen : files.copyGoal source target = target := by
    unfold copyGoal
    split
    · next asked =>
      obtain ⟨location, opens⟩ := opens_of_isFolder asked
      rw [targetLeads.unique opens.leads] at closed
      exact absurd opens.folder closed
    · rfl
  obtain ⟨before, written⟩ := write_of_leads targetLeads closed content
  obtain ⟨leadsAfter, heldAfter⟩ :=
    leads_put_file  targetLeads closed plain
  have marked := setExecutable_of_leads leadsAfter heldAfter executable
  have closedAfter : (files.put goal (.file content before)).root.kind? goal ≠ some .folder := by
    rw [Folder.kind?_of_at? heldAfter]
    exact nofun
  have nonempty := Folder.nonempty_of_closed closed
  refine ⟨_, ?_, (within_put_leaf targetLeads rfl closed).trans
    (within_put_leaf leadsAfter rfl closedAfter),
    node?_put_below nonempty (leadsAfter.parent_folder nonempty) _⟩
  rw [copyFile, sourceLeads.place, held]
  simp only [bind, Except.bind, chosen, targetLeads.place, different, if_false, written, marked]

/-- A folder has no such permission, and a file is put back. -/
theorem setExecutable_ok {wanted : Bool} (marked : files.setExecutable target wanted = .ok changed) :
    changed = files ∨ ∃ goal content, files.Leads true target goal ∧
      files.root.kind? goal = some .file ∧ changed = files.put goal (.file content wanted) := by
  unfold setExecutable at marked
  rcases placed : files.place true target with failure | place <;> rw [placed] at marked
  · cases marked
  · simp only [bind, Except.bind] at marked
    obtain ⟨leads, same⟩ := leads_of_place placed
    split at marked
    · next content before held =>
      cases marked
      exact .inr ⟨_, content, leads, Folder.kind?_of_at? (same.symm.trans held), rfl⟩
    · cases marked
      exact .inl rfl
    · cases marked

/-- A copy of a file has two places. It is written where its target leads, and then said to be a
program or not. -/
theorem copyFile_steps (copied : files.copyFile source target = .ok changed) :
    ∃ origin goal written content executable, files.place true source = .ok origin ∧
      files.place true (files.copyGoal source target) = .ok goal ∧
      files.write (files.copyGoal source target) content = .ok written ∧
      written.setExecutable (files.copyGoal source target) executable = .ok changed := by
  unfold copyFile at copied
  rcases placed : files.place true source with failure | place <;> rw [placed] at copied
  · cases copied
  · simp only [bind, Except.bind] at copied
    split at copied
    · cases copied
    · next content executable held =>
      split at copied
      · next goal there =>
        split at copied
        · cases copied
        · rcases written : files.write (files.copyGoal source target) content with e | after <;>
            rw [written] at copied
          · cases copied
          · exact ⟨place, goal, after, content, executable, rfl, there, written, copied⟩
      · cases copied
    · cases copied

/-- The name of a copy in a folder is longer than that of the folder. -/
theorem copyGoal_sound (sound : (files.copyGoal source target).Sound) : target.Sound := by
  unfold copyGoal at sound
  split at sound
  · next asked =>
    obtain ⟨location, opens⟩ := opens_of_isFolder asked
    exact opens.leads.sound
  · exact sound

/-- Both names led somewhere, and only names that are not too long do. -/
theorem copyFile_ok (copied : files.copyFile source target = .ok changed) :
    source.Sound ∧ target.Sound := by
  obtain ⟨_, _, _, _, _, placed, there, -, -⟩ := copyFile_steps copied
  exact ⟨(leads_of_place placed).1.sound, copyGoal_sound (leads_of_place there).1.sound⟩

/-! ## The folder that a copy goes into -/

/-- A folder is made where nothing stands. -/
theorem makeTarget_of_vacant (leads : files.Leads false target goal)
    (vacant : files.root.kind? goal = none) (merge : Bool) :
    files.makeTarget merge target = .ok (files.put goal (.folder [])) := by
  have followed := leads.followed (by simp [vacant])
  rw [makeTarget, followed.place, Folder.kind?_eq_none.mp vacant]
  exact makeFolders_of_vacant leads vacant

/-- When copies are merged a folder that is there will do. -/
theorem makeTarget_of_opens (opens : files.Opens target goal) :
    files.makeTarget true target = .ok files := by
  obtain ⟨f, held⟩ := Folder.at?_of_kind?_folder opens.folder
  rw [makeTarget, opens.leads.place, held]
  rfl

/-- The name was followed, or a folder was made under it. -/
theorem makeTarget_ok {merge : Bool} (made : files.makeTarget merge target = .ok changed) :
    target.Sound := by
  unfold makeTarget at made
  split at made
  · next placed => exact (leads_of_place placed).1.sound
  · obtain ⟨-, location, opens⟩ := makeFolders_ok made
    exact opens.leads.sound

/-! ## Results of copies -/

/-- Everything was copied. -/
structure CopyResult.Clean (result : CopyResult) : Prop where
  bounded : result.tooDeep = false
  whole : result.failures = []

/-- Failures of the second part come behind those of the first, and there are none. -/
theorem CopyResult.clean_andThen {result : CopyResult} {next : Files → CopyResult}
    (clean : (result.andThen next).Clean) : result.Clean ∧ (next result.files).Clean := by
  obtain ⟨bounded, whole⟩ := clean
  unfold CopyResult.andThen at bounded whole
  by_cases deep : result.tooDeep
  · simp [deep] at bounded
  · rw [if_neg deep] at bounded whole
    have both := List.append_eq_nil_iff.mp whole
    exact ⟨⟨by simpa using deep, both.1⟩, ⟨bounded, both.2⟩⟩

/-- A change that fails is a failure of the copy. -/
theorem CopyResult.clean_ofChange {operation : Except SystemError Files}
    (clean : (CopyResult.ofChange files target operation).Clean) :
    ∃ changed, operation = .ok changed := by
  cases operation with
  | ok changed => exact ⟨changed, rfl⟩
  | error failure => cases clean.whole

/-- An entry that is to be copied to a place. What stands there already stands in the entry too, and
is of the same kind. -/
structure Faces (merge : Bool) (files : Files) (origin goal : Location) (e : Entry) : Prop where
  held : files.root.at? origin = some e
  tidy : e.Tidy
  apart : Apart origin goal
  room : merge = true ∨ files.root.kind? goal = none
  alike : ∀ rest kind, files.root.kind? (goal ++ rest) = some kind → e.kind? rest = some kind

/-- An entry stands at its place, and nothing else was changed. What failed is to make links that
were there already. -/
structure Copied (files : Files) (goal : Location) (e : Entry) (result : CopyResult) : Prop where
  bounded : result.tooDeep = false
  within : Within goal files result.files
  stands : ∀ rest, result.files.root.node? (goal ++ rest) = e.node? rest
  failures : result.failures = [] ↔
    ∀ rest text, files.root.kind? (goal ++ rest) ≠ some (.link text)

/-- What stood there stands in the entry, with its kind, and all else stayed. -/
theorem Copied.grows {merge : Bool} {result : CopyResult} (copied : Copied files goal e result)
    (faces : Faces merge files origin goal e) : files.root.Grows result.files.root := by
  intro location kind held
  by_cases inside : goal <+: location
  · obtain ⟨rest, rfl⟩ := inside
    rw [Folder.kind?, copied.stands]
    exact faces.alike rest kind held
  · rw [Folder.kind?, copied.within.nodes location inside]
    exact held

/-- A vacant place gets the link. A link that stands there already is in the way, and stays. -/
theorem copyLink_copied {inner : PathName → PathName → Files → CopyResult} {merge : Bool}
    {text : String} (sourceLeads : files.Leads false source origin)
    (targetLeads : files.Leads false target goal)
    (faces : Faces merge files origin goal (.link text)) (aimed : text ≠ "") :
    Copied files goal (.link text) (copyEntry inner source target files (.link text)) := by
  have read := readLink_of_leads sourceLeads faces.held
  cases kind : files.root.kind? goal with
  | none =>
    have made := makeLink_of_vacant targetLeads kind aimed
    have nonempty := Folder.nonempty_of_vacant kind
    simp only [copyEntry, read, made, CopyResult.ofChange]
    refine ⟨rfl, within_put_leaf targetLeads rfl (by simp [kind]),
      node?_put_below nonempty (targetLeads.parent_folder nonempty) _, ?_⟩
    refine iff_of_true rfl fun rest other => ?_
    cases rest with
    | nil => simp [kind]
    | cons name more => simp [kind?_below (by simp [kind] : files.root.kind? goal ≠ some .folder)]
  | some there =>
    obtain rfl : .link text = there := by
      simpa [Entry.kind?, Entry.node?, Entry.node, Node.kind] using
        faces.alike [] there (by simpa using kind)
    have made : files.makeLink text target = .error .exists :=
      makeLink_of_held targetLeads (by simp [kind])
    simp only [copyEntry, read, made, CopyResult.ofChange]
    refine ⟨rfl, .refl _ _, fun rest => ?_, ?_⟩
    · cases rest with
      | nil =>
        have held := Folder.at?_of_kind?_link kind
        simp [Folder.node?, held, Entry.node?]
      | cons name more =>
        rw [Folder.node?_below (by simp [kind])]
        rfl
    · refine iff_of_false (by simp) fun none => ?_
      exact none [] text (by simpa using kind)

/-- Nothing but a file stands at the place, so it is written, and then marked as the source is. -/
theorem copyFile_of_faces {merge : Bool} {content : ByteArray} {executable : Bool}
    (sourceLeads : files.Leads false source origin) (targetLeads : files.Leads false target goal)
    (faces : Faces merge files origin goal (.file content executable)) :
    ∃ changed, files.copyFile source target = .ok changed ∧ Within goal files changed ∧
      (∀ rest, changed.root.node? (goal ++ rest) = (Entry.file content executable).node? rest) ∧
      ∀ rest text, files.root.kind? (goal ++ rest) ≠ some (.link text) := by
  have file : ∀ kind, files.root.kind? goal = some kind → kind = .file := by
    intro kind held
    simpa [Entry.kind?, Entry.node?, Entry.node, Node.kind, eq_comm] using
      faces.alike [] kind (by simpa using held)
  have closed : files.root.kind? goal ≠ some .folder := by
    intro opened
    cases file _ opened
  have plain : ∀ text, files.root.kind? goal ≠ some (.link text) := by
    intro text link
    cases file _ link
  have sourcePlain : ∀ text, files.root.kind? origin ≠ some (.link text) := by
    simp [Folder.kind?_of_at? faces.held, Entry.node, Node.kind]
  have different : goal ≠ origin := by
    rintro rfl
    exact faces.apart.1 (List.prefix_refl _)
  obtain ⟨changed, copied, within, stands⟩ := copyFile_of_leads (sourceLeads.followed sourcePlain)
    faces.held (targetLeads.followed plain) different closed plain
  refine ⟨changed, copied, within, stands, fun rest text => ?_⟩
  cases rest with
  | nil => simpa using plain text
  | cons name more => simp [kind?_below closed]

/-- Without a failure, as there is none for files. -/
theorem copyFile_copied {inner : PathName → PathName → Files → CopyResult} {merge : Bool}
    {content : ByteArray} {executable : Bool} (sourceLeads : files.Leads false source origin)
    (targetLeads : files.Leads false target goal)
    (faces : Faces merge files origin goal (.file content executable)) :
    Copied files goal (.file content executable)
      (copyEntry inner source target files (.file content executable)) := by
  obtain ⟨changed, copied, within, stands, spared⟩ :=
    copyFile_of_faces sourceLeads targetLeads faces
  simp only [copyEntry, copied, CopyResult.ofChange]
  exact ⟨rfl, within, stands, iff_of_true rfl spared⟩

/-! ## Folders -/

/-- What is to be copied from an open folder to another one: some of its entries, in their order. -/
structure Copying (merge : Bool) (files : Files) (source target : PathName)
    (origin goal : Location) (f todo : Folder) : Prop where
  from' : files.Opens source origin
  into : files.Opens target goal
  held : files.root.at? origin = some (.folder f)
  tidy : Entry.Tidy (.folder f)
  apart : Apart origin goal
  among : todo.Sublist f
  room : merge = true ∨ ∀ entry ∈ todo, files.root.kind? (goal ++ [entry.1]) = none
  alike : ∀ entry ∈ todo, ∀ rest kind, files.root.kind? (goal ++ entry.1 :: rest) = some kind →
    entry.2.kind? rest = some kind

/-- The copied entries stand in the folder, and nothing else was changed. -/
structure EntriesCopied (files : Files) (goal : Location) (todo : Folder) (result : CopyResult) :
    Prop where
  bounded : result.tooDeep = false
  within : Within goal files result.files
  stands : ∀ entry ∈ todo, ∀ rest,
    result.files.root.node? (goal ++ entry.1 :: rest) = entry.2.node? rest
  others : ∀ location, (∀ entry ∈ todo, ¬ goal ++ [entry.1] <+: location) →
    result.files.root.node? location = files.root.node? location
  failures : result.failures = [] ↔ ∀ entry ∈ todo, ∀ rest text,
    files.root.kind? (goal ++ entry.1 :: rest) ≠ some (.link text)

section Entries

variable {merge : Bool} {f todo : Folder} {name : String} {depth : Nat} {result : CopyResult}

/-- The entry is the one that the folder has under its name, and what stands at the place is part of
it. -/
theorem Copying.faces (copying : Copying merge files source target origin goal f
    ((name, e) :: todo)) : Faces merge files (origin ++ [name]) (goal ++ [name]) e where
  held := by
    rw [Folder.at?_child copying.held]
    exact copying.tidy.ordered.lookup_of_mem (copying.among.subset (List.mem_cons_self ..))
  tidy := copying.tidy.inner _ (copying.among.subset (List.mem_cons_self ..))
  apart := (copying.apart.below (List.prefix_append ..)).symm.below (List.prefix_append ..) |>.symm
  room := copying.room.imp_right fun vacant => vacant _ (List.mem_cons_self ..)
  alike rest kind held := by
    refine copying.alike _ (List.mem_cons_self ..) rest kind ?_
    rwa [List.append_assoc] at held

/-- The folder is in order, so its names are proper. -/
theorem Copying.named (copying : Copying merge files source target origin goal f
    ((name, e) :: todo)) : name ≠ "." ∧ name ≠ ".." :=
  copying.tidy.ordered.named _ (copying.among.subset (List.mem_cons_self ..))

/-- The entries that follow have other names. -/
theorem Copying.different (copying : Copying merge files source target origin goal f
    ((name, e) :: todo)) : ∀ entry ∈ todo, name ≠ entry.1 := by
  have sorted := copying.tidy.ordered.sorted.sublist copying.among
  exact fun entry member => String.ne_of_lt ((List.pairwise_cons.mp sorted).1 entry member)

/-- The two names differ right behind the location. -/
theorem not_prefix_child {other : String} (different : name ≠ other) (location rest : Location) :
    ¬ location ++ [name] <+: location ++ other :: rest := by
  simp [List.prefix_append_right_inj, List.cons_prefix_cons, different]

/-- After one entry was copied the others can be. -/
theorem Copying.next (copying : Copying merge files source target origin goal f
    ((name, e) :: todo)) (copied : Copied files (goal ++ [name]) e result) :
    Copying merge result.files source target origin goal f todo := by
  have grows := copied.grows copying.faces
  have current := copied.within.current
  have same : ∀ entry ∈ todo, ∀ rest, result.files.root.kind? (goal ++ entry.1 :: rest) =
      files.root.kind? (goal ++ entry.1 :: rest) := by
    intro entry member rest
    have outside := not_prefix_child (copying.different entry member) goal rest
    rw [Folder.kind?, copied.within.nodes _ outside]
    rfl
  refine ⟨copying.from'.of_grows grows current, copying.into.of_grows grows current, ?_,
    copying.tidy, copying.apart, .trans (List.sublist_cons_self ..) copying.among, ?_, ?_⟩
  · have outside := copying.apart.below (List.prefix_append goal [name])
    rw [copied.within.entries _ outside.symm, copying.held]
  · refine copying.room.imp_right fun vacant entry member => ?_
    rw [same entry member []]
    exact vacant entry (List.mem_cons_of_mem _ member)
  · intro entry member rest kind held
    rw [same entry member rest] at held
    exact copying.alike entry (List.mem_cons_of_mem _ member) rest kind held

/-- The copy has not gone too deep, so it goes on. -/
theorem CopyResult.andThen_of_bounded {next : Files → CopyResult}
    (bounded : result.tooDeep = false) :
    result.andThen next = { next result.files with
      failures := result.failures ++ (next result.files).failures } := by
  simp [CopyResult.andThen, bounded]

/-- One entry after the other. -/
theorem EntriesCopied.cons {next : Files → CopyResult}
    (copying : Copying merge files source target origin goal f ((name, e) :: todo))
    (first : Copied files (goal ++ [name]) e result)
    (later : EntriesCopied result.files goal todo (next result.files)) :
    EntriesCopied files goal ((name, e) :: todo) (result.andThen next) := by
  rw [CopyResult.andThen_of_bounded first.bounded]
  have different := copying.different
  refine ⟨later.bounded, (first.within.widen (List.prefix_append ..)).trans later.within, ?_, ?_, ?_⟩
  · intro entry member rest
    rcases List.mem_cons.mp member with rfl | there
    · have outside := fun entry member =>
        not_prefix_child (different entry member).symm goal rest
      rw [later.others _ outside]
      simpa using first.stands rest
    · exact later.stands entry there rest
  · intro location outside
    rw [later.others location fun entry member => outside entry (List.mem_cons_of_mem _ member),
      first.within.nodes location (outside _ (List.mem_cons_self ..))]
  · have unchanged : ∀ entry ∈ todo, ∀ rest,
        result.files.root.kind? (goal ++ entry.1 :: rest) =
          files.root.kind? (goal ++ entry.1 :: rest) := by
      intro entry member rest
      have outside := not_prefix_child (different entry member) goal rest
      rw [Folder.kind?, first.within.nodes _ outside]
      rfl
    rw [List.append_eq_nil_iff, first.failures, later.failures]
    constructor
    · rintro ⟨here, there⟩ entry member rest text
      rcases List.mem_cons.mp member with rfl | inRest
      · simpa using here rest text
      · rw [← unchanged entry inRest rest]
        exact there entry inRest rest text
    · intro none
      refine ⟨fun rest text => ?_, fun entry member rest text => ?_⟩
      · simpa using none _ (List.mem_cons_self ..) rest text
      · rw [unchanged entry member rest]
        exact none entry (List.mem_cons_of_mem _ member) rest text

/-- A folder has a copy under some depth when all that fits was copied. -/
def CopiesFolders (merge : Bool) (depth : Nat) : Prop :=
  ∀ {files : Files} {source target : PathName} {origin goal : Location} {f : Folder},
    files.Leads false source origin → files.Leads false target goal →
      Faces merge files origin goal (.folder f) → f.Fits depth source target →
        Copied files goal (.folder f) (copyFolder merge depth source target files)

/-- By the kind of the entry. Folders have a copy under that depth by assumption. -/
theorem copyEntry_copied (inner : CopiesFolders merge depth)
    (sourceLeads : files.Leads false source origin) (targetLeads : files.Leads false target goal)
    (faces : Faces merge files origin goal e) (fits : e.Fits depth source target) :
    Copied files goal e (copyEntry (copyFolder merge depth) source target files e) := by
  cases e with
  | file content executable => exact copyFile_copied sourceLeads targetLeads faces
  | link text => exact copyLink_copied sourceLeads targetLeads faces fits
  | folder f => exact inner sourceLeads targetLeads faces fits

/-- By induction on the entries that are left. What was copied before stands beside the next one and
changes nothing of it. -/
theorem copyEntries_copied (inner : CopiesFolders merge depth)
    (copying : Copying merge files source target origin goal f todo)
    (fits : ∀ entry ∈ todo, (source.child entry.1).Sound ∧ (target.child entry.1).Sound ∧
      entry.2.Fits depth (source.child entry.1) (target.child entry.1)) :
    EntriesCopied files goal todo
      (copyEntries (copyFolder merge depth) source target todo files) := by
  induction todo generalizing files with
  | nil =>
    exact ⟨rfl, .refl _ _, nofun, fun _ _ => rfl, iff_of_true rfl nofun⟩
  | cons first rest ih =>
    obtain ⟨name, e⟩ := first
    obtain ⟨notDot, notUp⟩ := copying.named
    obtain ⟨sourceSound, targetSound, fitsEntry⟩ := fits _ (List.mem_cons_self ..)
    have copied := copyEntry_copied inner (copying.from'.child notDot notUp sourceSound)
      (copying.into.child notDot notUp targetSound) copying.faces fitsEntry
    exact .cons copying copied (ih (copying.next copied) fun entry member =>
      fits entry (List.mem_cons_of_mem _ member))

end Entries

/-- The folder that a copy goes into is open afterwards and holds what it held. -/
theorem makeTarget_of_faces {merge : Bool} {f : Folder}
    (leads : files.Leads false target goal)
    (faces : Faces merge files origin goal (.folder f)) :
    ∃ made, files.makeTarget merge target = .ok made ∧ made.Opens target goal ∧
      Within goal files made ∧ files.root.Grows made.root ∧
      ∀ name rest, made.root.kind? (goal ++ name :: rest) =
        files.root.kind? (goal ++ name :: rest) := by
  cases kind : files.root.kind? goal with
  | none =>
    refine ⟨_, makeTarget_of_vacant leads kind merge, opens_put_empty leads kind,
      within_put_empty leads kind, grows_put_empty leads kind, fun name rest => ?_⟩
    rw [Folder.kind?, node?_put_empty leads kind, if_neg (by simp)]
    rfl
  | some there =>
    obtain rfl : .folder = there := by
      simpa [Entry.kind?, Node.kind] using faces.alike [] there (by simpa using kind)
    have merges : merge = true := faces.room.resolve_right (by simp [kind])
    have opens : files.Opens target goal := ⟨leads.followed (by simp [kind]), kind⟩
    subst merges
    exact ⟨files, makeTarget_of_opens opens, opens, .refl _ _, .refl _, fun _ _ => rfl⟩

/-- The name leads to the folder. -/
theorem lookUp_of_opens {f : Folder} (opens : files.Opens source origin)
    (held : files.root.at? origin = some (.folder f)) : files.lookUp source = .ok (.folder f) := by
  rw [lookUp, opens.leads.place, held]
  rfl

/-- Something was found, so the name led there. -/
theorem lookUp_ok (found : files.lookUp source = .ok e) :
    ∃ origin, files.Leads true source origin ∧ files.root.at? origin = some e := by
  unfold lookUp at found
  rcases placed : files.place true source with failure | place <;> rw [placed] at found
  · cases found
  · obtain ⟨leads, same⟩ := leads_of_place placed
    refine ⟨_, leads, ?_⟩
    simp only [bind, Except.bind] at found
    split at found
    · next held => cases found; exact same.symm.trans held
    · cases found

/-- What is found in a tree in order is in order itself. -/
theorem tidy_of_lookUp (tidy : files.Tidy) (found : files.lookUp source = .ok e) : e.Tidy := by
  obtain ⟨origin, -, held⟩ := lookUp_ok found
  exact (Folder.tidy_at? tidy held).1

/-- What stands in the target under some name stands in the folder under this name. -/
theorem Faces.lookup {merge : Bool} {f : Folder} {name : String} {rest : Location} {kind : Kind}
    (faces : Faces merge files origin goal (.folder f))
    (held : files.root.kind? (goal ++ name :: rest) = some kind) :
    ∃ e, f.lookup name = some e ∧ e.kind? rest = some kind := by
  have whole := faces.alike _ _ held
  rw [Entry.kind?, Entry.node?_folder, Folder.node?_cons] at whole
  cases found : f.lookup name with
  | none => rw [found] at whole; cases whole
  | some e => exact ⟨e, rfl, by rwa [found] at whole⟩

/-- What is copied once the target is there. -/
theorem copying_of_faces {merge : Bool} {f : Folder} {made : Files}
    (opens : files.Opens source origin) (faces : Faces merge files origin goal (.folder f))
    (into : made.Opens target goal) (within : Within goal files made)
    (grows : files.root.Grows made.root)
    (inner : ∀ name rest, made.root.kind? (goal ++ name :: rest) =
      files.root.kind? (goal ++ name :: rest)) :
    Copying merge made source target origin goal f f := by
  refine ⟨opens.of_grows grows within.current, into, ?_, faces.tidy, faces.apart, .refl _, ?_, ?_⟩
  · rw [within.entries _ faces.apart.symm, faces.held]
  · refine faces.room.imp_right fun vacant entry member => ?_
    rw [inner entry.1 []]
    exact kind?_below (by simp [vacant]) _ _
  · intro entry member rest kind held
    rw [inner entry.1 rest] at held
    obtain ⟨e, found, alike⟩ := faces.lookup held
    cases found.symm.trans (faces.tidy.ordered.lookup_of_mem member)
    exact alike

section Whole

variable {merge : Bool} {f : Folder} {made : Files} {result : CopyResult}

/-- Once the entries are copied the whole folder stands in the target. -/
theorem EntriesCopied.whole (copied : EntriesCopied made goal f result)
    (faces : Faces merge files origin goal (.folder f)) (into : made.Opens target goal)
    (inner : ∀ name rest, made.root.kind? (goal ++ name :: rest) =
      files.root.kind? (goal ++ name :: rest)) (rest : Location) :
    result.files.root.node? (goal ++ rest) = (Entry.folder f).node? rest := by
  cases rest with
  | nil =>
    have there := copied.others goal fun entry member inside =>
      absurd inside.length_le (by simp)
    rw [List.append_nil, there, Folder.kind?_eq_folder_iff.mp into.folder, Entry.node?_folder,
      Folder.node?_nil]
  | cons name more =>
    rw [Entry.node?_folder, Folder.node?_cons]
    cases held : f.lookup name with
    | some e => exact copied.stands (name, e) (Folder.mem_of_lookup held) more
    | none =>
      -- What the folder does not have did not stand at the target either.
      have outside : ∀ entry ∈ f, ¬ goal ++ [entry.1] <+: goal ++ name :: more := by
        intro entry member
        refine not_prefix_child ?_ goal more
        rintro rfl
        cases held.symm.trans (faces.tidy.ordered.lookup_of_mem member)
      rw [copied.others _ outside, Option.bind_none, Folder.node?_eq_none, inner]
      refine Option.eq_none_iff_forall_ne_some.mpr fun kind there => ?_
      obtain ⟨e, found, -⟩ := faces.lookup there
      cases held.symm.trans found

/-- No link stands in the target if none stands where an entry is copied to. -/
theorem Faces.no_links_iff (faces : Faces merge files origin goal (.folder f))
    (inner : ∀ name rest, made.root.kind? (goal ++ name :: rest) =
      files.root.kind? (goal ++ name :: rest)) :
    (∀ entry ∈ f, ∀ rest text, made.root.kind? (goal ++ entry.1 :: rest) ≠ some (.link text)) ↔
      ∀ rest text, files.root.kind? (goal ++ rest) ≠ some (.link text) := by
  constructor
  · intro none rest text there
    cases rest with
    | nil => cases faces.alike _ _ there
    | cons name more =>
      obtain ⟨e, held, -⟩ := faces.lookup there
      refine none (name, e) (Folder.mem_of_lookup held) more text ?_
      rw [inner]
      exact there
  · intro none entry member rest text there
    rw [inner] at there
    exact none _ _ there

end Whole

/-- A folder that fits is copied. -/
theorem copyFolder_copied (merge : Bool) (depth : Nat) : CopiesFolders merge depth := by
  induction depth with
  | zero => exact fun _ _ _ fits => absurd fits.1 (Nat.lt_irrefl 0)
  | succ depth ih =>
    intro files source target origin goal f sourceLeads targetLeads faces fits
    have folder : files.root.kind? origin = some .folder := Folder.kind?_of_at? faces.held
    have opens : files.Opens source origin := ⟨sourceLeads.followed (by simp [folder]), folder⟩
    obtain ⟨made, target', into, within, grows, inner⟩ := makeTarget_of_faces targetLeads faces
    have copying := copying_of_faces opens faces into within grows inner
    have each := Folder.fits_succ_iff.mp fits
    have copied := copyEntries_copied ih copying fun entry member =>
      each entry.1 entry.2 (faces.tidy.ordered.lookup_of_mem member)
    simp only [copyFolder, lookUp_of_opens opens faces.held, target']
    exact ⟨copied.bounded, within.trans copied.within, copied.whole faces into inner,
      copied.failures.trans (faces.no_links_iff inner)⟩

/-! ## Copies that went well -/

section Clean

variable {merge : Bool} {f todo : Folder} {depth : Nat}

/-- The path names of an entry that was copied can be used. -/
theorem copyEntry_sound
    (clean : (copyEntry (copyFolder merge depth) source target files e).Clean) :
    source.Sound ∧ target.Sound := by
  cases e with
  | file content executable =>
    obtain ⟨changed, copied⟩ := CopyResult.clean_ofChange clean
    exact copyFile_ok copied
  | link text =>
    simp only [copyEntry] at clean
    split at clean
    · cases clean.whole
    · next read =>
      obtain ⟨origin, sourceLeads⟩ := readLink_ok read
      obtain ⟨changed, made⟩ := CopyResult.clean_ofChange clean
      obtain ⟨-, goal, targetLeads, -⟩ := makeLink_ok made
      exact ⟨sourceLeads.sound, targetLeads.sound⟩
  | folder inner =>
    cases depth with
    | zero => cases clean.bounded
    | succ depth =>
      simp only [copyEntry, copyFolder] at clean
      split at clean
      · cases clean.whole
      · next found =>
        split at clean
        · cases clean.whole
        · next made =>
          refine ⟨?_, makeTarget_ok made⟩
          unfold lookUp at found
          rcases placed : files.place true source with failure | place <;> rw [placed] at found
          · cases found
          · exact (leads_of_place placed).1.sound
      · cases clean.whole

/-- A folder that was copied as a whole fits. -/
def FitsWhenCopied (merge : Bool) (depth : Nat) : Prop :=
  ∀ {files : Files} {source target : PathName} {origin goal : Location} {f : Folder},
    files.Leads false source origin → files.Leads false target goal →
      Faces merge files origin goal (.folder f) →
        (copyFolder merge depth source target files).Clean → f.Fits depth source target

/-- By the kind of the entry: a link was made, so it has a target, and a folder was copied under
less depth. -/
theorem copyEntry_fits (inner : FitsWhenCopied merge depth)
    (sourceLeads : files.Leads false source origin) (targetLeads : files.Leads false target goal)
    (faces : Faces merge files origin goal e)
    (clean : (copyEntry (copyFolder merge depth) source target files e).Clean) :
    e.Fits depth source target := by
  cases e with
  | file content executable => trivial
  | link text =>
    simp only [copyEntry, readLink_of_leads sourceLeads faces.held] at clean
    obtain ⟨changed, made⟩ := CopyResult.clean_ofChange clean
    exact (makeLink_ok made).1
  | folder f => exact inner sourceLeads targetLeads faces clean

/-- By induction on the entries that are left: each of them was copied, and so were those behind it.
-/
theorem copyEntries_fits (inner : FitsWhenCopied merge depth)
    (copying : Copying merge files source target origin goal f todo)
    (clean : (copyEntries (copyFolder merge depth) source target todo files).Clean) :
    ∀ entry ∈ todo, (source.child entry.1).Sound ∧ (target.child entry.1).Sound ∧
      entry.2.Fits depth (source.child entry.1) (target.child entry.1) := by
  induction todo generalizing files with
  | nil => exact nofun
  | cons first rest ih =>
    obtain ⟨name, e⟩ := first
    obtain ⟨notDot, notUp⟩ := copying.named
    obtain ⟨cleanFirst, cleanLater⟩ := CopyResult.clean_andThen clean
    obtain ⟨sourceSound, targetSound⟩ := copyEntry_sound cleanFirst
    have sourceLeads := copying.from'.child notDot notUp sourceSound
    have targetLeads := copying.into.child notDot notUp targetSound
    have fits := copyEntry_fits inner sourceLeads targetLeads copying.faces cleanFirst
    have copied := copyEntry_copied (copyFolder_copied merge depth) sourceLeads targetLeads
      copying.faces fits
    intro entry member
    rcases List.mem_cons.mp member with rfl | there
    · exact ⟨sourceSound, targetSound, fits⟩
    · exact ih (copying.next copied) cleanLater entry there

/-- By induction on the depth. At depth zero no copy is clean. -/
theorem copyFolder_fits (merge : Bool) (depth : Nat) : FitsWhenCopied merge depth := by
  induction depth with
  | zero => exact fun _ _ _ clean => nomatch clean.bounded
  | succ depth ih =>
    intro files source target origin goal f sourceLeads targetLeads faces clean
    have folder : files.root.kind? origin = some .folder := Folder.kind?_of_at? faces.held
    have opens : files.Opens source origin := ⟨sourceLeads.followed (by simp [folder]), folder⟩
    obtain ⟨made, target', into, within, grows, inner⟩ := makeTarget_of_faces targetLeads faces
    have copying := copying_of_faces opens faces into within grows inner
    simp only [copyFolder, lookUp_of_opens opens faces.held, target'] at clean
    have each := copyEntries_fits ih copying clean
    exact Folder.fits_succ_iff.mpr fun name e held => each (name, e) (Folder.mem_of_lookup held)

end Clean

end Files

end BuildBench
