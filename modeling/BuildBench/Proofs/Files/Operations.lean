import BuildBench.Files.Change
import BuildBench.Proofs.Files.Leads

/-!
# What the operations on files do

Each operation that succeeds puts one entry at the location that its path name leads to, or takes
the entry there away. What it does to the kinds of the entries says to which places other path names
lead afterwards.
-/

namespace BuildBench

namespace Folder

variable {root : Folder} {last : Bool} {links : Nat} {here goal location : Location}
  {parts : List String}

/-- The root is a folder. -/
theorem kind?_nil (root : Folder) : root.kind? [] = some .folder := by
  simp [kind?, Node.kind]

/-- The root is a folder, and this is none. -/
theorem nonempty_of_closed (closed : root.kind? location ≠ some .folder) : location ≠ [] := by
  rintro rfl
  exact closed (kind?_nil root)

/-- Folders have nothing to be told apart by. -/
theorem kind?_eq_folder_iff : root.kind? location = some .folder ↔
    root.node? location = some .folder := by
  rw [kind?, Option.map_eq_some_iff]
  constructor
  · rintro ⟨n, found, same⟩
    cases n with
    | folder => exact found
    | _ => cases same
  · exact fun found => ⟨.folder, found, rfl⟩

/-- A name whose entry is missing leads to a place in a folder. -/
theorem Leads.above (leads : Leads root last links here parts goal)
    (missing : root.kind? goal = none) : root.kind? goal.dropLast = some .folder := by
  induction leads with
  | here found => exact absurd missing found
  | stop proper opened stops => rwa [List.dropLast_concat]
  | dot opened next ih => exact ih missing
  | up opened next ih => exact ih missing
  | into proper opened next ih => exact ih missing
  | follow proper found further aimed next ih => exact ih missing

/-- Either something stands at the end, which then is in a folder, or the walk looked for it in one.
-/
theorem Leads.parent_folder (leads : Leads root last links here parts goal) (nonempty : goal ≠ []) :
    root.node? goal.dropLast = some .folder := by
  rw [← kind?_eq_folder_iff]
  cases held : root.kind? goal with
  | none => exact leads.above held
  | some kind =>
    have found : goal.dropLast ++ [goal.getLast nonempty] = goal := List.dropLast_concat_getLast _
    exact kind?_of_child (found.symm ▸ held)

/-- When links at the end are followed, a walk ends at a link only if it does not go anywhere. -/
theorem Leads.at_link {target : String} (leads : Leads root true links here parts goal)
    (link : root.kind? goal = some (.link target)) : goal = here ∧ parts = [] := by
  induction leads with
  | here found => exact ⟨rfl, rfl⟩
  | dot opened next ih =>
    obtain ⟨rfl, -⟩ := ih link
    simp [opened] at link
  | @up links here goal rest opened next ih =>
    obtain ⟨rfl, -⟩ := ih link
    have above : root.kind? here.dropLast = some .folder := by
      cases here with
      | nil => exact opened
      | cons name more =>
        have found : (name :: more).dropLast ++ [(name :: more).getLast (by simp)] = name :: more :=
          List.dropLast_concat_getLast _
        exact kind?_of_child (found.symm ▸ opened)
    simp [above] at link
  | into proper opened next ih =>
    obtain ⟨rfl, -⟩ := ih link
    simp [opened] at link
  | stop proper opened stops => cases stops.2 _ link
  | @follow links here goal name target rest proper found further aimed next ih =>
    obtain ⟨rfl, -⟩ := ih link
    have base : root.kind? (targetBase here target) = some .folder := by
      rw [targetBase]
      split
      · exact kind?_nil root
      · exact kind?_of_child found
    simp [base] at link

/-! ## Kinds after a change -/

/-- What stood there is of the same kind, and nothing stood below it. -/
theorem grows_put_leaf {e : Entry} (leaf : e.isFolder = false) (nonempty : location ≠ [])
    (parent : root.node? location.dropLast = some .folder)
    (same : ∀ kind, root.kind? location = some kind → kind = e.node.kind) :
    root.Grows (root.put e location) := by
  have closed : root.node? location ≠ some .folder := by
    intro opened
    have folder := same _ (kind?_eq_folder_iff.mpr opened)
    cases e <;> simp [Entry.isFolder, Entry.node, Node.kind] at leaf folder
  intro other kind held
  rw [kind?, node?_put_leaf leaf nonempty parent closed]
  split
  · next here =>
    subst here
    rw [same kind held]
    rfl
  · exact held

/-- Taking something away adds nothing. -/
theorem grows_of_remove (nonempty : location ≠ []) : (root.remove location).Grows root := by
  intro other kind held
  rw [kind?, node?_remove nonempty] at held
  split at held
  · cases held
  · exact held

end Folder

namespace Files

variable {files changed : Files} {last : Bool} {path : PathName} {goal : Location}

/-- As for the walk. -/
theorem Leads.parent_folder (leads : files.Leads last path goal) (nonempty : goal ≠ []) :
    files.root.node? goal.dropLast = some .folder := leads.walks.parent_folder nonempty

/-- By definition. -/
@[simp]
theorem put_root (files : Files) (location : Location) (e : Entry) :
    (files.put location e).root = files.root.put e location := rfl

/-- By definition. -/
@[simp]
theorem put_current (files : Files) (location : Location) (e : Entry) :
    (files.put location e).current = files.current := rfl

/-! ## Writing -/

/-- A file was written, so no folder was in the way. -/
theorem write_ok {content : ByteArray} (written : files.write path content = .ok changed) :
    ∃ location executable, files.Leads true path location ∧
      files.root.kind? location ≠ some .folder ∧
      changed = files.put location (.file content executable) := by
  unfold write at written
  rcases placed : files.place true path with e | place <;> rw [placed] at written
  · cases written
  · obtain ⟨leads, same⟩ := leads_of_place placed
    simp only [bind, Except.bind, same] at written
    refine ⟨place.location, ?_⟩
    rcases held : files.root.at? place.location with _ | ⟨before, executable⟩ | target | f <;>
      rw [held] at written
    · cases written
      exact ⟨false, leads, by simp [Folder.kind?_eq_none.mpr held], rfl⟩
    · cases written
      exact ⟨executable, leads, by simp [Folder.kind?_of_at? held, Entry.node, Node.kind], rfl⟩
    · cases written
      exact ⟨false, leads, by simp [Folder.kind?_of_at? held, Entry.node, Node.kind], rfl⟩
    · cases written

/-- A file that is put where a path name leads is found under that name. -/
theorem lookUp_put_file {content : ByteArray} {executable : Bool}
    (leads : files.Leads true path goal) (closed : files.root.kind? goal ≠ some .folder) :
    (files.put goal (.file content executable)).lookUp path =
      .ok (.file content executable) := by
  have nonempty := Folder.nonempty_of_closed closed
  have parent := leads.parent_folder nonempty
  have closedNode : files.root.node? goal ≠ some .folder :=
    fun opened => closed (Folder.kind?_eq_folder_iff.mpr opened)
  have node : (files.root.put (.file content executable) goal).node? goal =
      some (.file content executable) := by
    rw [Folder.node?_put_leaf rfl nonempty parent closedNode, if_pos rfl]
    rfl
  have kind : (files.root.put (.file content executable) goal).kind? goal = some .file := by
    rw [Folder.kind?, node]
    rfl
  have leadsAfter : (files.put goal (.file content executable)).Leads true path goal := by
    refine ⟨leads.short, ?_⟩
    by_cases link : ∃ target, files.root.kind? goal = some (.link target)
    · -- The link was not followed, so the name has no components.
      obtain ⟨target, link⟩ := link
      obtain ⟨rfl, none⟩ := leads.walks.at_link link
      rw [none]
      exact .here (by rw [put_root, start] at *; simpa [start] using kind ▸ Option.some_ne_none _)
    · refine leads.walks.of_grows (Folder.grows_put_leaf rfl nonempty parent ?_) ?_
      · intro kind held
        cases kind with
        | file => rfl
        | link target => exact absurd ⟨target, held⟩ link
        | folder => exact absurd held closed
      · intro _ target found
        rw [put_root, kind] at found
        cases found
  rw [lookUp, leadsAfter.place]
  obtain ⟨e, held, same⟩ := Option.map_eq_some_iff.mp node
  cases e with
  | file _ _ => cases same; simp only [put_root, held, bind, Except.bind]
  | _ => cases same

/-! ## Taking away -/

/-- Something was unlinked, so it was no folder. -/
theorem unlink_ok (unlinked : files.unlink path = .ok changed) :
    ∃ location, files.Leads false path location ∧
      files.root.kind? location ≠ some .folder ∧
      changed = { files with root := files.root.remove location } := by
  unfold unlink at unlinked
  rcases placed : files.place false path with e | place <;> rw [placed] at unlinked
  · cases unlinked
  · obtain ⟨leads, same⟩ := leads_of_place placed
    simp only [bind, Except.bind, same] at unlinked
    refine ⟨place.location, leads, ?_⟩
    rcases held : files.root.at? place.location with _ | ⟨before, executable⟩ | target | f <;>
      rw [held] at unlinked <;> cases unlinked <;>
      exact ⟨by simp [Folder.kind?_of_at? held, Entry.node, Node.kind], rfl⟩

/-- Nothing stands where a path name leads, not even a link that leads nowhere. -/
def IsVacant (files : Files) (path : PathName) : Prop :=
  ∀ place, files.place false path = .ok place → place.entry = none

/-- Where something was taken away nothing stands. -/
theorem vacant_of_unlink (unlinked : files.unlink path = .ok changed) : changed.IsVacant path := by
  obtain ⟨location, leads, closed, rfl⟩ := unlink_ok unlinked
  have nonempty := Folder.nonempty_of_closed closed
  intro place placed
  obtain ⟨leadsAfter, same⟩ := leads_of_place placed
  rw [same, ← Folder.kind?_eq_none]
  refine Classical.byContradiction fun held => ?_
  have leadsBefore : files.Leads false path place.location :=
    leadsAfter.of_grows_held (Folder.grows_of_remove nonempty) rfl held
  rw [leadsBefore.unique leads] at held
  exact held (by simp [Folder.kind?, Folder.node?_remove nonempty])

/-- A name leads nowhere when neither something nor a link is found under it. -/
theorem vacant_of_not_found (absent : files.exists? path = .ok false)
    (unlinked : files.isLink path = .ok false) : files.IsVacant path := by
  intro place placed
  obtain ⟨leads, same⟩ := leads_of_place placed
  rcases held : files.root.at? place.location with _ | e
  · rw [same, held]
  · have noLink : ∀ target, files.root.kind? place.location ≠ some (.link target) := by
      intro target link
      have found := Folder.at?_of_kind?_link link
      rw [isLink, placed] at unlinked
      simp [same, found, Entry.isLink] at unlinked
    have leadsOn : files.Leads true path place.location :=
      ⟨leads.short, leads.walks.followed noLink⟩
    have found : files.lookUp path = .ok e := by
      rw [lookUp, leadsOn.place, held]
      rfl
    simp [exists?, check, found] at absent

end Files

end BuildBench
