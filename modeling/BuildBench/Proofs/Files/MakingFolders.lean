import BuildBench.Proofs.Files.TidyTrees

/-!
# Making folders

What the operations that make folders need and what they leave: an operation succeeds where its path
name leads to a vacant place, and what it made is found under that name.
-/

namespace BuildBench

/-- The path name of what lies below along some names. -/
def PathName.descend (path : PathName) (names : List String) : PathName :=
  ⟨path.anchor, path.parts ++ names⟩

/-- Neither the whole path name nor its last component is too long. -/
structure PathName.Sound (path : PathName) : Prop where
  short : path.isLong = false
  name : isLongName path.name = false

/-- The child is the last component. -/
theorem PathName.name_child (path : PathName) (name : String) : (path.child name).name = name := by
  simp [PathName.name, PathName.child]

/-- The child is the first of the names to go down. -/
theorem PathName.child_descend (path : PathName) (name : String) (names : List String) :
    (path.child name).descend names = path.descend (name :: names) := by
  simp [PathName.child, PathName.descend]

/-- A path name that is not its own parent is that of an entry below its parent. -/
theorem PathName.descend_of_parent {path : PathName} (proper : ¬ path.parent = path)
    (more : List String) : path.parent.descend (path.name :: more) = path.descend more := by
  rcases path with ⟨anchor, parts⟩
  rcases List.eq_nil_or_concat parts with rfl | ⟨above, last, rfl⟩
  · exact absurd rfl proper
  · simp [parent, descend, name]

/-- There is nowhere to go down to. -/
theorem PathName.descend_nil (path : PathName) : path.descend [] = path := by
  simp [PathName.descend]

namespace Folder

variable {root : Folder} {last : Bool} {links : Nat} {here goal : Location}
  {parts : List String}

/-- The last component of a name that leads somewhere is not too long. -/
theorem Leads.last_short (leads : Leads root last links here parts goal) :
    isLongName (parts.getLast?.getD "") = false := by
  have cons : ∀ {name : String} {rest : List String}, isLongName name = false →
      isLongName (rest.getLast?.getD "") = false →
        isLongName ((name :: rest).getLast?.getD "") = false := by
    intro name rest first later
    cases rest with
    | nil => exact first
    | cons next more => rwa [List.getLast?_cons_cons]
  induction leads with
  | here found => decide
  | dot opened next ih => exact cons (by decide) ih
  | up opened next ih => exact cons (by decide) ih
  | into proper opened next ih => exact cons proper.short ih
  | stop proper opened stops => exact proper.short
  | @follow links here goal name target rest proper found further aimed next ih =>
    cases rest with
    | nil => exact proper.short
    | cons first more =>
      have same : (targetComponents target ++ first :: more).getLast? =
          (first :: more).getLast? := by
        rw [List.getLast?_append, List.getLast?_cons, Option.some_or]
      rw [same] at ih
      exact cons proper.short ih

/-- A vacant place has a name of its own. -/
theorem Leads.named (leads : Leads root last links here parts goal)
    (vacant : root.kind? goal = none) : NamedWell goal := by
  induction leads with
  | here found => exact absurd vacant found
  | stop proper opened stops =>
    intro name same
    rw [List.getLast?_concat] at same
    cases same
    exact ⟨proper.notDot, proper.notUp⟩
  | dot opened next ih => exact ih vacant
  | up opened next ih => exact ih vacant
  | into proper opened next ih => exact ih vacant
  | follow proper found further aimed next ih => exact ih vacant

/-- The root is a folder. -/
theorem nonempty_of_vacant (vacant : root.kind? goal = none) : goal ≠ [] := by
  rintro rfl
  simp [kind?_nil] at vacant

/-- Whatever stands somewhere has a kind. -/
theorem node?_eq_none : root.node? goal = none ↔ root.kind? goal = none := by
  simp [kind?]

/-- Below a place without a folder nothing stands. -/
theorem node?_below (closed : root.kind? goal ≠ some .folder) (name : String)
    (rest : Location) : root.node? (goal ++ name :: rest) = none :=
  Classical.byContradiction fun found =>
    closed (kind?_eq_folder_iff.mpr (node?_above (List.cons_ne_nil name rest) found))

/-- Nothing stands at or below a vacant place. -/
theorem node?_of_vacant {location : Location} (vacant : root.kind? goal = none)
    (below : goal <+: location) : root.node? location = none := by
  obtain ⟨rest, rfl⟩ := below
  cases rest with
  | nil => rw [List.append_nil]; exact node?_eq_none.mpr vacant
  | cons name more => exact node?_below (by simp [vacant]) name more

end Folder

namespace Files

variable {files changed : Files} {last : Bool} {path : PathName} {location goal : Location}

/-- Names that are too long lead nowhere. -/
theorem Leads.sound (leads : files.Leads last path goal) : path.Sound :=
  ⟨leads.short, leads.walks.last_short⟩

/-- Without a link at the end it is no matter whether it would be followed. -/
theorem Leads.followed (leads : files.Leads false path goal)
    (plain : ∀ target, files.root.kind? goal ≠ some (.link target)) :
    files.Leads true path goal :=
  ⟨leads.short, leads.walks.followed plain⟩

/-- A path name leads to a folder, links followed. -/
structure Opens (files : Files) (path : PathName) (location : Location) : Prop where
  leads : files.Leads true path location
  folder : files.root.kind? location = some .folder

/-- A name leads to one place. -/
theorem Opens.unique {other : Location} (one : files.Opens path location)
    (two : files.Opens path other) : location = other := one.leads.unique two.leads

/-- Nothing on the way is gone, and the folder is still one. -/
theorem Opens.of_grows (opens : files.Opens path location)
    (grows : files.root.Grows changed.root) (current : changed.current = files.current) :
    changed.Opens path location where
  leads := opens.leads.of_grows_held grows current (by simp [opens.folder])
  folder := grows _ _ opens.folder

/-- Inside a folder every name that is not too long leads to a place. -/
theorem Opens.child {name : String} (opens : files.Opens path location)
    (notDot : name ≠ ".") (notUp : name ≠ "..") (sound : (path.child name).Sound) :
    files.Leads false (path.child name) (location ++ [name]) where
  short := sound.short
  walks := opens.leads.walks.child opens.folder
    ⟨notDot, notUp, by rw [← path.name_child name]; exact sound.name⟩ fun _ _ => rfl

/-- The name leads to a folder, which is what is asked. -/
theorem Opens.isFolder (opens : files.Opens path location) : files.isFolder path = .ok true := by
  obtain ⟨f, held⟩ := Folder.at?_of_kind?_folder opens.folder
  have found : files.lookUp path = .ok (.folder f) := by
    rw [lookUp, opens.leads.place, held]
    rfl
  simp only [Files.isFolder, check, found, Entry.isFolder]

/-- The answer was yes, so the name led to a folder. -/
theorem opens_of_isFolder (asked : files.isFolder path = .ok true) :
    ∃ location, files.Opens path location := by
  unfold Files.isFolder check lookUp at asked
  rcases placed : files.place true path with e | place <;> rw [placed] at asked
  · simp only [bind, Except.bind] at asked
    split at asked <;> cases asked
  · obtain ⟨leads, same⟩ := leads_of_place placed
    simp only [bind, Except.bind, same] at asked
    rcases held : files.root.at? place.location with _ | e <;> rw [held] at asked
    · cases asked
    · cases e with
      | folder f => exact ⟨_, leads, Folder.kind?_of_at? held⟩
      | _ => cases asked

/-! ## One folder -/

/-- The place is vacant. -/
theorem makeFolder_of_vacant (leads : files.Leads false path goal)
    (vacant : files.root.kind? goal = none) :
    files.makeFolder path = .ok (files.put goal (.folder [])) := by
  rw [makeFolder, leads.place, Folder.kind?_eq_none.mp vacant]
  rfl

/-- What stands there is in the way. -/
theorem makeFolder_of_held (leads : files.Leads false path goal)
    (held : files.root.kind? goal ≠ none) : files.makeFolder path = .error .exists := by
  cases found : files.root.at? goal with
  | none => exact absurd (Folder.kind?_eq_none.mpr found) held
  | some e =>
    rw [makeFolder, leads.place, found]
    rfl

/-- A folder was made, so nothing was in the way. -/
theorem makeFolder_ok (made : files.makeFolder path = .ok changed) :
    ∃ goal, files.Leads false path goal ∧ files.root.kind? goal = none ∧
      changed = files.put goal (.folder []) := by
  unfold makeFolder at made
  rcases placed : files.place false path with e | place <;> rw [placed] at made
  · cases made
  · obtain ⟨leads, same⟩ := leads_of_place placed
    simp only [bind, Except.bind, same] at made
    rcases held : files.root.at? place.location with _ | e <;> rw [held] at made <;> cases made
    exact ⟨_, leads, Folder.kind?_eq_none.mpr held, rfl⟩

/-- An empty folder has nothing in it. -/
theorem node?_empty (name : String) (rest : Location) :
    (Entry.folder []).node? (name :: rest) = none := by
  rw [Entry.node?_folder, Folder.node?_cons]
  rfl

/-- An empty folder in a vacant place is all that is new. -/
theorem node?_put_empty (leads : files.Leads last path goal)
    (vacant : files.root.kind? goal = none) (other : Location) :
    (files.put goal (.folder [])).root.node? other =
      if other = goal then some .folder else files.root.node? other := by
  have nonempty := Folder.nonempty_of_vacant vacant
  rw [put_root, Folder.node?_put _ nonempty (leads.parent_folder nonempty)]
  split
  · next below =>
    obtain ⟨rest, rfl⟩ := below
    rw [List.drop_left]
    cases rest with
    | nil => simp
    | cons name more =>
      rw [node?_empty, if_neg (by simp), Folder.node?_below (by simp [vacant])]
  · next outside =>
    rw [if_neg]
    rintro rfl
    exact outside (List.prefix_refl _)

/-- The place is in a folder, and all that changes is there. -/
theorem within_put_empty (leads : files.Leads last path goal)
    (vacant : files.root.kind? goal = none) :
    Within goal files (files.put goal (.folder [])) := by
  have nonempty := Folder.nonempty_of_vacant vacant
  exact .put nonempty (leads.parent_folder nonempty)
    (.folder ⟨.nil, nofun⟩ nofun) fun _ => leads.walks.named vacant

/-- Nothing stood at the place, so nothing was replaced. -/
theorem grows_put_empty (leads : files.Leads last path goal)
    (vacant : files.root.kind? goal = none) :
    files.root.Grows (files.put goal (.folder [])).root := by
  intro other kind held
  rw [Folder.kind?, node?_put_empty leads vacant, if_neg]
  · exact held
  · rintro rfl
    simp [vacant] at held

/-- The new folder is found under the name that it was made with. -/
theorem opens_put_empty (leads : files.Leads false path goal)
    (vacant : files.root.kind? goal = none) :
    (files.put goal (.folder [])).Opens path goal := by
  have folder : (files.put goal (.folder [])).root.kind? goal = some .folder := by
    rw [Folder.kind?, node?_put_empty leads vacant, if_pos rfl]
    rfl
  refine ⟨⟨leads.short, ?_⟩, folder⟩
  have grows := grows_put_empty leads vacant
  have unfollowed := leads.walks.of_grows grows fun _ target link => rfl
  exact unfollowed.followed fun target link => by cases folder.symm.trans link

/-! ## A folder and those above it -/

/-- Only folders are new, and everything else is as it was. -/
structure Founded (files changed : Files) : Prop where
  current : changed.current = files.current
  kept : ∀ location n, files.root.node? location = some n →
    changed.root.node? location = some n
  added : ∀ location n, files.root.node? location = none →
    changed.root.node? location = some n → n = .folder
  tidy : files.Tidy → changed.Tidy

/-- Nothing is new. -/
theorem Founded.refl (files : Files) : Founded files files :=
  ⟨rfl, fun _ _ held => held, fun _ _ none held => by simp [none] at held, id⟩

/-- What is new in either step is a folder. -/
theorem Founded.trans {middle : Files} (first : Founded files middle)
    (second : Founded middle changed) : Founded files changed where
  current := second.current.trans first.current
  kept location n held := second.kept _ _ (first.kept _ _ held)
  added location n none held := by
    cases between : middle.root.node? location with
    | none => exact second.added _ _ between held
    | some m =>
      have same : n = m := by simpa [held] using second.kept _ _ between
      exact same ▸ first.added _ _ none between
  tidy := second.tidy ∘ first.tidy

/-- What was there before is there as it was. -/
theorem Founded.grows (founded : Founded files changed) :
    files.root.Grows changed.root := by
  intro location kind held
  obtain ⟨n, found, rfl⟩ := Option.map_eq_some_iff.mp held
  rw [Folder.kind?, founded.kept _ _ found]
  rfl

/-- One folder is new, and the name leads to it. -/
theorem founded_of_makeFolder (made : files.makeFolder path = .ok changed) :
    Founded files changed ∧ ∃ location, changed.Opens path location := by
  obtain ⟨goal, leads, vacant, rfl⟩ := makeFolder_ok made
  refine ⟨⟨rfl, fun other n held => ?_, fun other n none held => ?_,
    (within_put_empty leads vacant).tidy⟩, goal, opens_put_empty leads vacant⟩
  · rw [node?_put_empty leads vacant, if_neg]
    · exact held
    · rintro rfl
      simp [Folder.kind?, held] at vacant
  · rw [node?_put_empty leads vacant] at held
    split at held
    · cases held
      rfl
    · simp [none] at held

/-- Where a folder is there already nothing is made. -/
theorem makeFolders_of_opens (opens : files.Opens path location) :
    files.makeFolders path = .ok files := by
  obtain ⟨goal, leads, held⟩ := opens.leads.walks.unfollowed (by simp [opens.folder])
  have there : files.makeFolder path = .error .exists :=
    makeFolder_of_held ⟨opens.leads.short, leads⟩ held
  simp [makeFolders, makeFolders.make, there, opens.isFolder]

/-- The folder is made at the first attempt. -/
theorem makeFolders_of_vacant (leads : files.Leads false path goal)
    (vacant : files.root.kind? goal = none) :
    files.makeFolders path = .ok (files.put goal (.folder [])) := by
  simp [makeFolders, makeFolders.make, makeFolder_of_vacant leads vacant]

/-- What each folder that is made keeps, all of them keep; and afterwards there is a folder under the
name. -/
theorem makeFolders_rec {P : Files → Files → Prop} (refl : ∀ files, P files files)
    (trans : ∀ {one two three}, P one two → P two three → P one three)
    (each : ∀ {before after upper more}, path = upper.descend more →
      before.makeFolder upper = .ok after → P before after)
    (made : files.makeFolders path = .ok changed) :
    P files changed ∧ ∃ location, changed.Opens path location := by
  have all : ∀ (fuel : Nat) (before after : Files) (name : PathName) (more : List String),
      path = name.descend more → makeFolders.make before name fuel = .ok after →
        P before after ∧ ∃ location, after.Opens name location := by
    intro fuel
    induction fuel with
    | zero => intro before after name more _ settled; cases settled
    | succ above ih =>
      intro before after name more whole settled
      rw [makeFolders.make] at settled
      split at settled
      · next once =>
        cases settled
        exact ⟨each whole once, (founded_of_makeFolder once).2⟩
      · split at settled
        · cases settled
        · next proper =>
          have upper : path = name.parent.descend (name.name :: more) := by
            rw [whole, PathName.descend_of_parent proper]
          rcases made : makeFolders.make before name.parent above with failed | middle <;>
            simp only [made, bind, Except.bind] at settled
          · cases settled
          · obtain ⟨kept, -⟩ := ih _ _ _ _ upper made
            split at settled
            · next once =>
              cases settled
              exact ⟨trans kept (each whole once), (founded_of_makeFolder once).2⟩
            · cases settled
            · split at settled
              · next asked =>
                cases settled
                exact ⟨kept, opens_of_isFolder asked⟩
              · cases settled
      · dsimp only at settled
        split at settled
        · next asked =>
          cases settled
          exact ⟨refl _, opens_of_isFolder asked⟩
        · cases settled
  exact all _ _ _ _ [] (PathName.descend_nil path).symm made

/-- Only folders are new. -/
theorem makeFolders_ok (made : files.makeFolders path = .ok changed) :
    Founded files changed ∧ ∃ location, changed.Opens path location :=
  makeFolders_rec Founded.refl Founded.trans (fun _ once => (founded_of_makeFolder once).1) made

end Files

end BuildBench
