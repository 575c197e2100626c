import BuildBench.Proofs.Files.Copies

/-!
# Copies to a place where nothing stands

A copy may fail in the middle. When nothing stood at its target, it has still changed nothing but
what stands there: an open folder, a proper name of an entry in it, and the names below that are all
that is ever written to.
-/

namespace BuildBench

namespace Files

variable {files changed : Files} {source folder : PathName} {above : Location} {name : String}

/-- An entry of an open folder that is not there yet. -/
structure Awaits (files : Files) (folder : PathName) (above : Location) (name : String) : Prop where
  opens : files.Opens folder above
  notDot : name ≠ "."
  notUp : name ≠ ".."
  vacant : files.root.kind? (above ++ [name]) = none

/-- The name of the entry leads to its place, if it can be used at all. -/
theorem Awaits.leads (awaits : files.Awaits folder above name) (sound : (folder.child name).Sound) :
    files.Leads false (folder.child name) (above ++ [name]) :=
  awaits.opens.child awaits.notDot awaits.notUp sound

/-- Nothing stands at the place, so there is no link that would lead elsewhere. -/
theorem Awaits.goal_eq {last : Bool} {goal : Location} (awaits : files.Awaits folder above name)
    (leads : files.Leads last (folder.child name) goal) : goal = above ++ [name] := by
  have unfollowed := awaits.leads leads.sound
  cases last with
  | false => exact leads.unique unfollowed
  | true => exact leads.unique (unfollowed.followed (by simp [awaits.vacant]))

/-- Nothing stands there. -/
theorem Awaits.not_folder (awaits : files.Awaits folder above name) :
    files.isFolder (folder.child name) ≠ .ok true := by
  intro asked
  obtain ⟨location, opens⟩ := opens_of_isFolder asked
  obtain rfl := awaits.goal_eq opens.leads
  cases opens.folder.symm.trans awaits.vacant

/-- A change at the place of the entry alone, where nothing stood, only adds to the files. -/
theorem Within.grows {goal : Location} (within : Within goal files changed)
    (vacant : files.root.kind? goal = none) : files.root.Grows changed.root := by
  intro location kind held
  by_cases inside : goal <+: location
  · obtain ⟨rest, rfl⟩ := inside
    cases rest with
    | nil => rw [List.append_nil, vacant] at held; cases held
    | cons first rest => rw [kind?_below (by simp [vacant])] at held; cases held
  · rw [Folder.kind?, within.nodes location inside]
    exact held

/-- What waited for another entry still waits. -/
theorem Awaits.other {other : String} (awaits : files.Awaits folder above other)
    (within : Within (above ++ [name]) files changed)
    (vacant : files.root.kind? (above ++ [name]) = none) (different : name ≠ other) :
    changed.Awaits folder above other where
  opens := awaits.opens.of_grows (within.grows vacant) within.current
  notDot := awaits.notDot
  notUp := awaits.notUp
  vacant := by
    rw [Folder.kind?, within.nodes _ (apart_children different).1]
    exact awaits.vacant

/-- The folder is made, for nothing is in the way. -/
theorem makeTarget_fresh {merge : Bool} (awaits : files.Awaits folder above name)
    (made : files.makeTarget merge (folder.child name) = .ok changed) :
    changed = files.put (above ++ [name]) (.folder []) ∧ (folder.child name).Sound := by
  have sound := makeTarget_ok made
  rw [makeTarget_of_vacant (awaits.leads sound) awaits.vacant] at made
  cases made
  exact ⟨rfl, sound⟩

/-- The file is written at the place under its name. -/
theorem write_fresh {content : ByteArray} (awaits : files.Awaits folder above name)
    (written : files.write (folder.child name) content = .ok changed) :
    (∃ executable, changed = files.put (above ++ [name]) (.file content executable)) ∧
      (folder.child name).Sound := by
  obtain ⟨location, executable, leads, closed, rfl⟩ := write_ok written
  obtain rfl := awaits.goal_eq leads
  exact ⟨⟨executable, rfl⟩, leads.sound⟩

/-- The copy goes to the place itself, which is no folder, and is then marked there. -/
theorem copyFile_fresh (awaits : files.Awaits folder above name)
    (copied : files.copyFile source (folder.child name) = .ok changed) :
    Within (above ++ [name]) files changed := by
  obtain ⟨-, -, written, content, wanted, -, -, first, second⟩ := copyFile_steps copied
  have chosen : files.copyGoal source (folder.child name) = folder.child name := by
    unfold copyGoal
    split
    · next asked => exact absurd asked awaits.not_folder
    · rfl
  rw [chosen] at first second
  obtain ⟨⟨executable, rfl⟩, sound⟩ := write_fresh awaits first
  have closed : files.root.kind? (above ++ [name]) ≠ some .folder := by simp [awaits.vacant]
  have plain : ∀ text, files.root.kind? (above ++ [name]) ≠ some (.link text) := by
    simp [awaits.vacant]
  have leads := (awaits.leads sound).followed plain
  have within : Within (above ++ [name]) files
      (files.put (above ++ [name]) (.file content executable)) := within_put_leaf leads rfl closed
  have after : (files.put (above ++ [name]) (.file content executable)).Leads true
        (folder.child name) (above ++ [name]) ∧
      (files.put (above ++ [name]) (.file content executable)).root.at? (above ++ [name]) =
        some (.file content executable) := leads_put_file leads closed plain
  obtain ⟨leadsAfter, held⟩ := after
  have closed := Folder.kind?_of_at? held
  rw [setExecutable_of_leads leadsAfter held wanted] at second
  cases second
  exact within.trans (within_put_leaf leadsAfter rfl (by rw [closed]; exact nofun))

/-- The link is made at the place, or not at all. -/
theorem copyLink_fresh {text : String} (awaits : files.Awaits folder above name) :
    Within (above ++ [name]) files
      (CopyResult.ofChange files (folder.child name)
        (files.makeLink text (folder.child name))).files := by
  rcases made : files.makeLink text (folder.child name) with e | changed
  · exact .refl _ _
  · obtain ⟨-, goal, leads, vacant, rfl⟩ := makeLink_ok made
    obtain rfl := awaits.goal_eq leads
    exact within_put_leaf leads rfl (by simp [vacant])

/-- Copies of folders that nest less deep change nothing else. -/
def FoldersFresh (depth : Nat) : Prop :=
  ∀ {files : Files} {source folder : PathName} {above : Location} {name : String},
    files.Tidy → files.Awaits folder above name →
      Within (above ++ [name]) files (copyFolder false depth source (folder.child name) files).files

/-- By the kind of the entry. Folders change nothing else by assumption. -/
theorem copyEntry_fresh {depth : Nat} (inner : FoldersFresh depth) (tidy : files.Tidy)
    (awaits : files.Awaits folder above name) (e : Entry) :
    Within (above ++ [name]) files
      (copyEntry (copyFolder false depth) source (folder.child name) files e).files := by
  cases e with
  | file content executable =>
    rw [copyEntry]
    rcases copied : files.copyFile source (folder.child name) with e | changed
    · exact .refl _ _
    · exact copyFile_fresh awaits copied
  | link text =>
    rw [copyEntry]
    split
    · exact .refl _ _
    · exact copyLink_fresh awaits
  | folder f => exact inner tidy awaits

/-- By induction on the entries that are left: their names are distinct, so each place is vacant
when its turn comes. -/
theorem copyEntries_fresh {depth : Nat} (inner : FoldersFresh depth) {todo : Folder}
    (tidy : files.Tidy) (distinct : todo.Pairwise fun one two => one.1 ≠ two.1)
    (awaits : ∀ entry ∈ todo, files.Awaits folder above entry.1) :
    Within above files (copyEntries (copyFolder false depth) source folder todo files).files := by
  induction todo generalizing files with
  | nil => exact .refl _ _
  | cons first rest ih =>
    obtain ⟨name, e⟩ := first
    obtain ⟨different, distinct⟩ := List.pairwise_cons.mp distinct
    have here := awaits _ (List.mem_cons_self ..)
    have within : Within (above ++ [name]) files
        (copyEntry (copyFolder false depth) (source.child name) (folder.child name) files e).files :=
      copyEntry_fresh inner tidy here e
    have outer := within.widen (List.prefix_append above [name])
    rw [copyEntries, CopyResult.andThen]
    split
    · exact outer
    · refine outer.trans (ih (within.tidy tidy) distinct fun entry member => ?_)
      exact (awaits entry (List.mem_cons_of_mem _ member)).other within here.vacant
        (different entry member)

/-- A copy to a place where nothing stood changes nothing but what stands there. -/
theorem copyFolder_fresh (depth : Nat) : FoldersFresh depth := by
  induction depth with
  | zero => exact fun _ _ => .refl _ _
  | succ depth ih =>
    intro files source folder above name tidy awaits
    rw [copyFolder]
    split
    · exact .refl _ _
    · next entries found =>
      split
      · exact .refl _ _
      · next made target' =>
        obtain ⟨rfl, sound⟩ := makeTarget_fresh awaits target'
        have leads := awaits.leads sound
        have within := within_put_empty leads awaits.vacant
        have opens := opens_put_empty leads awaits.vacant
        have ordered := (tidy_of_lookUp tidy found).ordered
        refine within.trans (copyEntries_fresh ih (within.tidy tidy) ?_ fun entry member => ?_)
        · exact ordered.sorted.imp String.ne_of_lt
        · obtain ⟨notDot, notUp⟩ := ordered.named entry member
          refine ⟨opens, notDot, notUp, ?_⟩
          rw [Folder.kind?, node?_put_empty leads awaits.vacant, if_neg (by simp)]
          exact kind?_below (by simp [awaits.vacant]) _ _
    · exact .refl _ _

end Files

end BuildBench
