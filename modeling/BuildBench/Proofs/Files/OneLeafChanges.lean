import BuildBench.Proofs.Cache.RestoreReach
import BuildBench.Proofs.Run.MeasurementGate

/-!
# One file more or less

A run that writes a file, or takes a file or a link away, changes one leaf of the tree. Afterwards
there is at most a file where it was, so no name can be followed further than before, and a place
that the names in question avoid is neither reached by the change nor within reach after it.
-/

namespace BuildBench

namespace Files

variable {files changed : Files} {last : Bool} {path : PathName} {goal place location : Location}
  {names : PathName → Prop}

/-- Files that differ in one leaf only, which is a file afterwards or not there. -/
structure OneLeaf (goal : Location) (files changed : Files) : Prop where
  current : changed.current = files.current
  others : ∀ location, location ≠ goal →
    changed.root.node? location = files.root.node? location
  closed : files.root.kind? goal ≠ some .folder
  plain : ∀ kind, changed.root.kind? goal = some kind → kind = .file
  tidy : files.Tidy → changed.Tidy

namespace OneLeaf

variable (alters : OneLeaf goal files changed)

include alters

/-- The same stands everywhere else. -/
theorem kinds (other : location ≠ goal) :
    changed.root.kind? location = files.root.kind? location := by
  rw [Folder.kind?, alters.others location other]
  rfl

/-- The current directory is a folder, and the leaf is none. -/
theorem steady (steady : files.Steady) : changed.Steady := by
  have other : files.current ≠ goal := by
    intro here
    exact alters.closed (here ▸ steady)
  rw [Steady, alters.current, alters.kinds other]
  exact steady

/-- Nothing can be followed that could not be followed before. -/
theorem carries : changed.root.Carries files.root := by
  intro location kind guiding held
  by_cases here : location = goal
  · subst here
    exact absurd (alters.plain kind held) guiding
  · rw [← alters.kinds here]
    exact held

/-- What can be followed afterwards could be followed before, as the leaf is no longer followed. -/
theorem way_subset (name : PathName) : changed.way name ⊆ files.way name :=
  way_carried alters.carries alters.current.symm name

/-- The ways are no longer than they were. -/
theorem avoids (avoids : files.Avoids names place) : changed.Avoids names place :=
  fun name among passed there => avoids name among passed (alters.way_subset name there)

/-- The leaf is on the way of a name that avoids a place, so the place is left alone. -/
theorem same (avoids : files.Avoids names place) (named : names path)
    (reached : goal ∈ files.way path) :
    ∀ location, place <+: location →
      changed.root.node? location = files.root.node? location := by
  intro location below
  refine alters.others location ?_
  rintro rfl
  exact avoids path named _ reached below

end OneLeaf

/-- A file stands at the place now, and there was no folder to stand below. -/
theorem oneLeaf_of_put {content : ByteArray} {executable : Bool}
    (leads : files.Leads last path goal) (closed : files.root.kind? goal ≠ some .folder) :
    OneLeaf goal files (files.put goal (.file content executable)) := by
  have nonempty := Folder.nonempty_of_closed closed
  have nodes := fun location => Folder.node?_put_leaf (e := .file content executable) rfl nonempty
    (leads.parent_folder nonempty) (fun opened => closed (Folder.kind?_eq_folder_iff.mpr opened))
    location
  refine ⟨rfl, fun location other => ?_, closed, fun kind held => ?_,
    (within_put_leaf leads rfl closed).tidy⟩
  · rw [put_root, nodes, if_neg other]
  · rw [put_root, Folder.kind?, nodes, if_pos rfl] at held
    exact (Option.some.inj held).symm

/-- The file is put at the end of the way. -/
theorem write_oneLeaf {content : ByteArray} (written : files.write path content = .ok changed) :
    ∃ goal ∈ files.way path, OneLeaf goal files changed := by
  obtain ⟨goal, executable, leads, closed, rfl⟩ := write_ok written
  exact ⟨goal, leads.goal_mem_way, oneLeaf_of_put leads closed⟩

/-- Nothing stands at the place now, and no folder did. -/
theorem oneLeaf_of_remove (closed : files.root.kind? goal ≠ some .folder) :
    OneLeaf goal files { files with root := files.root.remove goal } := by
  have nodes := Folder.node?_remove (Folder.nonempty_of_closed closed) files.root
  refine ⟨rfl, fun location other => ?_, closed, fun kind held => ?_,
    Folder.tidy_remove goal⟩
  · rw [nodes]
    split
    · next below =>
      obtain ⟨_ | ⟨name, rest⟩, rfl⟩ := below
      · exact absurd (List.append_nil goal) other
      · exact (Folder.node?_below closed name rest).symm
    · rfl
  · rw [Folder.kind?, nodes, if_pos (List.prefix_refl goal)] at held
    cases held

/-- What is taken away is at the end of the way. -/
theorem unlink_oneLeaf (unlinked : files.unlink path = .ok changed) :
    ∃ goal ∈ files.way path, OneLeaf goal files changed := by
  obtain ⟨goal, leads, closed, rfl⟩ := unlink_ok unlinked
  exact ⟨goal, leads.goal_mem_way, oneLeaf_of_remove closed⟩

end Files

end BuildBench
