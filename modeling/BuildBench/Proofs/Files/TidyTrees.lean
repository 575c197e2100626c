import BuildBench.Proofs.Files.Operations

/-!
# Trees in order

Every folder lists its entries in the order of their names, each name once, and no entry is named by
one dot or two. What changes a tree keeps it so: it puts an entry under a name or takes one away.

A change at a location concerns that location and what is below it. `Within` says so, and also that
entries which neither hold the location nor are held by it stay literally the same.
-/

namespace BuildBench

/-- The entries of a folder stand in the order of their names, and each has a name of its own. -/
structure Folder.Ordered (f : Folder) : Prop where
  sorted : f.Pairwise fun one two => one.1 < two.1
  named : ∀ held ∈ f, held.1 ≠ "." ∧ held.1 ≠ ".."

/-- All folders of a tree are ordered. -/
inductive Entry.Tidy : Entry → Prop
  | file (content : ByteArray) (executable : Bool) : Tidy (.file content executable)
  | link (target : String) : Tidy (.link target)
  | folder {f : Folder} (ordered : f.Ordered) (inner : ∀ held ∈ f, Tidy held.2) : Tidy (.folder f)

/-- A leaf has no folder in it. -/
theorem Entry.Tidy.leaf {e : Entry} (leaf : e.isFolder = false) : e.Tidy := by
  cases e with
  | file content executable => exact .file content executable
  | link target => exact .link target
  | folder f => cases leaf

/-- A tree in order begins with a folder in order. -/
theorem Entry.Tidy.ordered {f : Folder} (tidy : Entry.Tidy (.folder f)) : f.Ordered := by
  cases tidy with
  | folder ordered inner => exact ordered

/-- What a folder in order holds is in order. -/
theorem Entry.Tidy.inner {f : Folder} (tidy : Entry.Tidy (.folder f)) :
    ∀ held ∈ f, Entry.Tidy held.2 := by
  cases tidy with
  | folder ordered inner => exact inner

namespace Folder

variable {f root : Folder} {name : String} {e : Entry}

/-! ## Entries of one folder -/

/-- What is found is one of the entries. -/
theorem mem_of_lookup (found : f.lookup name = some e) : (name, e) ∈ f := by
  obtain ⟨before, after, rfl, -⟩ := List.lookup_eq_some_iff.mp found
  simp

/-- In an ordered folder every entry is found under its name. -/
theorem Ordered.lookup_of_mem (ordered : f.Ordered) (member : (name, e) ∈ f) :
    f.lookup name = some e := by
  have sorted := ordered.sorted
  clear ordered
  induction f with
  | nil => cases member
  | cons first rest ih =>
    obtain ⟨held, inner⟩ := first
    obtain ⟨least, others⟩ := List.pairwise_cons.mp sorted
    rw [lookup_cons]
    rcases List.mem_cons.mp member with same | later
    · cases same
      rw [if_pos rfl]
    · have apart : name ≠ held := (String.ne_of_lt (least _ later)).symm
      rw [if_neg apart]
      exact ih later others

/-- By induction on the entries: the new one comes between two of them or in the place of one. -/
theorem mem_insert {held : String × Entry} (member : held ∈ insert name e f) :
    held = (name, e) ∨ held ∈ f := by
  induction f with
  | nil => exact .inl (List.mem_singleton.mp member)
  | cons first rest ih =>
    obtain ⟨other, inner⟩ := first
    unfold insert at member
    by_cases same : name = other
    · rw [if_pos same] at member
      exact (List.mem_cons.mp member).imp_right (List.mem_cons_of_mem _)
    · rw [if_neg same] at member
      by_cases before : name < other
      · rw [if_pos before] at member
        exact List.mem_cons.mp member
      · rw [if_neg before] at member
        rcases List.mem_cons.mp member with rfl | later
        · exact .inr (List.mem_cons_self ..)
        · exact (ih later).imp_right (List.mem_cons_of_mem _)

/-- By induction on the entries: the new one stands before the first name that is greater. -/
theorem sorted_insert (sorted : f.Pairwise fun one two => one.1 < two.1) :
    (insert name e f).Pairwise fun one two => one.1 < two.1 := by
  induction f with
  | nil => exact List.pairwise_singleton _ _
  | cons first rest ih =>
    obtain ⟨other, inner⟩ := first
    obtain ⟨least, others⟩ := List.pairwise_cons.mp sorted
    unfold insert
    by_cases same : name = other
    · subst same
      rw [if_pos rfl]
      exact List.pairwise_cons.mpr ⟨least, others⟩
    · rw [if_neg same]
      by_cases before : name < other
      · rw [if_pos before]
        refine List.pairwise_cons.mpr ⟨fun held member => ?_, sorted⟩
        rcases List.mem_cons.mp member with rfl | later
        · exact before
        · exact String.lt_trans before (least _ later)
      · rw [if_neg before]
        refine List.pairwise_cons.mpr ⟨fun held member => ?_, ih others⟩
        rcases mem_insert member with rfl | later
        · -- Names are compared totally, and these two are different.
          have atMost : other ≤ name := before
          exact Classical.byContradiction fun notBelow => same (String.le_antisymm notBelow atMost)
        · exact least _ later

/-- The names stay sorted, and the new one is proper. -/
theorem Ordered.insert (ordered : f.Ordered) (notDot : name ≠ ".") (notUp : name ≠ "..") :
    (insert name e f).Ordered where
  sorted := sorted_insert ordered.sorted
  named held member := by
    rcases mem_insert member with rfl | there
    · exact ⟨notDot, notUp⟩
    · exact ordered.named held there

/-- Leaving an entry out leaves the others in order. -/
theorem Ordered.erase (ordered : f.Ordered) (name : String) : (erase name f).Ordered where
  sorted := ordered.sorted.filter _
  named held member := ordered.named held (List.mem_filter.mp member).1

/-! ## Changes -/

/-- The entries are the new one and some of the old. -/
theorem tidy_insert (tidy : Entry.Tidy (.folder f)) (inner : e.Tidy) (notDot : name ≠ ".")
    (notUp : name ≠ "..") : Entry.Tidy (.folder (insert name e f)) := by
  refine .folder (tidy.ordered.insert notDot notUp) fun held member => ?_
  rcases mem_insert member with rfl | there
  · exact inner
  · exact tidy.inner held there

/-- A change inside one entry of a folder. -/
theorem tidy_within {inner after : Folder} (tidy : Entry.Tidy (.folder f))
    (held : f.lookup name = some (.folder inner)) (kept : Entry.Tidy (.folder after)) :
    Entry.Tidy (.folder (insert name (.folder after) f)) := by
  obtain ⟨notDot, notUp⟩ := tidy.ordered.named _ (mem_of_lookup held)
  exact tidy_insert tidy kept notDot notUp

/-- A location may be given a name of its own. -/
def NamedWell (location : Location) : Prop :=
  ∀ name, location.getLast? = some name → name ≠ "." ∧ name ≠ ".."

/-- By induction on the location: each folder on the way has one entry replaced. -/
theorem tidy_put {location : Location} (tidy : Entry.Tidy (.folder root)) (inner : e.Tidy)
    (named : NamedWell location) : Entry.Tidy (.folder (root.put e location)) := by
  induction location generalizing root with
  | nil => exact tidy
  | cons name rest ih =>
    cases rest with
    | nil =>
      obtain ⟨notDot, notUp⟩ := named name rfl
      exact tidy_insert tidy inner notDot notUp
    | cons next more =>
      rw [put]
      split
      · next held found =>
        exact tidy_within tidy found (ih (tidy.inner _ (mem_of_lookup found)) named)
      · exact tidy

/-- By induction on the location: each folder on the way has one entry replaced, and the last one
has one left out. -/
theorem tidy_remove (location : Location) (tidy : Entry.Tidy (.folder root)) :
    Entry.Tidy (.folder (root.remove location)) := by
  induction location generalizing root with
  | nil => exact tidy
  | cons name rest ih =>
    cases rest with
    | nil =>
      exact .folder (tidy.ordered.erase name) fun held member =>
        tidy.inner held (List.mem_filter.mp member).1
    | cons next more =>
      rw [remove]
      split
      · next held found =>
        exact tidy_within tidy found (ih (tidy.inner _ (mem_of_lookup found)))
      · exact tidy

/-- What stands in an ordered tree is ordered, and its name is that of an entry. -/
theorem tidy_at? {location : Location} (tidy : Entry.Tidy (.folder root))
    (held : root.at? location = some e) : e.Tidy ∧ NamedWell location := by
  induction location generalizing root with
  | nil =>
    rw [at?_nil] at held
    cases held
    exact ⟨tidy, fun name none => by cases none⟩
  | cons name rest ih =>
    rw [at?_cons] at held
    obtain ⟨first, found, held⟩ := Option.bind_eq_some_iff.mp held
    have member := mem_of_lookup found
    have tidyFirst := tidy.inner _ member
    cases rest with
    | nil =>
      rw [Entry.at?_nil] at held
      cases held
      refine ⟨tidyFirst, fun other last => ?_⟩
      cases last
      exact tidy.ordered.named _ member
    | cons next more =>
      cases first with
      | folder inner =>
        obtain ⟨tidyEntry, named⟩ := ih tidyFirst held
        exact ⟨tidyEntry, by rwa [NamedWell, List.getLast?_cons_cons]⟩
      | _ => cases held

end Folder

/-! ## Entries elsewhere -/

/-- Neither location holds the other one. -/
def Apart (one two : Location) : Prop := ¬ one <+: two ∧ ¬ two <+: one

/-- Neither holds the other. -/
theorem Apart.symm {one two : Location} (apart : Apart one two) : Apart two one :=
  ⟨apart.2, apart.1⟩

/-- What is below the one cannot hold the other, nor be in it. -/
theorem Apart.below {one two deeper : Location} (apart : Apart one two) (below : two <+: deeper) :
    Apart one deeper := by
  refine ⟨fun above => ?_, fun inside => apart.2 (below.trans inside)⟩
  rcases List.prefix_or_prefix_of_prefix above below with held | held
  · exact apart.1 held
  · exact apart.2 held

/-- Locations with different first names are apart, and those with the same one are if they are
apart behind it. -/
theorem apart_cons {name other : String} {one two : Location} :
    Apart (name :: one) (other :: two) ↔ (name = other → Apart one two) := by
  by_cases same : name = other
  · simp [Apart, List.cons_prefix_cons, same]
  · simp [Apart, List.cons_prefix_cons, same, Ne.symm same]

/-- Entries of one folder are apart. -/
theorem apart_children {location : Location} {name other : String} (different : name ≠ other) :
    Apart (location ++ [name]) (location ++ [other]) := by
  simp [Apart, List.prefix_append_right_inj, List.cons_prefix_cons, different, Ne.symm different]

namespace Folder

variable {root : Folder} {changed location : Location}

/-- By induction on the changed location: the two ways part somewhere, and from there on nothing is
changed. -/
theorem at?_put_apart (e : Entry) (apart : Apart changed location) :
    (root.put e changed).at? location = root.at? location := by
  induction changed generalizing root location with
  | nil => exact absurd List.nil_prefix apart.1
  | cons name rest ih =>
    cases location with
    | nil => exact absurd List.nil_prefix apart.2
    | cons other below =>
      have inside := apart_cons.mp apart
      cases rest with
      | nil =>
        rw [put, at?_cons, lookup_insert, at?_cons]
        by_cases same : other = name
        · exact absurd List.nil_prefix (inside same.symm).1
        · rw [if_neg same]
      | cons next more =>
        rw [put]
        split
        · next held found =>
          rw [at?_cons, lookup_insert, at?_cons]
          by_cases same : other = name
          · rw [if_pos same, same, found]
            exact ih (inside same.symm)
          · rw [if_neg same]
        · rfl

/-- By induction on the changed location in the same way. -/
theorem at?_remove_apart (apart : Apart changed location) :
    (root.remove changed).at? location = root.at? location := by
  induction changed generalizing root location with
  | nil => exact absurd List.nil_prefix apart.1
  | cons name rest ih =>
    cases location with
    | nil => exact absurd List.nil_prefix apart.2
    | cons other below =>
      have inside := apart_cons.mp apart
      cases rest with
      | nil =>
        rw [remove, at?_cons, lookup_erase, at?_cons]
        by_cases same : other = name
        · exact absurd List.nil_prefix (inside same.symm).1
        · rw [if_neg same]
      | cons next more =>
        rw [remove]
        split
        · next held found =>
          rw [at?_cons, lookup_insert, at?_cons]
          by_cases same : other = name
          · rw [if_pos same, same, found]
            exact ih (inside same.symm)
          · rw [if_neg same]
        · rfl

end Folder

/-! ## Changes of files -/

namespace Files

/-- All folders are ordered. -/
def Tidy (files : Files) : Prop := Entry.Tidy (.folder files.root)

/-- Something changed at a location and below it, and nowhere else. -/
structure Within (location : Location) (files changed : Files) : Prop where
  current : changed.current = files.current
  nodes : ∀ other, ¬ location <+: other → changed.root.node? other = files.root.node? other
  entries : ∀ other, Apart location other → changed.root.at? other = files.root.at? other
  tidy : files.Tidy → changed.Tidy

variable {files changed : Files} {location : Location}

/-- Nothing changed. -/
theorem Within.refl (location : Location) (files : Files) : Within location files files :=
  ⟨rfl, fun _ _ => rfl, fun _ _ => rfl, id⟩

/-- Both changes are below the location. -/
theorem Within.trans {middle : Files} (first : Within location files middle)
    (second : Within location middle changed) : Within location files changed where
  current := second.current.trans first.current
  nodes other outside := (second.nodes other outside).trans (first.nodes other outside)
  entries other apart := (second.entries other apart).trans (first.entries other apart)
  tidy := second.tidy ∘ first.tidy

/-- What is outside of more is outside of less. -/
theorem Within.widen {deeper : Location} (within : Within deeper files changed)
    (below : location <+: deeper) : Within location files changed where
  current := within.current
  nodes other outside := within.nodes other fun inside => outside (below.trans inside)
  entries other apart := within.entries other (apart.symm.below below).symm
  tidy := within.tidy

/-- What stands outside of the place is seen as before. -/
theorem Within.put {e : Entry} (nonempty : location ≠ [])
    (parent : files.root.node? location.dropLast = some .folder) (tidy : e.Tidy)
    (named : files.Tidy → Folder.NamedWell location) :
    Within location files (files.put location e) where
  current := rfl
  nodes other outside := by rw [put_root, Folder.node?_put e nonempty parent, if_neg outside]
  entries _ apart := Folder.at?_put_apart e apart
  tidy before := Folder.tidy_put before tidy (named before)

/-- What stands outside of the place is seen as before. -/
theorem Within.remove (nonempty : location ≠ []) (files : Files) :
    Within location files { files with root := files.root.remove location } where
  current := rfl
  nodes other outside := by rw [Folder.node?_remove nonempty, if_neg outside]
  entries _ apart := Folder.at?_remove_apart apart
  tidy before := Folder.tidy_remove location before

end Files

end BuildBench
