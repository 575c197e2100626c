import BuildBench.Proofs.Cache.EntryNames
import BuildBench.Proofs.Files.ConfinedChanges
import BuildBench.Proofs.Files.WriteReach

/-!
# Where a cache stands

The name of a cache may lead to its folder in any way, through links and out of other folders. As
long as folders on this way are missing the cache is not there, but it is settled already where it
will be: making folders is all that happens before. A cache stands well when its name passes nothing
that is inside of it; then its entries may come and go without the name leading elsewhere.
-/

namespace BuildBench

/-! ## Missing folders -/

namespace Files

variable {files middle changed : Files} {path : PathName}

/-- Folders are new, and everything else is of the kind that it was. -/
structure Widens (files changed : Files) : Prop where
  current : changed.current = files.current
  grows : files.root.Grows changed.root
  added : ∀ location kind, files.root.kind? location = none →
    changed.root.kind? location = some kind → kind = .folder

/-- Nothing is new. -/
theorem Widens.of_kinds (current : changed.current = files.current)
    (same : ∀ location, changed.root.kind? location = files.root.kind? location) :
    Widens files changed :=
  ⟨current, fun location kind held => (same location).trans held,
    fun location kind none held => by cases none.symm.trans ((same location).symm.trans held)⟩

/-- Nothing is new. -/
theorem Widens.refl (files : Files) : Widens files files := .of_kinds rfl fun _ => rfl

/-- What is new in either step is a folder. -/
theorem Widens.trans (first : Widens files middle) (second : Widens middle changed) :
    Widens files changed where
  current := second.current.trans first.current
  grows := first.grows.trans second.grows
  added location kind none held := by
    cases between : middle.root.kind? location with
    | none => exact second.added _ _ between held
    | some other =>
      obtain rfl : other = kind := by
        simpa using (second.grows _ _ between).symm.trans held
      exact first.added _ _ none between

/-- What was founded is folders. -/
theorem Founded.widens (founded : Founded files changed) : Widens files changed := by
  refine ⟨founded.current, founded.grows, fun location kind none held => ?_⟩
  obtain ⟨n, found, rfl⟩ := Option.map_eq_some_iff.mp held
  rw [founded.added location n (Folder.node?_eq_none.mpr none) found]
  rfl

/-- Making folders makes those that were missing on the way, and changes nothing else. -/
theorem makeFolders_nodes (made : files.makeFolders path = .ok changed) (location : Location) :
    changed.root.node? location = files.root.node? location ∨
      files.root.node? location = none ∧ changed.root.node? location = some .folder ∧
        location ∈ changed.way path := by
  obtain ⟨founded, -⟩ := makeFolders_ok made
  cases before : files.root.node? location with
  | some n => exact .inl (founded.kept location n before)
  | none =>
    cases after : changed.root.node? location with
    | none => exact .inl rfl
    | some n =>
      obtain rfl := founded.added location n before after
      have spread : Spread (· = path) files changed := makeFolders_spread made rfl
      obtain ⟨other, rfl, passed⟩ := spread.reached location (by simp [before, after])
      exact .inr ⟨rfl, rfl, passed⟩

end Files

/-! ## The folder of a cache -/

namespace CacheStore

variable {store : CacheStore} {files changed : Files} {place location : Location}

/-- The folder of a cache is at a location, and its name passes nothing inside of it. -/
structure Sits (store : CacheStore) (files : Files) (place : Location) : Prop where
  opens : files.Opens store.root place
  clear : ∀ passed ∈ files.way store.root, place <+: passed → passed = place

/-- The folder of a cache is at a location, or will be once missing folders are made. -/
def Stands (store : CacheStore) (files : Files) (place : Location) : Prop :=
  ∀ made location, files.Widens made → made.Opens store.root location → store.Sits made place

/-- The folder is there already. -/
theorem Stands.sits (stands : store.Stands files place) (opens : files.Opens store.root location) :
    store.Sits files place := stands files location (.refl files) opens

/-- Missing folders that are made later could be made from here. -/
theorem Stands.widens (stands : store.Stands files place) (widens : files.Widens changed) :
    store.Stands changed place :=
  fun made location further => stands made location (widens.trans further)

/-- The way of the name goes through what was there before. -/
theorem Sits.grows (sits : store.Sits files place) (grows : files.root.Grows changed.root)
    (current : changed.current = files.current) : store.Sits changed place where
  opens := sits.opens.of_grows grows current
  clear := by
    rw [sits.opens.way_eq grows current]
    exact sits.clear

/-- Once the name leads to the folder no new folder can lead it elsewhere. -/
theorem Sits.stands (sits : store.Sits files place) : store.Stands files place :=
  fun _ _ widens _ => sits.grows widens.grows widens.current

/-- The places inside of a folder. -/
def inside (place : Location) : Location → Prop := fun other => place <+: other ∧ other ≠ place

/-- What is at an entry of the folder or below it is inside of the folder. -/
theorem inside_of_beneath {name : String} (below : beneath (place ++ [name]) location) :
    inside place location := by
  obtain ⟨rest, rfl⟩ := below
  exact ⟨⟨name :: rest, by simp⟩, by simp⟩

/-- What is below something inside is inside too. -/
theorem inside_below {other : Location} (within : inside place location)
    (below : location <+: other) : inside place other := by
  refine ⟨within.1.trans below, ?_⟩
  rintro rfl
  exact within.2 (below.eq_of_length (Nat.le_antisymm below.length_le within.1.length_le))

/-- What is below the other location is apart from the place too. -/
theorem not_below_of_apart {goal : Location} (apart : Apart place goal) (rest : Location) :
    ¬ place <+: goal ++ rest := (apart.below (List.prefix_append goal rest)).1

/-- The way passes nothing inside of the folder, and outside nothing changed its kind. -/
theorem Sits.kinds_on_way {w v : World} (sits : store.Sits w.files place)
    (confined : Confined (inside place) w v) : ∀ passed ∈ w.files.way store.root,
      v.files.root.kind? passed = w.files.root.kind? passed := fun passed there =>
  confined.kinds passed fun within => within.2 (sits.clear passed there within.1)

/-- A way depends on the kinds of the entries on it. -/
theorem Sits.way_eq {w v : World} (sits : store.Sits w.files place)
    (confined : Confined (inside place) w v) :
    v.files.way store.root = w.files.way store.root :=
  Files.way_congr confined.current (sits.kinds_on_way confined)

/-- What happens inside of a cache leaves it where it is. -/
theorem Sits.confined {w v : World} (sits : store.Sits w.files place)
    (confined : Confined (inside place) w v) : store.Sits v.files place := by
  have same := sits.kinds_on_way confined
  refine ⟨⟨(Files.leads_iff_of_way confined.current same).mpr sits.opens.leads, ?_⟩, ?_⟩
  · rw [confined.kinds place fun within => within.2 rfl]
    exact sits.opens.folder
  · rw [sits.way_eq confined]
    exact sits.clear

/-- A cache stands where it stood after anything that leaves the kinds of all entries alone. -/
theorem Stands.logged {w v : World} (stands : store.Stands w.files place)
    (confined : Confined nowhere w v) : store.Stands v.files place :=
  stands.widens (.of_kinds confined.current fun location => confined.kinds location id)

/-- Making the folder of a cache makes nothing inside of it. -/
theorem Stands.made (stands : store.Stands files place)
    (made : files.makeFolders store.root = .ok changed) :
    store.Sits changed place ∧
      ∀ other, inside place other → changed.root.node? other = files.root.node? other := by
  obtain ⟨founded, location, opens⟩ := Files.makeFolders_ok made
  have sits : store.Sits changed place := stands changed location founded.widens opens
  refine ⟨sits, fun other within => ?_⟩
  rcases Files.makeFolders_nodes made other with same | ⟨-, -, passed⟩
  · exact same
  · exact absurd (sits.clear other passed within.1) within.2

end CacheStore

end BuildBench
