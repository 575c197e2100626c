import BuildBench.Proofs.Cache.AcceptedEntries

/-!
# Entries that a cache holds

A cache holds an entry when the manifest of the entry stands in the folder of the cache itself and
lists the paths. What happens elsewhere cannot change that. Restoring and saving find such an entry
when they are done with nothing, and saving leaves one when it wrote.
-/

namespace BuildBench

open BuildBench.Action

namespace CacheStore

variable {store : CacheStore} {place : Location} {key : String} {texts : List String}
  {paths : List PathName} {w v : World}

/-- The cache at a place has an entry for a key, with a manifest of its own that lists some texts. -/
structure Holds (store : CacheStore) (place : Location) (key : String) (texts : List String)
    (w : World) : Prop where
  filed : ∃ content, Filed store place w.files key content
  told : SaysList store key texts w

/-- Location by location. -/
theorem Same.symm (same : Same place w v) : Same place v w :=
  fun location below => (same location below).symm

/-- What stands there is the same. -/
theorem Same.kind_eq (same : Same place w v) {location : Location} (below : place <+: location) :
    v.files.root.kind? location = w.files.root.kind? location := by
  rw [Folder.kind?, Folder.kind?, same location below]

/-- The entry and its manifest are of the same kinds. -/
theorem Direct.of_same (direct : Direct place key w.files) (same : Same place w v) :
    Direct place key v.files where
  entry := by
    rw [same.kind_eq (List.prefix_append place _)]
    exact direct.entry
  manifest := by
    rw [same.kind_eq (List.append_assoc place _ _ ▸ List.prefix_append place _)]
    exact direct.manifest

namespace Holds

/-- The name of the cache leads to a folder. -/
theorem folder (holds : Holds store place key texts w) :
    w.files.root.kind? place = some .folder := by
  obtain ⟨content, filed⟩ := holds.filed
  exact filed.sits.opens.folder

/-- The manifest is a file, and stands in a folder. -/
theorem direct (holds : Holds store place key texts w) (named : IsKey key) :
    Direct place key w.files := by
  obtain ⟨content, filed⟩ := holds.filed
  obtain ⟨executable, manifest⟩ := filed.manifest
  refine ⟨fun target link => ?_, fun target link => ?_⟩
  · rw [(filed.opens_entry named).folder] at link
    cases link
  · rw [Folder.kind?, manifest] at link
    cases link

/-- The manifest lists these paths. -/
theorem acceptsOnly (holds : Holds store place key (paths.map PathName.display) w) :
    AcceptsOnly store key paths w := holds.told.acceptsOnly

/-- The name leads to the cache as before, and the manifest is the same. -/
theorem of_same (holds : Holds store place key texts w) (named : IsKey key)
    (sits : store.Sits v.files place) (same : Same place w v) :
    Holds store place key texts v := by
  obtain ⟨⟨content, filed⟩, told⟩ := holds
  have after : Filed store place v.files key content :=
    filed.of_same sits (same _ (List.append_assoc place _ _ ▸ List.prefix_append place _))
  exact ⟨⟨content, after⟩, told.of_filed filed after named⟩

/-- Records take no entry away. -/
theorem quiet (holds : Holds store place key texts w) (named : IsKey key)
    (unlogged : Unlogged place w) (confined : Confined nowhere w v) :
    Holds store place key texts v := by
  obtain ⟨content, filed⟩ := holds.filed
  exact holds.of_same named (filed.sits.confined (confined.mono fun _ => False.elim))
    (unlogged.same confined)

end Holds

/-- A manifest that is found under its name stands in the cache, for no link is on the way. -/
theorem SaysList.holds (told : SaysList store key texts w) (sits : store.Sits w.files place)
    (named : IsKey key) (direct : Direct place key w.files) : Holds store place key texts w := by
  obtain ⟨text, entries, ⟨held, -⟩, -, -⟩ := id told
  exact ⟨filed_of_has held sits named direct, told⟩

/-- The manifest that was written lists these texts. -/
theorem Stored.holds (stored : Stored store place w.files key texts) (named : IsKey key) :
    Holds store place key texts w := by
  have listed := stored.lists_run named texts
  rw [decide_eq_true rfl] at listed
  exact ⟨⟨_, stored.filed⟩, saysList_of_lists (stored.has_run named) listed⟩

/-- Where an entry is there the cache is in its place. -/
theorem Stands.sits_of_has (stands : store.Stands w.files place) (named : IsKey key)
    (held : store.has key w = (.ok true, w)) : store.Sits w.files place := by
  obtain ⟨location, opens, -⟩ := opens_of_has named (w := w) (by rw [held])
  exact stands.sits opens

/-- After a save that did not fail the cache holds an entry for the paths, be it the one that was there
already. -/
theorem holds_of_save {written : Bool} (tidy : w.files.Tidy) (stands : store.Stands w.files place)
    (unlogged : Unlogged place w) (named : IsKey key) (direct : Direct place key w.files)
    (unpaired : ∀ path ∈ paths, Text.Unpaired path.display.toList)
    (saves : store.save key paths w = (.ok written, v)) :
    Holds store place key (paths.map PathName.display) v ∧ Unlogged place v := by
  have saved := save_saved tidy stands named paths
  rw [saves] at saved
  refine ⟨?_, unlogged.after saved.untouched.toSameHost⟩
  cases written with
  | true => exact (saved.stored stands unlogged unpaired).holds named
  | false =>
    cases saved with
    | unneeded held listed same =>
      have told := saysList_of_lists held listed
      exact (told.holds (stands.sits_of_has named held) named direct).quiet named unlogged same

end CacheStore

end BuildBench
