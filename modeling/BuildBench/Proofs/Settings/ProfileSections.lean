import Mathlib.Data.List.Flatten
import BuildBench.Proofs.Settings.SettingNames

/-!
# Profiles as assignments

A profile holds its sections under text keys, and a section its settings. As long as nothing is in a
map twice, the sections of a profile come to a list of assignments to distinct names: under each
name what the profile gives there. Applying the sections is making these assignments one after the
other, and sections that cannot be read as assignments cannot be applied.
-/

namespace BuildBench

/-! ## Maps under their text keys -/

/-- The text of an entry's key. -/
def textKey? (e : Value × Value) : Option String :=
  match e.1 with
  | .text key => some key
  | _ => none

/-- No two entries of a map are under one text. -/
def DistinctKeys (entries : List (Value × Value)) : Prop := (entries.filterMap textKey?).Nodup

section Members

variable {key : String} {v : Value} {e : Value × Value} {entries : List (Value × Value)}

/-- By the kind of the key. -/
theorem textKey?_eq_some_iff : textKey? e = some key ↔ e = (.text key, e.2) := by
  obtain ⟨k, v⟩ := e
  cases k <;> simp [textKey?]

/-- The first entry is the one that is wanted, or the search goes on behind it. -/
theorem member?_cons : member? key (e :: entries) =
    if textKey? e = some key then some e.2 else member? key entries := by
  obtain ⟨k, v⟩ := e
  by_cases same : k = .text key
  · subst same
    simp [member?, textKey?, Value.isText]
  · have other : k.isText key = false := by
      cases k with
      | text s => simpa [Value.isText] using same
      | _ => rfl
    have apart : textKey? (k, v) ≠ some key := fun equal =>
      same (congrArg Prod.fst (textKey?_eq_some_iff.mp equal))
    rw [if_neg apart, member?, List.find?_cons_of_neg (by simpa using other)]
    rfl

/-- By induction on the entries: an entry that comes later is not hidden by one under the same key.
-/
theorem member?_eq_some_iff (distinct : DistinctKeys entries) :
    member? key entries = some v ↔ (.text key, v) ∈ entries := by
  induction entries with
  | nil => simp [member?]
  | cons e rest ih =>
    rw [member?_cons, List.mem_cons]
    by_cases here : textKey? e = some key
    · have equal := textKey?_eq_some_iff.mp here
      rw [DistinctKeys, List.filterMap_cons_some here, List.nodup_cons] at distinct
      have gone : (.text key, v) ∉ rest := fun among =>
        distinct.1 (List.mem_filterMap.mpr ⟨_, among, rfl⟩)
      rw [if_pos here, equal]
      simp [gone, eq_comm]
    · have apart : (Value.text key, v) ≠ e := fun equal => here (equal ▸ rfl)
      have distinct : DistinctKeys rest :=
        distinct.sublist ((List.sublist_cons_self ..).filterMap _)
      simp [here, apart, ih distinct]

end Members

/-- What a value holds under a key, if it is a map. -/
def Value.under? (v : Value) (key : String) : Option Value :=
  match v.bare with
  | .map entries => member? key entries
  | _ => none

/-! ## A section as assignments -/

/-- The assignment that an entry of a section stands for. -/
def EntryGives (sec : SectionName) (e : Value × Value) (c : SettingName × Value) : Prop :=
  ∃ key, e.1 = .text key ∧ c = (.inSection sec key, e.2)

/-- The assignments that a section of a profile stands for. -/
inductive SectionGives (sec : SectionName) : Value → List (SettingName × Value) → Prop where
  | null {v : Value} (held : v.bare = .null) : SectionGives sec v []
  | map {v : Value} {entries : List (Value × Value)} {changes : List (SettingName × Value)}
      (held : v.bare = .map entries) (given : List.Forall₂ (EntryGives sec) entries changes) :
      SectionGives sec v changes

namespace SectionGives

variable {sec : SectionName} {v : Value} {changes : List (SettingName × Value)} {s s' : Settings}

/-- By induction on the entries: each is set just as its assignment is. -/
theorem entries_eq {entries : List (Value × Value)}
    (given : List.Forall₂ (EntryGives sec) entries changes) :
    entries.foldlM (fun s (key, v) => s.setEntry sec key v) s =
      changes.foldlM Settings.assign s := by
  induction given generalizing s with
  | nil => rfl
  | @cons e c rest more first others ih =>
    obtain ⟨key, text, rfl⟩ := first
    obtain ⟨k, v⟩ := e
    cases text
    rw [List.foldlM_cons, List.foldlM_cons]
    exact congrArg (bind (s.setEntry sec (.text key) v)) (funext fun s => ih)

/-- A section that is null sets nothing, and one that is a map sets its entries. -/
theorem setSection_eq (gives : SectionGives sec v changes) :
    s.setSection sec v = changes.foldlM Settings.assign s := by
  cases gives with
  | null held =>
    rw [Settings.setSection, held]
    rfl
  | map held given =>
    rw [Settings.setSection, held]
    exact entries_eq given

/-- By induction on the entries: an entry that could be set has a text for a key. -/
theorem of_entries {entries : List (Value × Value)}
    (done : entries.foldlM (fun s (key, v) => s.setEntry sec key v) s = .ok s') :
    ∃ changes, List.Forall₂ (EntryGives sec) entries changes := by
  induction entries generalizing s with
  | nil => exact ⟨[], .nil⟩
  | cons e rest ih =>
    obtain ⟨k, v⟩ := e
    rw [List.foldlM_cons] at done
    rcases first : s.setEntry sec k v with f | s1 <;> simp only [first] at done
    · cases done
    obtain ⟨changes, given⟩ := ih done
    cases k with
    | text key => exact ⟨(.inSection sec key, v) :: changes, .cons ⟨key, rfl, rfl⟩ given⟩
    | _ => cases first

/-- By what the section is: null, a map, or refused. -/
theorem of_setSection (done : s.setSection sec v = .ok s') :
    ∃ changes, SectionGives sec v changes := by
  unfold Settings.setSection at done
  split at done
  next held => exact ⟨[], .null held⟩
  next entries held =>
    obtain ⟨changes, given⟩ := of_entries done
    exact ⟨changes, .map held given⟩
  next => cases done

/-- By induction on the entries, each of which is an assignment. -/
theorem mem_entries_iff {entries : List (Value × Value)} {t : SettingName} {w : Value}
    (given : List.Forall₂ (EntryGives sec) entries changes) :
    (t, w) ∈ changes ↔ ∃ key, t = .inSection sec key ∧ (.text key, w) ∈ entries := by
  induction given with
  | nil => simp
  | @cons e c rest more first others ih =>
    obtain ⟨key, text, rfl⟩ := first
    obtain ⟨k, v⟩ := e
    cases text
    simp only [List.mem_cons, Prod.mk.injEq, ih, Value.text.injEq]
    constructor
    · rintro (⟨rfl, rfl⟩ | ⟨key', rfl, among⟩)
      · exact ⟨key, rfl, .inl ⟨rfl, rfl⟩⟩
      · exact ⟨key', rfl, .inr among⟩
    · rintro ⟨key', rfl, ⟨rfl, rfl⟩ | among⟩
      · exact .inl ⟨rfl, rfl⟩
      · exact .inr ⟨key', rfl, among⟩

/-- The assignments of a section are what its map holds under the keys. -/
theorem mem_iff {t : SettingName} {w : Value} (gives : SectionGives sec v changes)
    (distinct : ∀ entries, v.bare = .map entries → DistinctKeys entries) :
    (t, w) ∈ changes ↔ ∃ key, t = .inSection sec key ∧ v.under? key = some w := by
  cases gives with
  | null held => simp [Value.under?, held]
  | map held given =>
    rw [mem_entries_iff given]
    simp only [Value.under?, held, member?_eq_some_iff (distinct _ held)]

/-- By induction on the entries: the name of an assignment is the section with the text of the key.
-/
theorem names_eq {entries : List (Value × Value)}
    (given : List.Forall₂ (EntryGives sec) entries changes) :
    changes.map (·.1) = (entries.filterMap textKey?).map (.inSection sec) := by
  induction given with
  | nil => rfl
  | @cons e c rest more first others ih =>
    obtain ⟨key, text, rfl⟩ := first
    obtain ⟨k, v⟩ := e
    cases text
    have kept : textKey? (.text key, v) = some key := rfl
    rw [List.map_cons, List.filterMap_cons_some kept, List.map_cons, ih]

/-- Keys that are distinct texts make distinct names. -/
theorem nodup (gives : SectionGives sec v changes)
    (distinct : ∀ entries, v.bare = .map entries → DistinctKeys entries) :
    (changes.map (·.1)).Nodup := by
  cases gives with
  | null held => exact List.nodup_nil
  | map held given =>
    rw [names_eq given]
    exact (distinct _ held).map fun one two same => by cases same; rfl

end SectionGives

/-! ## A profile as assignments -/

namespace Profile

variable {p : Profile} {s s' : Settings}

/-- A profile is a map, and so are its sections: nothing is in them twice. -/
structure IsMapping (p : Profile) : Prop where
  keys : DistinctKeys p
  sections : ∀ (sec : SectionName) (v : Value) (entries : List (Value × Value)),
    member? sec.name p = some v → v.bare = .map entries → DistinctKeys entries

/-- What a profile gives under a name: a working directory that counts as present, and whatever a
section that is a map holds. -/
def given? (p : Profile) : SettingName → Option Value
  | .workdir => p.present? "workdir"
  | .inSection sec key => (member? sec.name p).bind (·.under? key)

/-- What stands in a profile for a section. -/
def sectionValue (p : Profile) (sec : SectionName) : Value := (member? sec.name p).getD .null

/-- A section that is missing holds nothing under any key. -/
theorem under?_sectionValue (sec : SectionName) (key : String) :
    (p.sectionValue sec).under? key = p.given? (.inSection sec key) := by
  simp only [sectionValue, given?]
  cases member? sec.name p <;> rfl

/-- A section that is missing is no map, and one that is there is one of the profile's. -/
theorem IsMapping.distinct (mapping : p.IsMapping) (sec : SectionName)
    (entries : List (Value × Value)) (held : (p.sectionValue sec).bare = .map entries) :
    DistinctKeys entries := by
  rcases found : member? sec.name p with _ | v <;> rw [sectionValue, found] at held
  · cases held
  · exact mapping.sections sec v entries found held

/-- The assignments that the sections of a profile stand for. -/
def Changes (p : Profile) (changes : List (SettingName × Value)) : Prop :=
  ∃ each : SectionName → List (SettingName × Value),
    (∀ sec, SectionGives sec (p.sectionValue sec) (each sec)) ∧
      changes = SectionName.all.flatMap each

/-- By the section. -/
theorem mem_all (sec : SectionName) : sec ∈ SectionName.all := by
  cases sec <;> decide

namespace Changes

variable {changes : List (SettingName × Value)}

/-- Every assignment belongs to a section, and is what the profile gives there. -/
theorem mem_iff (stands : p.Changes changes) (mapping : p.IsMapping) {t : SettingName}
    {w : Value} :
    (t, w) ∈ changes ↔ ∃ sec key, t = .inSection sec key ∧ p.given? t = some w := by
  obtain ⟨each, gives, rfl⟩ := stands
  simp only [List.mem_flatMap, mem_all, true_and]
  refine exists_congr fun sec => ?_
  rw [(gives sec).mem_iff (mapping.distinct sec)]
  refine exists_congr fun key => and_congr_right fun same => ?_
  rw [same, under?_sectionValue]

/-- The assignments of one section have distinct names, and those of two sections differ in the
section. -/
theorem nodup (stands : p.Changes changes) (mapping : p.IsMapping) :
    (changes.map (·.1)).Nodup := by
  obtain ⟨each, gives, rfl⟩ := stands
  rw [List.map_flatMap]
  refine List.nodup_flatMap.mpr ⟨fun sec _ => (gives sec).nodup (mapping.distinct sec), ?_⟩
  refine List.Pairwise.imp (fun {one two} apart t among among' => ?_)
    (by decide : SectionName.all.Nodup)
  obtain ⟨⟨t, w⟩, within, rfl⟩ := List.mem_map.mp among
  obtain ⟨⟨t', w'⟩, within', same⟩ := List.mem_map.mp among'
  obtain ⟨key, rfl, -⟩ := ((gives one).mem_iff (mapping.distinct one)).mp within
  obtain ⟨key', rfl, -⟩ := ((gives two).mem_iff (mapping.distinct two)).mp within'
  cases same
  exact apart rfl

/-- What is assigned under a name is what the profile gives there. -/
theorem lookup_eq (stands : p.Changes changes) (mapping : p.IsMapping) (sec : SectionName)
    (key : String) :
    changes.lookup (.inSection sec key) = p.given? (.inSection sec key) := by
  refine Option.ext fun w => ?_
  rw [lookup_eq_some_iff_mem (stands.nodup mapping), stands.mem_iff mapping]
  exact ⟨fun ⟨_, _, _, held⟩ => held, fun held => ⟨sec, key, rfl, held⟩⟩

/-- The name of every assignment is in a section. -/
theorem lookup_workdir (stands : p.Changes changes) (mapping : p.IsMapping) :
    changes.lookup .workdir = none := by
  refine Option.eq_none_iff_forall_ne_some.mpr fun w held => ?_
  rw [lookup_eq_some_iff_mem (stands.nodup mapping), stands.mem_iff mapping] at held
  obtain ⟨_, _, absurd, _⟩ := held
  cases absurd

end Changes

/-- By induction on the sections: each of them is set by its assignments. -/
theorem applySections_eq {each : SectionName → List (SettingName × Value)}
    {sections : List SectionName}
    (gives : ∀ sec, SectionGives sec (p.sectionValue sec) (each sec)) :
    sections.foldlM p.applySection s = (sections.flatMap each).foldlM Settings.assign s := by
  induction sections generalizing s with
  | nil => rfl
  | cons sec rest ih =>
    rw [List.foldlM_cons, List.flatMap_cons, List.foldlM_append]
    refine congr (congrArg bind ?_) (funext fun s => ih)
    exact (gives sec).setSection_eq

/-- By induction on the sections: one that could be set stands for assignments. -/
theorem gives_of_applySections {sections : List SectionName}
    (done : sections.foldlM p.applySection s = .ok s') :
    ∀ sec ∈ sections, ∃ changes, SectionGives sec (p.sectionValue sec) changes := by
  induction sections generalizing s with
  | nil =>
    intro sec among
    cases among
  | cons first rest ih =>
    rw [List.foldlM_cons] at done
    rcases result : p.applySection s first with f | s1 <;> rw [result] at done
    · cases done
    intro sec among
    rcases List.mem_cons.mp among with rfl | later
    · exact SectionGives.of_setSection result
    · exact ih done sec later

/-- For each section some assignments are chosen that it stands for. -/
theorem changes_of_applySections (done : SectionName.all.foldlM p.applySection s = .ok s') :
    ∃ changes, p.Changes changes := by
  choose each gives using fun sec => gives_of_applySections done sec (mem_all sec)
  exact ⟨_, each, gives, rfl⟩

end Profile

end BuildBench
