import BuildBench.Proofs.Settings.RearrangedProfiles

/-!
# Overrides as edits of a profile

An override of a setting may as well be written into the profile, in the place of what stands there.
Main statement: both ways give the same settings or none, unless the profile gives a list where no
list is asked for; an override can put only another list in its place, while an edit can put anything
there.
-/

namespace BuildBench

/-! ## Entries of a map -/

section InsertEntry

variable {key name : String} {v : Value} {entries : List (Value × Value)}

/-- By the kind of the key: no number equals a text. -/
theorem sameKey_text (k : Value) : k.sameKey (.text key) = k.isText key := by
  cases k with
  | float x => cases found : Decimal.toRat? x <;> simp [Value.sameKey, Value.isText, Value.toRat?, found]
  | _ => simp [Value.sameKey, Value.isText, Value.toRat?]

/-- By the kind of the value. -/
theorem isText_iff {k : Value} : k.isText key = true ↔ k = .text key := by
  cases k <;> simp [Value.isText]

/-- An entry that was put into a map is found there, and nothing else changes. -/
theorem member?_insertEntry : member? name (insertEntry (.text key) v entries) =
    if name = key then some v else member? name entries := by
  induction entries with
  | nil =>
    rw [insertEntry, member?_cons]
    simp [textKey?, member?, eq_comm]
  | cons e rest ih =>
    obtain ⟨k, old⟩ := e
    rw [insertEntry, sameKey_text]
    by_cases here : k.isText key = true
    · obtain rfl := isText_iff.mp here
      rw [if_pos here, member?_cons, member?_cons]
      by_cases same : key = name <;> simp [textKey?, same, Ne.symm]
    · rw [if_neg here, member?_cons, member?_cons, ih]
      by_cases found : textKey? (k, old) = some name
      · have other : name ≠ key := by
          rintro rfl
          exact here (isText_iff.mpr (congrArg Prod.fst (textKey?_eq_some_iff.mp found)))
        simp [found, other]
      · have lost : ∀ w, textKey? (k, w) ≠ some name := by simpa [textKey?] using found
        simp [lost]

/-- By induction on the entries: the entry takes the place of the one under its key, or comes at the
end. -/
theorem mem_keys_insertEntry {k : Value}
    (among : k ∈ (insertEntry (.text key) v entries).map (·.1)) :
    k = .text key ∨ k ∈ entries.map (·.1) := by
  induction entries with
  | nil => simpa [insertEntry] using among
  | cons e rest ih =>
    rw [insertEntry] at among
    split at among
    · exact .inr (by simpa using among)
    · rcases List.mem_cons.mp among with here | later
      · exact .inr (by simp [here])
      · exact (ih later).imp_right (List.mem_cons_of_mem _)

/-- By induction on the entries: the key comes in once, where it was before or at the end. -/
theorem DistinctKeys.insertEntry (distinct : DistinctKeys entries) :
    DistinctKeys (insertEntry (.text key) v entries) := by
  induction entries with
  | nil => exact List.nodup_singleton key
  | cons e rest ih =>
    obtain ⟨k, old⟩ := e
    have inner : DistinctKeys rest :=
      distinct.sublist ((List.sublist_cons_self ..).filterMap _)
    rw [BuildBench.insertEntry, sameKey_text]
    by_cases here : k.isText key = true
    · rw [if_pos here]
      exact distinct
    · rw [if_neg here]
      rcases text : textKey? (k, old) with _ | other
      · rw [DistinctKeys, List.filterMap_cons_none text]
        exact ih inner
      · obtain rfl : k = .text other := congrArg Prod.fst (textKey?_eq_some_iff.mp text)
        rw [DistinctKeys, List.filterMap_cons_some text, List.nodup_cons] at distinct ⊢
        refine ⟨fun among => ?_, ih inner⟩
        obtain ⟨⟨k, w⟩, inside, same⟩ := List.mem_filterMap.mp among
        cases textKey?_eq_some_iff.mp same
        rcases mem_keys_insertEntry (List.mem_map_of_mem inside) with equal | stays
        · exact here (isText_iff.mpr equal)
        · obtain ⟨⟨k, w⟩, stays, rfl⟩ := List.mem_map.mp stays
          exact distinct.1 (List.mem_filterMap.mpr ⟨_, stays, rfl⟩)

end InsertEntry

/-! ## Edits -/

/-- A value for a setting of a section. -/
abbrev Edit := (SectionName × String) × Value

/-- Edits as overrides. -/
def editOverrides (o : List Edit) : List (SettingName × Value) :=
  o.map fun e => (.inSection e.1.1 e.1.2, e.2)

namespace Profile

/-- What a section of a profile holds. A section that is missing or null holds nothing. -/
def sectionEntries (p : Profile) (sec : SectionName) : List (Value × Value) :=
  match (p.sectionValue sec).bare with
  | .map entries => entries
  | _ => []

/-- A profile with a value in the place of one setting. -/
def edit (p : Profile) (e : Edit) : Profile :=
  insertEntry (.text e.1.1.name)
    (.map (insertEntry (.text e.1.2) e.2 (p.sectionEntries e.1.1))) p

/-- A profile after some edits. -/
def edited (p : Profile) (o : List Edit) : Profile := o.foldl edit p

/-- No override comes in the place of a list that the profile gives, unless it is a list. -/
def KeepsLists (p : Profile) (o : List Edit) : Prop :=
  ∀ e ∈ o, ∀ given items, p.given? (.inSection e.1.1 e.1.2) = some given →
    given.bare = .list items → ∃ items', e.2.bare = .list items'

variable {p : Profile} {e : Edit} {o : List Edit} {sec : SectionName} {key : String}

/-- What a section holds under a key is what the profile gives under that name. -/
theorem member?_sectionEntries : member? key (p.sectionEntries sec) =
    p.given? (.inSection sec key) := by
  rw [← under?_sectionValue, sectionEntries, Value.under?]
  cases (p.sectionValue sec).bare <;> rfl

/-- Only the section of the edit is another one. -/
theorem sectionValue_edit : (p.edit e).sectionValue sec =
    if sec = e.1.1 then .map (insertEntry (.text e.1.2) e.2 (p.sectionEntries e.1.1))
    else p.sectionValue sec := by
  rw [sectionValue, edit, member?_insertEntry]
  by_cases same : sec = e.1.1
  · simp [same]
  · have other : sec.name ≠ e.1.1.name := fun equal => same (by
      have named := ofName?_name sec
      rw [equal, ofName?_name] at named
      exact (Option.some.inj named).symm)
    simp [same, other, sectionValue]

/-- Under the name of an edit the edited profile gives the value, and all else as before. -/
theorem given?_edit : (p.edit e).given? (.inSection sec key) =
    if (sec, key) = e.1 then some e.2 else p.given? (.inSection sec key) := by
  rw [← under?_sectionValue, sectionValue_edit]
  by_cases here : sec = e.1.1
  · rw [if_pos here]
    refine member?_insertEntry.trans ?_
    rw [member?_sectionEntries, here]
    simp [Prod.ext_iff]
  · have other : (sec, key) ≠ e.1 := fun same => here (congrArg Prod.fst same)
    rw [if_neg here, if_neg other, under?_sectionValue]

/-- No section has that name. -/
theorem workdir_beside (sec : SectionName) : "workdir" ≠ sec.name := by
  cases sec <;> decide

/-- What stands beside the sections stays. -/
theorem member?_edited (beside : ∀ sec : SectionName, key ≠ sec.name) :
    member? key (p.edited o) = member? key p := by
  induction o generalizing p with
  | nil => rfl
  | cons e rest ih => rw [edited, List.foldl_cons, ← edited, ih, edit, member?_insertEntry,
      if_neg (beside _)]

/-- The edited profile gives what the edits say, and all else as before. -/
theorem given?_edited (distinct : (o.map (·.1)).Nodup) (t : SettingName) :
    (p.edited o).given? t =
      match (editOverrides o).lookup t with
      | some v => some v
      | none => p.given? t := by
  induction o generalizing p with
  | nil => rfl
  | cons e rest ih =>
    obtain ⟨⟨sec', key'⟩, v⟩ := e
    obtain ⟨fresh, distinct⟩ := List.nodup_cons.mp distinct
    have first : (p.edit ((sec', key'), v)).given? t =
        if t = .inSection sec' key' then some v else p.given? t := by
      cases t with
      | workdir =>
        have same : member? "workdir" (p.edit ((sec', key'), v)) = member? "workdir" p := by
          rw [edit, member?_insertEntry, if_neg (workdir_beside _)]
        rw [if_neg (by simp), given?, given?, present?, present?, same]
      | inSection sec key =>
        rw [given?_edit]
        simp
    have whole : (editOverrides (((sec', key'), v) :: rest)).lookup t =
        if t = .inSection sec' key' then some v else (editOverrides rest).lookup t :=
      lookup_cons_if
    rw [edited, List.foldl_cons, ← edited, ih distinct, first, whole]
    by_cases here : t = .inSection sec' key'
    · have gone : (editOverrides rest).lookup t = none := by
        rw [List.lookup_eq_none_iff]
        rintro c among
        obtain ⟨⟨⟨sec, key⟩, w⟩, inside, rfl⟩ := List.mem_map.mp among
        rw [here, bne_iff_ne]
        rintro ⟨⟩
        exact fresh (List.mem_map.mpr ⟨_, inside, rfl⟩)
      rw [gone, if_pos here, if_pos here]
    · rw [if_neg here, if_neg here]

/-- Edits are in sections, and the name is beside them. -/
theorem givenName_edited : (p.edited o).givenName = p.givenName := by
  rw [givenName, givenName, present?, present?, member?_edited (by intro sec; cases sec <;> decide)]

/-- Edits are in sections, and the working directory is beside them. -/
theorem givenWorkdir_edited : (p.edited o).givenWorkdir = p.givenWorkdir := by
  rw [givenWorkdir, givenWorkdir, present?, present?, member?_edited workdir_beside]

/-- Edits are in sections, and these variables are beside them. -/
theorem givenEnv_edited : (p.edited o).givenEnv = p.givenEnv := by
  rw [givenEnv, givenEnv, member?_edited fun sec => (name_ne_env sec).symm]

/-- What is edited is given by its edit, and all else as before. -/
theorem base_edited (distinct : (o.map (·.1)).Nodup) (t : SettingName) :
    (p.edited o).base t =
      match (editOverrides o).lookup t with
      | some v => v.convert t
      | none => p.base t := by
  rw [base, given?_edited distinct]
  cases (editOverrides o).lookup t <;> rfl

/-- No key is sorted out exactly if each is the text of a name. -/
theorem unknownKeys_eq_nil_iff : p.unknownKeys = [] ↔
    ∀ k ∈ p.map (·.1), ∃ name ∈ profileKeys, k = .text name := by
  simp only [unknownKeys, List.filter_eq_nil_iff, Bool.not_eq_true', Bool.not_eq_false,
    List.any_eq_true, isText_iff]

/-- By the section. -/
theorem name_mem_profileKeys (sec : SectionName) : sec.name ∈ profileKeys := by
  cases sec <;> decide

/-- By induction on the edits: the only key that can be new is the name of a section. -/
theorem unknownKeys_edited (known : p.unknownKeys = []) : (p.edited o).unknownKeys = [] := by
  induction o generalizing p with
  | nil => exact known
  | cons e rest ih =>
    rw [edited, List.foldl_cons, ← edited]
    refine ih (unknownKeys_eq_nil_iff.mpr fun k among => ?_)
    rcases mem_keys_insertEntry among with rfl | stays
    · exact ⟨_, name_mem_profileKeys _, rfl⟩
    · exact unknownKeys_eq_nil_iff.mp known k stays

/-- The key of the section comes in once, and within the section that of the setting does. -/
theorem IsMapping.edit (mapping : p.IsMapping) (e : Edit) : (p.edit e).IsMapping := by
  refine ⟨mapping.keys.insertEntry, fun sec v entries found held => ?_⟩
  have same : (p.edit e).sectionValue sec = v := by rw [sectionValue, found, Option.getD_some]
  rw [sectionValue_edit] at same
  split at same
  · subst same
    cases held
    refine DistinctKeys.insertEntry ?_
    rw [sectionEntries]
    split
    · next entries held => exact mapping.distinct _ entries held
    · exact List.nodup_nil
  · exact mapping.distinct sec entries (same ▸ held)

/-- By induction on the edits. -/
theorem IsMapping.edited (mapping : p.IsMapping) (o : List Edit) : (p.edited o).IsMapping := by
  induction o generalizing p with
  | nil => exact mapping
  | cons e rest ih => exact ih (mapping.edit e)

/-- The sections of a profile can be read if each is null or a map of texts. -/
theorem exists_changes_iff : (∃ changes, p.Changes changes) ↔
    ∀ sec, ∃ changes, SectionGives sec (p.sectionValue sec) changes := by
  constructor
  · rintro ⟨_, each, gives, -⟩ sec
    exact ⟨_, gives sec⟩
  · intro readable
    choose each gives using readable
    exact ⟨_, each, gives, rfl⟩

/-- The section of the edit has one entry more or another one, and its key is a text. All others are
the same. -/
theorem sectionGives_edit (gives : ∃ changes, SectionGives sec (p.sectionValue sec) changes) :
    ∃ changes, SectionGives sec ((p.edit e).sectionValue sec) changes := by
  rw [sectionValue_edit]
  split
  · next here =>
    subst here
    have texts : ∀ k ∈ (p.sectionEntries e.1.1).map (·.1), ∃ key, k = .text key := by
      obtain ⟨changes, gives⟩ := gives
      cases gives with
      | null held => simp [sectionEntries, held]
      | map held given =>
        rw [sectionEntries, held]
        exact texts_of_gives given
    obtain ⟨changes, given⟩ := gives_of_texts fun k among =>
      (mem_keys_insertEntry among).elim (fun same => ⟨_, same⟩) (texts k)
    exact ⟨changes, .map rfl given⟩
  · exact gives

/-- By induction on the edits, section by section. -/
theorem exists_changes_edited (readable : ∃ changes, p.Changes changes) :
    ∃ changes, (p.edited o).Changes changes := by
  rw [exists_changes_iff] at readable ⊢
  induction o generalizing p with
  | nil => exact readable
  | cons e rest ih => exact ih fun sec => sectionGives_edit (readable sec)

end Profile

/-! ## Settings by both ways -/

section BothWays

variable {homes : Homes} {p : Profile} {o : List Edit} {c c' : Settings}

/-- Distinct edits are of distinct settings. -/
theorem names_nodup_editOverrides (distinct : (o.map (·.1)).Nodup) :
    ((editOverrides o).map (·.1)).Nodup := by
  have names : (editOverrides o).map (·.1) =
      (o.map (·.1)).map fun name => SettingName.inSection name.1 name.2 := by
    simp [editOverrides, Function.comp_def]
  rw [names]
  refine distinct.map fun ⟨sec, key⟩ ⟨sec', key'⟩ same => ?_
  cases same
  rfl

/-- There is one edit for each name at most, and it is the one that is found. -/
theorem lookup_editOverrides (distinct : (o.map (·.1)).Nodup) {t : SettingName} {v : Value} :
    (editOverrides o).lookup t = some v ↔
      ∃ sec key, t = .inSection sec key ∧ ((sec, key), v) ∈ o := by
  rw [lookup_eq_some_iff_mem (names_nodup_editOverrides distinct), editOverrides, List.mem_map]
  constructor
  · rintro ⟨⟨⟨sec, key⟩, v⟩, among, same⟩
    cases same
    exact ⟨sec, key, rfl, among⟩
  · rintro ⟨sec, key, rfl, among⟩
    exact ⟨_, among, rfl⟩

/-- No edit puts in a missing value, so each overrides. -/
theorem overriding?_editOverrides (distinct : (o.map (·.1)).Nodup)
    (present : ∀ e ∈ o, e.2.isNull = false) (t : SettingName) :
    overriding? (editOverrides o) t = (editOverrides o).lookup t := by
  rw [overriding?]
  rcases found : (editOverrides o).lookup t with _ | v
  · rfl
  · obtain ⟨sec, key, -, among⟩ := (lookup_editOverrides distinct).mp found
    simp [present _ among]

/-- A value becomes a list under a name if it is one. -/
theorem isList_of_convert {t : SettingName} {v : Value} {kept : Setting}
    (converted : v.convert t = .ok kept) :
    kept.isList = true ↔ ∃ items, v.bare = .list items := by
  rcases Value.becomes_of_convert converted with among | ⟨among, held⟩ | stands | other
  · simp [Setting.isList, Value.bare]
  · simp [Setting.isList, held]
  · simp only [Setting.isList, Bool.false_eq_true, false_iff, not_exists]
    intro items list
    rcases stands with held | held <;> cases list.symm.trans held
  · cases held : v.bare <;> simp [Setting.isList, held]

/-- Over a profile that is accepted an override is accepted if the same value could stand in the
profile, and comes in the place of a list only if it is one. -/
theorem accepts_override_iff {t : SettingName} {v : Value}
    (given : ∀ w, p.given? t = some w → ({} : Settings).Accepts t w) :
    (t.Known ∧ (∃ kept, v.convert t = .ok kept) ∧
        ∀ old, p.base t = .ok old → old.isList = true → ∃ items, v.bare = .list items) ↔
      ({} : Settings).Accepts t v ∧ ∀ w items, p.given? t = some w → w.bare = .list items →
        ∃ items', v.bare = .list items' := by
  rcases found : p.given? t with _ | w
  · have base : p.base t = ({} : Settings).get t := by rw [Profile.base, found]
    rw [base]
    constructor
    · rintro ⟨known, converted, list⟩
      refine ⟨⟨known, converted, list⟩, ?_⟩
      rintro w items ⟨⟩
    · rintro ⟨⟨known, converted, list⟩, -⟩
      exact ⟨known, converted, list⟩
  · have base : p.base t = w.convert t := by rw [Profile.base, found]
    rw [base]
    constructor
    · rintro ⟨known, converted, list⟩
      have keeps : ∀ items, w.bare = .list items → ∃ items', v.bare = .list items' := by
        intro items held
        obtain ⟨kept, becomes⟩ := (given w found).converted
        exact list kept becomes ((isList_of_convert becomes).mpr ⟨items, held⟩)
      refine ⟨⟨known, converted, fun old default isList => ?_⟩, fun _ items same => ?_⟩
      · obtain ⟨items, held⟩ := (given w found).list old default isList
        exact keeps items held
      · cases same
        exact keeps items
    · rintro ⟨⟨known, converted, -⟩, keeps⟩
      refine ⟨known, converted, fun old becomes isList => ?_⟩
      obtain ⟨items, held⟩ := (isList_of_convert becomes).mp isList
      exact keeps w items rfl held

/-- Over a profile that is accepted, overrides are accepted if their values could stand in the profile
and none of them comes in the place of a list without being one. -/
theorem loadable_overrides_iff (distinct : (o.map (·.1)).Nodup)
    (present : ∀ e ∈ o, e.2.isNull = false) (accepted : Loadable p []) :
    Loadable p (editOverrides o) ↔ p.KeepsLists o ∧
      ∀ sec key v, ((sec, key), v) ∈ o → ({} : Settings).Accepts (.inSection sec key) v := by
  have each (sec : SectionName) (key : String) (v : Value) :=
    accepts_override_iff (v := v) fun w found => accepted.given sec key w found
  have chosen {t : SettingName} {v : Value} : overriding? (editOverrides o) t = some v ↔
      ∃ sec key, t = .inSection sec key ∧ ((sec, key), v) ∈ o := by
    rw [overriding?_editOverrides distinct present, lookup_editOverrides distinct]
  constructor
  · intro loadable
    have both (sec : SectionName) (key : String) (v : Value) (among : ((sec, key), v) ∈ o) :=
      (each sec key v).mp (loadable.overrides _ v (chosen.mpr ⟨sec, key, rfl, among⟩))
    exact ⟨fun ⟨⟨sec, key⟩, v⟩ among => (both sec key v among).2,
      fun sec key v among => (both sec key v among).1⟩
  · rintro ⟨keeps, each'⟩
    refine { accepted with overrides := fun t v overrides => ?_ }
    obtain ⟨sec, key, rfl, among⟩ := chosen.mp overrides
    exact (each sec key v).mpr ⟨each' sec key v among, keeps _ among⟩

/-- The edited profile is accepted if the values can stand in it. -/
theorem loadable_edited_iff (distinct : (o.map (·.1)).Nodup) (accepted : Loadable p []) :
    Loadable (p.edited o) [] ↔
      ∀ sec key v, ((sec, key), v) ∈ o → ({} : Settings).Accepts (.inSection sec key) v := by
  have chosen {sec : SectionName} {key : String} {v : Value} :
      (editOverrides o).lookup (.inSection sec key) = some v ↔ ((sec, key), v) ∈ o := by
    rw [lookup_editOverrides distinct]
    simp
  constructor
  · intro loadable sec key v among
    refine loadable.given sec key v ?_
    rw [Profile.given?_edited distinct, chosen.mpr among]
  · intro each
    refine ⟨Profile.unknownKeys_edited accepted.keys, ?_, ?_, ?_,
      Profile.exists_changes_edited accepted.sections, fun sec key v found => ?_, nofun⟩
    · simpa only [Profile.givenName_edited] using accepted.name
    · simpa only [Profile.givenWorkdir_edited] using accepted.workdir
    · simpa only [Profile.givenEnv_edited] using accepted.env
    · rw [Profile.given?_edited distinct] at found
      rcases edited : (editOverrides o).lookup (.inSection sec key) with _ | w <;>
        rw [edited] at found
      · exact accepted.given sec key v found
      · cases found
        exact each sec key v (chosen.mp edited)

/-- Overrides and edits that are both accepted give the same settings. -/
theorem eq_of_loads (distinct : (o.map (·.1)).Nodup) (present : ∀ e ∈ o, e.2.isNull = false)
    (loads : Loads p (editOverrides o) c) (loads' : Loads (p.edited o) [] c') : c = c' := by
  refine Settings.eq_of_get loads.full ?_ ?_ fun t known => ?_
  · have same := loads'.name
    rw [Profile.givenName_edited, loads.name] at same
    exact Except.ok.inj same
  · have same := loads'.env
    rw [Profile.givenEnv_edited, loads.env] at same
    exact Except.ok.inj same
  · have edited : c'.get t = (p.edited o).base t := loads'.get t known
    rw [loads.get t known, edited, overriding?_editOverrides distinct present]
    exact (Profile.base_edited distinct t).symm

/-- What comes out of a profile that can be loaded is the only thing that comes out. -/
theorem loads_of_ok {o : List (SettingName × Value)} (mapping : p.IsMapping)
    (distinct : (o.map (·.1)).Nodup)
    (returned : Settings.ofProfile homes p (dottedOverrides o) = .ok c) : Loads p o c := by
  obtain ⟨c', returned', loads⟩ :=
    loads_of_loadable homes mapping distinct (loadable_of_ok mapping distinct returned)
  cases returned.symm.trans returned'
  exact loads

/-- Over a profile that is accepted on its own, overrides give exactly the settings that the edited
profile gives, if none of them comes in the place of a list without being one; otherwise they are
refused, whatever the edited profile gives. -/
theorem Settings.ofProfile_overridden_iff (mapping : p.IsMapping)
    (distinct : (o.map (·.1)).Nodup) (present : ∀ e ∈ o, e.2.isNull = false)
    (accepted : ∃ s, Settings.ofProfile homes p [] = .ok s) :
    Settings.ofProfile homes p (dottedOverrides (editOverrides o)) = .ok c ↔
      p.KeepsLists o ∧ Settings.ofProfile homes (p.edited o) [] = .ok c := by
  obtain ⟨s, accepted⟩ := accepted
  have nothing : (([] : List (SettingName × Value)).map (·.1)).Nodup := List.nodup_nil
  have readable : Loadable p [] := loadable_of_ok mapping nothing accepted
  have names := names_nodup_editOverrides distinct
  have mapping' := mapping.edited o
  constructor
  · intro returned
    obtain ⟨keeps, each⟩ := (loadable_overrides_iff distinct present readable).mp
      (loadable_of_ok mapping names returned)
    obtain ⟨c', returned', loads'⟩ := loads_of_loadable homes mapping' nothing
      ((loadable_edited_iff distinct readable).mpr each)
    obtain rfl := eq_of_loads distinct present (loads_of_ok mapping names returned) loads'
    exact ⟨keeps, returned'⟩
  · rintro ⟨keeps, returned'⟩
    have each := (loadable_edited_iff distinct readable).mp
      (loadable_of_ok mapping' nothing returned')
    obtain ⟨c', returned, loads⟩ := loads_of_loadable homes mapping names
      ((loadable_overrides_iff distinct present readable).mpr ⟨keeps, each⟩)
    obtain rfl := eq_of_loads distinct present loads (loads_of_ok mapping' nothing returned')
    exact returned

/-- A profile with two settings of the checkout, the first of them given by a value. -/
def checkoutProfile (ref : Value) : Profile :=
  [(.text "name", .text "n"), (.text "checkout", .map [(.text "ref", ref), (.text "depth", .int 5)])]

/-- Its keys are two different texts, and so are those of its section. -/
theorem checkoutProfile_isMapping (ref : Value) : (checkoutProfile ref).IsMapping := by
  refine ⟨(by decide : ["name", "checkout"].Nodup), fun sec v entries found held => ?_⟩
  cases sec <;> cases found
  cases held
  exact (by decide : ["ref", "depth"].Nodup)

/-- Overrides of a setting that the profile gives, of one that it does not, and of one in a section
that it lacks. -/
theorem Settings.ofProfile_overridden_iff_checkoutProfile :
    let homes : Homes := { own := "/root" }
    let p := checkoutProfile (.text "main")
    let o : List Edit := [((.checkout, "ref"), .text "dev"), ((.checkout, "repo"), .text "r"),
      ((.build, "env"), .map [(.text "A", .bool true)])]
    p.IsMapping ∧ (o.map (·.1)).Nodup ∧ (∀ e ∈ o, e.2.isNull = false) ∧
      (∃ s, Settings.ofProfile homes p [] = .ok s) ∧ p.KeepsLists o ∧
      ∃ c, Settings.ofProfile homes p (dottedOverrides (editOverrides o)) = .ok c ∧
        Settings.ofProfile homes (p.edited o) [] = .ok c := by
  intro homes p o
  have mapping := checkoutProfile_isMapping (.text "main")
  have distinct : (o.map (·.1)).Nodup := by decide
  have present : ∀ e ∈ o, e.2.isNull = false := by simp [o, Value.isNull]
  have accepted : ∃ s, Settings.ofProfile homes p [] = .ok s := ⟨_, rfl⟩
  obtain ⟨keeps, edited⟩ := (Settings.ofProfile_overridden_iff mapping distinct present accepted).mp
    (show Settings.ofProfile homes p (dottedOverrides (editOverrides o)) = .ok _ from rfl)
  exact ⟨mapping, distinct, present, accepted, keeps, _, rfl, edited⟩

/-- Where the profile gives a list of names for the one to be checked out, an override by a name is
refused, and the profile with that name in the place of the list is not. -/
theorem Settings.ofProfile_refuses_override :
    let homes : Homes := { own := "/root" }
    let p := checkoutProfile (.list [.text "main"])
    let o : List Edit := [((.checkout, "ref"), .text "dev")]
    p.IsMapping ∧ (∃ s, Settings.ofProfile homes p [] = .ok s) ∧
      Settings.ofProfile homes p (dottedOverrides (editOverrides o)) =
        .error (.invalid "'checkout.ref' must be a list, got str") ∧
      ∃ c, Settings.ofProfile homes (p.edited o) [] = .ok c ∧
        c.get (.inSection .checkout "ref") = .ok (.value (.text "dev")) :=
  ⟨checkoutProfile_isMapping _, ⟨_, rfl⟩, rfl, _, rfl, rfl⟩

end BothWays

end BuildBench
