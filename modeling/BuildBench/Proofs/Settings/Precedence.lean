import BuildBench.Proofs.Settings.ProfileSections

/-!
# Overrides before the profile, the profile before the defaults

Settings come out of a profile and overrides exactly if the two are `Loadable`, and then every
setting is what `Loads` says: the override, else what the profile gives, else the default.
-/

namespace BuildBench

/-! ## Overrides as assignments -/

/-- The text under which an override names a setting. -/
def SettingName.dotted : SettingName → String
  | .workdir => "workdir"
  | .inSection sec key => sec.name ++ "." ++ key

/-- Overrides as they are given. -/
def dottedOverrides (o : List (SettingName × Value)) : List Override :=
  o.map fun c => (c.1.dotted, c.2)

/-- No section has a dot in its name, so the first dot is the one that was put there. -/
theorem splitKey_dotted (sec : SectionName) (key : String) :
    splitKey (sec.name ++ "." ++ key) = some (sec.name, key) := by
  have plain : sec.name.toList.all (· != '.') = true := by cases sec <;> decide
  have first : (sec.name ++ "." ++ key).toList.takeWhile (· != '.') = sec.name.toList := by
    rw [String.toList_append, String.toList_append, List.append_assoc,
      List.takeWhile_append_of_pos (List.all_eq_true.mp plain)]
    simp
  simp only [splitKey, first]
  simp [String.toList_append, String.ofList_toList]

/-- By the section. -/
theorem ofName?_name (sec : SectionName) : SectionName.ofName? sec.name = some sec := by
  cases sec <;> decide

namespace Settings

variable {homes : Homes} {s s' : Settings} {t : SettingName} {v : Value}

/-- A missing value is passed over. For any other the name is split again and the value is set
there. -/
theorem override_eq_ok_iff : Settings.override homes s (t.dotted, v) = .ok s' ↔
    if v.isNull = true then s' = s else s.assign (t, v) = .ok s' := by
  by_cases null : v.isNull = true
  · simp [override, null, eq_comm]
  · cases t with
    | workdir =>
      have whole : splitKey SettingName.workdir.dotted = none := by decide
      have other : SectionName.ofName? SettingName.workdir.dotted = none := by decide
      simp only [override, null, whole, setWhole, other]
      exact Iff.rfl
    | inSection sec key =>
      simp only [override, null, SettingName.dotted, splitKey_dotted, setBelow, ofName?_name]
      refine ⟨fun done => ?_, fun done => ?_⟩
      · rcases required : s.requireSection sec with f | held <;> rw [required] at done
        · cases done
        · exact done
      · rw [requireSection_of_assign done]
        exact done

/-- The overrides that override something: a missing value does not. -/
def effective (o : List (SettingName × Value)) : List (SettingName × Value) :=
  o.filter fun c => !c.2.isNull

/-- By induction on the overrides: those that are passed over change nothing. -/
theorem overrides_eq_ok_iff {o : List (SettingName × Value)} :
    (dottedOverrides o).foldlM (override homes) s = .ok s' ↔
      (effective o).foldlM assign s = .ok s' := by
  induction o generalizing s with
  | nil => rfl
  | cons first rest ih =>
    obtain ⟨t, v⟩ := first
    rw [dottedOverrides, List.map_cons, List.foldlM_cons]
    by_cases null : v.isNull = true
    · have skipped : Settings.override homes s (t.dotted, v) = .ok s :=
        override_eq_ok_iff.mpr (by rw [if_pos null])
      have same : effective ((t, v) :: rest) = effective rest := by simp [effective, null]
      rw [skipped, same]
      exact ih
    · have kept : effective ((t, v) :: rest) = (t, v) :: effective rest := by
        simp [effective, null]
      have step (s1 : Settings) : Settings.override homes s (t.dotted, v) = .ok s1 ↔
          s.assign (t, v) = .ok s1 := by
        rw [override_eq_ok_iff, if_neg null]
      rw [kept, List.foldlM_cons]
      rcases result : s.assign (t, v) with f | s1
      · rcases chosen : Settings.override homes s (t.dotted, v) with g | s1
        · exact ⟨fun done => (by cases done), fun done => (by cases done)⟩
        · rw [step, result] at chosen
          cases chosen
      · rw [(step s1).mpr result]
        exact ih

end Settings

/-! ## The settings beside the sections -/

namespace Profile

/-- The name of a run with a profile. -/
def givenName (p : Profile) : Except Fault Value :=
  match p.present? "name" with
  | some v => v.textOf.map .text
  | none => .ok ({} : Settings).name

/-- The variables of a run with a profile. -/
def givenEnv (p : Profile) : Except Fault Value :=
  match member? "env" p with
  | some v => (variablesSetting v).map variablesValue
  | none => .ok ({} : Settings).env

/-- The setting of a name before the overrides. -/
def base (p : Profile) (t : SettingName) : Except Fault Setting :=
  match p.given? t with
  | some v => v.convert t
  | none => ({} : Settings).get t

/-- The working directory of a run with a profile. -/
def givenWorkdir (p : Profile) : Except Fault PathName :=
  match p.present? "workdir" with
  | some v => pathSetting v
  | none => .ok ({} : Settings).workdir

/-- The working directory is converted when it is given. -/
theorem base_workdir (p : Profile) : p.base .workdir = p.givenWorkdir.map .path := by
  simp only [base, given?, givenWorkdir]
  cases p.present? "workdir" <;> rfl

/-- The settings with which the sections begin. -/
theorem plainSettings_eq (p : Profile) : p.plainSettings = (do
    let name ← p.givenName
    let workdir ← p.givenWorkdir
    let env ← p.givenEnv
    return { name := name, workdir := workdir, env := env }) := by
  have equipped (s : Settings) (default : s.env = ({} : Settings).env) :
      (match member? "env" p with
      | some v => do return { s with env := variablesValue (← variablesSetting v) }
      | none => return s : Except Fault Settings) =
        p.givenEnv >>= fun env => return { s with env := env } := by
    unfold givenEnv
    rcases member? "env" p with _ | v
    · exact congrArg Except.ok (default ▸ rfl)
    · dsimp only
      cases variablesSetting v <;> rfl
  have placed (s : Settings) (default : s.env = ({} : Settings).env)
      (start : s.workdir = ({} : Settings).workdir) :
      (match p.present? "workdir" with
      | some v => do
        let s ← pure { s with workdir := ← pathSetting v }
        match member? "env" p with
        | some v => return { s with env := variablesValue (← variablesSetting v) }
        | none => return s
      | none => do
        let s ← pure s
        match member? "env" p with
        | some v => return { s with env := variablesValue (← variablesSetting v) }
        | none => return s : Except Fault Settings) = do
          let workdir ← p.givenWorkdir
          let env ← p.givenEnv
          return { s with workdir := workdir, env := env } := by
    unfold givenWorkdir
    rcases p.present? "workdir" with _ | v
    · exact (equipped s default).trans (by rw [← start]; rfl)
    · dsimp only
      rcases pathSetting v with f | workdir
      · rfl
      · exact equipped { s with workdir := workdir } default
  simp only [plainSettings, givenName]
  rcases p.present? "name" with _ | n
  · exact placed {} rfl rfl
  · dsimp only
    rcases n.textOf with f | name
    · rfl
    · exact placed { name := .text name } rfl rfl

/-- All three parts can be computed, or the first that cannot is the fault. -/
theorem plainSettings_eq_ok_iff {p : Profile} {s : Settings} : p.plainSettings = .ok s ↔
    ∃ name workdir env, p.givenName = .ok name ∧ p.givenWorkdir = .ok workdir ∧
      p.givenEnv = .ok env ∧ s = { name := name, workdir := workdir, env := env } := by
  rw [plainSettings_eq]
  rcases p.givenName with f | name
  · simp [bind, Except.bind]
  rcases p.givenWorkdir with f | workdir
  · simp [bind, Except.bind]
  rcases p.givenEnv with f | env
  · simp [bind, Except.bind]
  simp [bind, Except.bind, pure, Except.pure, eq_comm]

end Profile

/-! ## When settings come out, and which -/

/-- The value with which an override replaces a setting. -/
def overriding? (o : List (SettingName × Value)) (t : SettingName) : Option Value :=
  (o.lookup t).filter fun v => !v.isNull

/-- Leaving the missing values out hides no other override, for there is one for each name at most.
-/
theorem lookup_effective {o : List (SettingName × Value)} (distinct : (o.map (·.1)).Nodup)
    (t : SettingName) : (Settings.effective o).lookup t = overriding? o t := by
  have kept : ((Settings.effective o).map (·.1)).Nodup :=
    distinct.sublist (List.filter_sublist.map _)
  refine Option.ext fun v => ?_
  rw [lookup_eq_some_iff_mem kept, Settings.effective, List.mem_filter, overriding?,
    Option.filter_eq_some_iff, lookup_eq_some_iff_mem distinct]

/-- What it takes for settings to come out of a profile and overrides: every key is known, every
value can be converted, and what comes in the place of a list is one. -/
structure Loadable (p : Profile) (o : List (SettingName × Value)) : Prop where
  keys : p.unknownKeys = []
  name : ∃ name, p.givenName = .ok name
  workdir : ∃ workdir, p.givenWorkdir = .ok workdir
  env : ∃ env, p.givenEnv = .ok env
  sections : ∃ changes, p.Changes changes
  given : ∀ sec key v, p.given? (.inSection sec key) = some v →
    ({} : Settings).Accepts (.inSection sec key) v
  overrides : ∀ t v, overriding? o t = some v → t.Known ∧ (∃ kept, v.convert t = .ok kept) ∧
    ∀ old, p.base t = .ok old → old.isList = true → ∃ items, v.bare = .list items

/-- What comes out: overrides count more than the profile, and the profile more than the
defaults. -/
structure Loads (p : Profile) (o : List (SettingName × Value)) (c : Settings) : Prop where
  full : c.Full
  name : p.givenName = .ok c.name
  env : p.givenEnv = .ok c.env
  get : ∀ t : SettingName, t.Known → c.get t =
    match overriding? o t with
    | some v => v.convert t
    | none => p.base t

section Outcome

variable {homes : Homes} {p : Profile} {o : List (SettingName × Value)} {c : Settings}

/-- Nothing is unknown, or the unknown keys are told in a fault. -/
theorem checkKeys_eq_ok_iff : p.checkKeys = .ok () ↔ p.unknownKeys = [] := by
  unfold Profile.checkKeys
  rcases p.unknownKeys with _ | ⟨key, rest⟩
  · simp
  · simp only [List.isEmpty_cons, Bool.false_eq_true, ↓reduceIte, reduceCtorEq, iff_false]
    split <;> exact fun done => by cases done

/-- The stages in which settings are made. -/
theorem ofProfile_eq_ok_iff :
    Settings.ofProfile homes p (dottedOverrides o) = .ok c ↔
      p.unknownKeys = [] ∧ ∃ s0, p.plainSettings = .ok s0 ∧
        ∃ s1, SectionName.all.foldlM p.applySection s0 = .ok s1 ∧
          (Settings.effective o).foldlM Settings.assign s1 = .ok c := by
  rw [← checkKeys_eq_ok_iff, Settings.ofProfile, Profile.settings]
  rcases p.checkKeys with f | done
  · simp [bind, Except.bind]
  rcases p.plainSettings with f | s0
  · simp [bind, Except.bind]
  rcases result : SectionName.all.foldlM p.applySection s0 with f | s1
  · simp [bind, Except.bind, result]
  simp [bind, Except.bind, result, Settings.overrides_eq_ok_iff]

/-- Every section has its defaults. -/
theorem full_plain (name env : Value) (workdir : PathName) :
    Settings.Full { name := name, workdir := workdir, env := env } := by
  intro t known
  cases t with
  | workdir => exact ⟨_, rfl⟩
  | inSection sec key => cases sec <;> exact ⟨_, rfl⟩

/-- The sections know nothing of the settings beside them. -/
theorem get_plain {name env : Value} {workdir : PathName} (sec : SectionName) (key : String) :
    Settings.get { name := name, workdir := workdir, env := env } (.inSection sec key) =
      ({} : Settings).get (.inSection sec key) := by
  cases sec <;> rfl

/-- The settings after the profile. -/
theorem get_of_changes {s : Settings} {changes : List (SettingName × Value)} {name env : Value}
    {workdir : PathName} (mapping : p.IsMapping) (stands : p.Changes changes)
    (placed : p.givenWorkdir = .ok workdir)
    (assigned : Settings.Assigned { name := name, workdir := workdir, env := env } changes s) :
    ∀ t : SettingName, t.Known → s.get t = p.base t := by
  intro t known
  rw [assigned.get t known]
  cases t with
  | workdir =>
    rw [stands.lookup_workdir mapping, Profile.base_workdir, placed]
    rfl
  | inSection sec key =>
    rw [stands.lookup_eq mapping, Profile.base]
    rcases p.given? (.inSection sec key) with _ | v
    · exact get_plain sec key
    · rfl

/-- Some of the overrides are left out, and the others stay distinct. -/
theorem effective_nodup (distinct : (o.map (·.1)).Nodup) :
    ((Settings.effective o).map (·.1)).Nodup :=
  distinct.sublist (List.filter_sublist.map _)

/-- With distinct names to be among the overrides is to be found. -/
theorem mem_effective_iff (distinct : (o.map (·.1)).Nodup) {t : SettingName} {v : Value} :
    (t, v) ∈ Settings.effective o ↔ overriding? o t = some v := by
  rw [← lookup_eq_some_iff_mem (effective_nodup distinct), lookup_effective distinct]

/-- The plain settings can be made, then the profile's assignments can be put into them, and then
the overrides. -/
theorem loads_of_loadable (homes : Homes) (mapping : p.IsMapping) (distinct : (o.map (·.1)).Nodup)
    (loadable : Loadable p o) :
    ∃ c, Settings.ofProfile homes p (dottedOverrides o) = .ok c ∧ Loads p o c := by
  obtain ⟨name, named⟩ := loadable.name
  obtain ⟨workdir, placed⟩ := loadable.workdir
  obtain ⟨env, equipped⟩ := loadable.env
  obtain ⟨changes, stands⟩ := loadable.sections
  have begun := Profile.plainSettings_eq_ok_iff.mpr
    ⟨name, workdir, env, named, placed, equipped, rfl⟩
  have full := full_plain name env workdir
  obtain ⟨s1, done, assigned⟩ := Settings.assignAll full (stands.nodup mapping)
    fun t v among => by
      obtain ⟨sec, key, rfl, held⟩ := (stands.mem_iff mapping).mp among
      have accepted := loadable.given sec key v held
      exact ⟨accepted.known, accepted.converted, get_plain sec key ▸ accepted.list⟩
  have base := get_of_changes mapping stands placed assigned
  obtain ⟨c, chosen, final⟩ := Settings.assignAll assigned.full (effective_nodup distinct)
    fun t v among => by
      have held := (mem_effective_iff distinct).mp among
      obtain ⟨known, converted, list⟩ := loadable.overrides t v held
      exact ⟨known, converted, base t known ▸ list⟩
  obtain ⟨each, gives, rfl⟩ := stands
  refine ⟨c, ofProfile_eq_ok_iff.mpr ⟨loadable.keys, _, begun, s1, ?_, chosen⟩,
    final.full, ?_, ?_, ?_⟩
  · rw [Profile.applySections_eq gives]
    exact done
  · rw [named, final.name, assigned.name]
  · rw [equipped, final.env, assigned.env]
  · intro t known
    rw [final.get t known, lookup_effective distinct]
    rcases overriding? o t with _ | v
    · exact base t known
    · rfl

/-- Settings that came out have passed each of the steps, and each step is one of the conditions. -/
theorem loadable_of_ok (mapping : p.IsMapping) (distinct : (o.map (·.1)).Nodup)
    (returned : Settings.ofProfile homes p (dottedOverrides o) = .ok c) :
    Loadable p o := by
  obtain ⟨keys, s0, begun, s1, done, chosen⟩ := ofProfile_eq_ok_iff.mp returned
  obtain ⟨name, workdir, env, named, placed, equipped, rfl⟩ :=
    Profile.plainSettings_eq_ok_iff.mp begun
  obtain ⟨changes, stands⟩ := Profile.changes_of_applySections done
  have flat : changes.foldlM Settings.assign
      { name := name, workdir := workdir, env := env } = Except.ok s1 := by
    obtain ⟨each, gives, rfl⟩ := stands
    exact (Profile.applySections_eq gives).symm.trans done
  have full := full_plain name env workdir
  have accepted := Settings.accepts_of_assignAll full (stands.nodup mapping) flat
  obtain ⟨s1', done', assigned⟩ := Settings.assignAll full (stands.nodup mapping) accepted
  cases flat.symm.trans done'
  have base := get_of_changes mapping stands placed assigned
  have accepted' := Settings.accepts_of_assignAll assigned.full (effective_nodup distinct) chosen
  refine ⟨keys, ⟨name, named⟩, ⟨workdir, placed⟩, ⟨env, equipped⟩, ⟨changes, stands⟩,
    ?_, ?_⟩
  · intro sec key v held
    have here := accepted _ v ((stands.mem_iff mapping).mpr ⟨sec, key, rfl, held⟩)
    exact ⟨here.known, here.converted, get_plain sec key ▸ here.list⟩
  · intro t v held
    have here := accepted' t v ((mem_effective_iff distinct).mpr held)
    exact ⟨here.known, here.converted, base t here.known ▸ here.list⟩

end Outcome

end BuildBench
