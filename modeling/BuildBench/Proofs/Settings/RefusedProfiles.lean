import BuildBench.CommandLine.Basic
import BuildBench.Proofs.History.Actions
import BuildBench.Proofs.Settings.EditedProfiles

/-!
# Profiles that are refused

A profile that is not accepted is refused with a reason, except where something of the wrong type is
read before any reason is found: a key of the profile that nobody knows and that is no text, or a value
in the place of a path that is no text. `Profile.Mistyped` says exactly when. Whoever goes on with the
settings of a profile on the command line refuses the line in the first case, and fails in the second.
-/

namespace BuildBench

/-! ## Folds that may fail -/

section Fold

variable {σ α ε : Type} {step : σ → α → Except ε σ} {s s' : σ} {xs : List α} {e : ε}

/-- A fold that fails does so at one item, after those before it. -/
theorem foldlM_error (failed : xs.foldlM step s = .error e) :
    ∃ before x after s', xs = before ++ x :: after ∧ before.foldlM step s = .ok s' ∧
      step s' x = .error e := by
  induction xs generalizing s with
  | nil => cases failed
  | cons x rest ih =>
    rw [List.foldlM_cons] at failed
    rcases first : step s x with f | s1 <;> rw [first] at failed
    · cases failed
      exact ⟨[], x, rest, s, rfl, rfl, first⟩
    · obtain ⟨before, y, after, s', rfl, others, stops⟩ := ih failed
      refine ⟨x :: before, y, after, s', rfl, ?_, stops⟩
      rw [List.foldlM_cons, first]
      exact others

/-- The steps before are passed, and none after is tried. -/
theorem foldlM_stops {before after : List α} {x : α} (passed : before.foldlM step s = .ok s')
    (stops : step s' x = .error e) : (before ++ x :: after).foldlM step s = .error e := by
  have rest : (x :: after).foldlM step s' = .error e := by
    rw [List.foldlM_cons, stops]
    rfl
  rw [List.foldlM_append, passed]
  exact rest

/-- What holds of the start and is kept by every step holds in the end, and before every item that
was passed. -/
theorem foldlM_keeps {P : σ → Prop} (kept : ∀ s x s', P s → step s x = .ok s' → P s')
    (start : P s) (done : xs.foldlM step s = .ok s') :
    P s' ∧ ∀ x ∈ xs, ∃ s1 s2, P s1 ∧ step s1 x = .ok s2 := by
  induction xs generalizing s with
  | nil =>
    cases done
    exact ⟨start, nofun⟩
  | cons x rest ih =>
    rw [List.foldlM_cons] at done
    rcases first : step s x with f | s1 <;> rw [first] at done
    · cases done
    · obtain ⟨final, others⟩ := ih (kept s x s1 start first) done
      exact ⟨final, List.forall_mem_cons.mpr ⟨⟨s, s1, start, first⟩, others⟩⟩

/-- Not everything has a result if one thing has none. -/
theorem mapM_eq_none_iff {α β : Type} {g : α → Option β} {xs : List α} :
    xs.mapM g = none ↔ ∃ x ∈ xs, g x = none := by
  induction xs with
  | nil => simp
  | cons x rest ih =>
    rw [List.mapM_cons, List.exists_mem_cons_iff, ← ih]
    cases g x <;> cases rest.mapM g <;> simp

end Fold

/-! ## Reasons against a value -/

section Reasons

variable {v : Value} {f : Fault}

/-- A number of very many digits has no text, which is an invalid value. -/
theorem textOf_error (failed : v.textOf = .error f) : f.isInvalidValue = true := by
  unfold Value.textOf Value.shown at failed
  split at failed <;> cases failed
  rfl

/-- A value that is no list is an invalid one. -/
theorem listSetting_error {sec : SectionName} {key : String}
    (failed : listSetting sec key v = .error f) : f.isInvalidValue = true := by
  unfold listSetting at failed
  split at failed <;> cases failed
  rfl

/-- By the kind of the value. -/
theorem pathSetting_error_iff :
    pathSetting v = .error f ↔ f = .wrongType ∧ ∀ s, v ≠ .text s := by
  cases v <;> simp [pathSetting, eq_comm]

/-- A value that is no map is an invalid one, and so is one with an entry without a text. -/
theorem variablesSetting_error (failed : variablesSetting v = .error f) :
    f.isInvalidValue = true := by
  unfold variablesSetting at failed
  split at failed
  · cases failed
  · next entries held =>
    obtain ⟨-, ⟨k, value⟩, -, vars, -, -, stops⟩ := foldlM_error failed
    dsimp only at stops
    rcases named : k.textOf with g | name <;> rw [named] at stops
    · cases stops
      exact textOf_error named
    · rcases shown : variableText value with g | text <;> rw [shown] at stops
      · cases stops
        unfold variableText at shown
        split at shown
        · cases shown
        · exact textOf_error shown
      · cases stops
  · cases failed
    rfl

/-- A value cannot be converted for a reason, or because it is no text and a path is asked for. -/
theorem convert_error {t : SettingName} (failed : v.convert t = .error f) :
    f.isInvalidValue = true ∨ (f = .wrongType ∧ t ∈ SettingName.paths ∧ ∀ s, v ≠ .text s) := by
  cases t with
  | workdir =>
    rcases taken : pathSetting v with g | p <;> rw [Value.convert, taken] at failed <;> cases failed
    obtain ⟨rfl, other⟩ := pathSetting_error_iff.mp taken
    exact .inr ⟨rfl, by simp [SettingName.paths], other⟩
  | inSection sec key =>
    rw [Value.convert] at failed
    split at failed
    · rcases taken : listSetting sec key v with g | items <;> rw [taken] at failed <;> cases failed
      exact .inl (listSetting_error taken)
    split at failed
    · next among =>
      rcases taken : pathSetting v with g | p <;> rw [taken] at failed <;> cases failed
      obtain ⟨rfl, other⟩ := pathSetting_error_iff.mp taken
      exact .inr ⟨rfl, among, other⟩
    split at failed
    · rcases taken : variablesSetting v with g | vars <;> rw [taken] at failed <;> cases failed
      exact .inl (variablesSetting_error taken)
    · cases failed

end Reasons

namespace Settings

variable {s s' : Settings} {sec : SectionName} {k v : Value} {f : Fault}

/-- The key is shown by its text or, if it has too many digits, has none. Both are invalid values.
-/
theorem unknownKey_isInvalid (sec : String) (keys : List String) (key : Value) :
    (unknownKey sec keys key).isInvalidValue = true := by
  unfold unknownKey
  split
  · rfl
  · next g failed => exact textOf_error failed

/-- Only known settings can be set, and all settings can be asked for afterwards. -/
theorem setEntry_ok (full : s.Full) (done : s.setEntry sec k v = .ok s') :
    s'.Full ∧ ∃ key ∈ sec.keys, k = .text key := by
  cases k with
  | text key =>
    have assigned : s.assign (.inSection sec key, v) = .ok s' := done
    have accepted := accepts_of_assign assigned
    obtain ⟨kept, converted⟩ := accepted.converted
    obtain ⟨s1, done', put⟩ := (assign_places full accepted).2 kept converted
    cases assigned.symm.trans done'
    exact ⟨put.full full, key, accepted.known, rfl⟩
  | _ => cases done

/-- A setting is refused for a reason, or because the folder of the cache is no text. -/
theorem setEntry_error (full : s.Full) (failed : s.setEntry sec k v = .error f) :
    f.isInvalidValue = true ∨
      (f = .wrongType ∧ sec = .cache ∧ k = .text "dir" ∧ ∀ t, v ≠ .text t) := by
  rw [setEntry] at failed
  rcases named : knownKey? sec k with _ | key <;> rw [named] at failed
  · cases failed
    exact .inl (unknownKey_isInvalid _ _ _)
  obtain ⟨known, rfl⟩ : key ∈ sec.keys ∧ k = .text key := by
    cases k with
    | text t =>
      simp only [knownKey?, List.contains_eq_mem, decide_eq_true_eq] at named
      split at named
      · next known =>
        cases named
        exact ⟨known, rfl⟩
      · cases named
    | _ => cases named
  obtain ⟨old, held⟩ := full (.inSection sec key) known
  dsimp only at failed
  by_cases list : old.isList = true → ∃ items, v.bare = .list items
  · rcases converted : v.convert (.inSection sec key) with g | kept
    · cases ((setKey_places known held list).1 g converted).symm.trans failed
      refine (convert_error converted).imp_right ?_
      rintro ⟨wrong, among, other⟩
      refine ⟨wrong, ?_⟩
      simp only [SettingName.paths, List.mem_cons, reduceCtorEq, SettingName.inSection.injEq,
        List.not_mem_nil, or_false, false_or] at among
      exact ⟨among.1, among.2 ▸ rfl, other⟩
    · obtain ⟨s', done, -⟩ := (setKey_places known held list).2 kept converted
      cases done.symm.trans failed
  · obtain ⟨isList, none⟩ := Classical.not_imp.mp list
    refine .inl ?_
    have setting : s.setting key sec = .ok old := held
    rcases taken : listSetting sec key v with g | items
    · have stopped : s.keepList sec key v = .error g := by
        rw [keepList, setting]
        simp [isList, taken, bind, Except.bind]
      unfold setKey at failed
      rw [stopped] at failed
      cases failed
      exact listSetting_error taken
    · exact absurd ⟨items, listSetting_eq_ok_iff.mp taken⟩ none

/-- The folder of the cache is refused without a reason if it is no text. -/
theorem setEntry_dir (full : s.Full) (other : ∀ t, v ≠ .text t) :
    s.setEntry .cache (.text "dir") v = .error .wrongType := by
  have known : "dir" ∈ SectionName.cache.keys := by decide
  obtain ⟨old, held⟩ := full (.inSection .cache "dir") known
  have setting : s.setting "dir" .cache = .ok old := held
  have path : old.isList = true → ∃ items, v.bare = .list items := by
    rcases given : s.cache.given with g | c <;> rw [Settings.setting, given] at setting <;>
      cases setting
    rintro ⟨⟩
  have refused : v.convert (.inSection .cache "dir") = .error .wrongType := by
    have failed : pathSetting v = .error .wrongType := pathSetting_error_iff.mpr ⟨rfl, other⟩
    change (pathSetting v).map Setting.path = _
    rw [failed]
    rfl
  exact (setKey_places known held path).1 _ refused

/-- By what the section is: a map has only keys that could be set, and setting one leaves the
settings full. -/
theorem setSection_ok (full : s.Full) (done : s.setSection sec v = .ok s') :
    s'.Full ∧ ∀ entries, v.bare = .map entries →
      ∀ e ∈ entries, ∃ key ∈ sec.keys, e.1 = .text key := by
  unfold setSection at done
  split at done
  · next held =>
    cases done
    exact ⟨full, fun entries map => by cases held.symm.trans map⟩
  · next entries held =>
    have kept (s : Settings) (e : Value × Value) (s' : Settings) (full : s.Full)
        (done : s.setEntry sec e.1 e.2 = .ok s') : s'.Full := (setEntry_ok full done).1
    obtain ⟨final, each⟩ := foldlM_keeps kept full done
    refine ⟨final, fun entries' map e among => ?_⟩
    cases held.symm.trans map
    obtain ⟨s1, s2, full, passed⟩ := each e among
    exact (setEntry_ok full passed).2
  · cases done

/-- A section is refused for a reason, or at the folder of the cache. -/
theorem setSection_error (full : s.Full) (failed : s.setSection sec v = .error f) :
    f.isInvalidValue = true ∨ (f = .wrongType ∧ sec = .cache ∧ ∃ before dir after s',
      v.bare = .map (before ++ (.text "dir", dir) :: after) ∧
      before.foldlM (fun s (key, v) => s.setEntry sec key v) s = .ok s' ∧
      ∀ t, dir ≠ .text t) := by
  unfold setSection at failed
  split at failed
  · cases failed
  · next entries held =>
    obtain ⟨before, ⟨k, dir⟩, after, s1, rfl, passed, stops⟩ := foldlM_error failed
    have kept (s : Settings) (e : Value × Value) (s' : Settings) (full : s.Full)
        (done : s.setEntry sec e.1 e.2 = .ok s') : s'.Full := (setEntry_ok full done).1
    have reached := (foldlM_keeps kept full passed).1
    refine (setEntry_error reached stops).imp_right ?_
    rintro ⟨wrong, cache, rfl, other⟩
    exact ⟨wrong, cache, before, dir, after, s1, held, passed, other⟩
  · cases failed
    exact .inl rfl

end Settings

/-! ## The whole profile -/

namespace Profile

/-- Something of the wrong type is the first thing in a profile that is not accepted. -/
inductive Mistyped (p : Profile) : Prop
  /-- A key that nobody knows is no text. -/
  | key {k : Value} (unknown : k ∈ p.unknownKeys) (other : ∀ s, k ≠ .text s)
  /-- The working directory is no text, and the name before it can be shown. -/
  | workdir {name v : Value} (known : p.unknownKeys = []) (named : p.givenName = .ok name)
    (held : p.present? "workdir" = some v) (other : ∀ s, v ≠ .text s)
  /-- The folder of the cache is no text, and all that is read before it is accepted. -/
  | cacheFolder {s s1 s2 : Settings} {before after : List (Value × Value)} {dir : Value}
    (known : p.unknownKeys = []) (begun : p.plainSettings = .ok s)
    (earlier : [SectionName.triggers, .checkout].foldlM p.applySection s = .ok s1)
    (held : (p.sectionValue .cache).bare = .map (before ++ (.text "dir", dir) :: after))
    (passed : before.foldlM (fun s (key, v) => s.setEntry .cache key v) s1 = .ok s2)
    (other : ∀ s, dir ≠ .text s)

variable {p : Profile} {f : Fault}

/-- Keys that nobody knows are refused by name, unless one of them has none. -/
theorem checkKeys_error (failed : p.checkKeys = .error f) :
    f.isInvalidValue = true ∨ f = .wrongType ∧ ∃ k ∈ p.unknownKeys, ∀ s, k ≠ .text s := by
  unfold checkKeys at failed
  dsimp only at failed
  split at failed
  · cases failed
  split at failed
  · next collected =>
    cases failed
    obtain ⟨k, among, nameless⟩ := mapM_eq_none_iff.mp collected
    refine .inr ⟨rfl, k, among, fun s same => ?_⟩
    subst same
    cases nameless
  · cases failed
    exact .inl rfl

/-- The unknown keys are to be sorted or joined as texts, and one of them is none. -/
theorem checkKeys_of_textless {k : Value} (unknown : k ∈ p.unknownKeys) (other : ∀ s, k ≠ .text s) :
    p.checkKeys = .error .wrongType := by
  unfold checkKeys
  dsimp only
  rw [if_neg (by simpa using List.ne_nil_of_mem unknown)]
  split
  · rfl
  · next names collected =>
    have nameless : ¬ ∃ k ∈ p.unknownKeys, _ := mt mapM_eq_none_iff.mpr (by rw [collected]; simp)
    refine absurd ⟨k, unknown, ?_⟩ nameless
    cases k with
    | text s => exact absurd rfl (other s)
    | _ => rfl

/-- What stands beside the sections is refused for a reason, or for a working directory that is no
text. -/
theorem plainSettings_error (failed : p.plainSettings = .error f) :
    f.isInvalidValue = true ∨ (f = .wrongType ∧ ∃ name v, p.givenName = .ok name ∧
      p.present? "workdir" = some v ∧ ∀ s, v ≠ .text s) := by
  rw [plainSettings_eq] at failed
  rcases named : p.givenName with g | name <;> rw [named] at failed
  · cases failed
    rw [givenName] at named
    split at named
    · next v found =>
      rcases shown : v.textOf with h | text <;> rw [shown] at named <;> cases named
      exact .inl (textOf_error shown)
    · cases named
  rcases placed : p.givenWorkdir with g | workdir <;> rw [placed] at failed
  · cases failed
    rw [givenWorkdir] at placed
    split at placed
    · next v found =>
      obtain ⟨wrong, other⟩ := pathSetting_error_iff.mp placed
      exact .inr ⟨wrong, name, v, rfl, found, other⟩
    · cases placed
  rcases equipped : p.givenEnv with g | env <;> rw [equipped] at failed
  · cases failed
    rw [givenEnv] at equipped
    split at equipped
    · next v found =>
      rcases read : variablesSetting v with h | vars <;> rw [read] at equipped <;> cases equipped
      exact .inl (variablesSetting_error read)
    · cases equipped
  · cases failed

/-- Plain settings have all their sections. -/
theorem full_of_plainSettings {s : Settings} (begun : p.plainSettings = .ok s) : s.Full := by
  obtain ⟨name, workdir, env, -, -, -, rfl⟩ := plainSettings_eq_ok_iff.mp begun
  exact full_plain name env workdir

/-- A section that could be set leaves the settings full. -/
theorem applySection_keeps (s : Settings) (sec : SectionName) (s' : Settings) (full : s.Full)
    (done : p.applySection s sec = .ok s') : s'.Full :=
  (Settings.setSection_ok full done).1

/-- A profile is refused for a reason, or because it is mistyped. -/
theorem settings_error (failed : p.settings = .error f) :
    f.isInvalidValue = true ∨ (f = .wrongType ∧ p.Mistyped) := by
  rw [settings] at failed
  rcases checked : p.checkKeys with g | done <;> rw [checked] at failed
  · cases failed
    refine (checkKeys_error checked).imp_right ?_
    rintro ⟨wrong, k, unknown, other⟩
    exact ⟨wrong, .key unknown other⟩
  have known := checkKeys_eq_ok_iff.mp checked
  rcases begun : p.plainSettings with g | s <;> rw [begun] at failed
  · cases failed
    refine (plainSettings_error begun).imp_right ?_
    rintro ⟨wrong, name, v, named, held, other⟩
    exact ⟨wrong, .workdir known named held other⟩
  obtain ⟨before, sec, after, s1, split, passed, stops⟩ := foldlM_error failed
  have reached := (foldlM_keeps applySection_keeps (full_of_plainSettings begun) passed).1
  refine (Settings.setSection_error reached stops).imp_right ?_
  rintro ⟨wrong, rfl, entries, dir, rest, s2, held, entered, other⟩
  refine ⟨wrong, .cacheFolder known begun ?_ held entered other⟩
  have earlier : before = [.triggers, .checkout] := by
    rcases before with _ | ⟨a, _ | ⟨b, _ | ⟨c, more⟩⟩⟩ <;> simp [SectionName.all] at split
    · simp [split]
    · have among : SectionName.cache ∈ [SectionName.install, .build, .fixture, .benchmark] := by
        simp [split.2.2.2]
      exact absurd among (by decide)
  exact earlier ▸ passed

/-- A mistyped profile is refused without a reason. -/
theorem Mistyped.settings_eq (mistyped : p.Mistyped) : p.settings = .error .wrongType := by
  cases mistyped with
  | key unknown other =>
    rw [settings, checkKeys_of_textless unknown other]
    rfl
  | workdir known named held other =>
    have placed : p.givenWorkdir = .error .wrongType := by
      rw [givenWorkdir, held]
      exact pathSetting_error_iff.mpr ⟨rfl, other⟩
    rw [settings, checkKeys_eq_ok_iff.mpr known, plainSettings_eq, named, placed]
    rfl
  | @cacheFolder s s1 s2 before after dir known begun earlier held passed other =>
    have full := full_of_plainSettings begun
    have reached := (foldlM_keeps applySection_keeps full earlier).1
    have kept (s : Settings) (e : Value × Value) (s' : Settings) (full : s.Full)
        (done : s.setEntry .cache e.1 e.2 = .ok s') : s'.Full :=
      (Settings.setEntry_ok full done).1
    have entered := (foldlM_keeps kept reached passed).1
    have stops : p.applySection s1 .cache = .error .wrongType := by
      rw [applySection, ← sectionValue, Settings.setSection, held]
      exact foldlM_stops passed (Settings.setEntry_dir entered other)
    have whole : SectionName.all = [.triggers, .checkout] ++ .cache ::
      [.install, .build, .fixture, .benchmark] := rfl
    have sections : SectionName.all.foldlM p.applySection s = .error .wrongType := by
      rw [whole]
      exact foldlM_stops earlier stops
    rw [settings, checkKeys_eq_ok_iff.mpr known, begun]
    exact sections

/-- All keys of a profile and of its sections are known. -/
structure KnownKeys (p : Profile) : Prop where
  sections : p.unknownKeys = []
  settings (sec : SectionName) (entries : List (Value × Value))
    (held : (p.sectionValue sec).bare = .map entries) :
    ∀ e ∈ entries, ∃ key ∈ sec.keys, e.1 = .text key

/-- The keys of the profile were checked, and then those of each section as it was set. -/
theorem knownKeys_of_settings {s : Settings} (accepted : p.settings = .ok s) : p.KnownKeys := by
  rw [settings] at accepted
  rcases checked : p.checkKeys with g | done <;> rw [checked] at accepted
  · cases accepted
  rcases begun : p.plainSettings with g | s0 <;> rw [begun] at accepted
  · cases accepted
  refine ⟨checkKeys_eq_ok_iff.mp checked, fun sec entries held => ?_⟩
  obtain ⟨-, each⟩ := foldlM_keeps applySection_keeps (full_of_plainSettings begun) accepted
  obtain ⟨s1, s2, full, passed⟩ := each sec (mem_all sec)
  exact (Settings.setSection_ok full passed).2 entries held

end Profile

/-! ## On the command line -/

namespace CommandLine

open BuildBench.Action

/-- A refusal stops as a fault does, and is passed on as a value. -/
theorem guarded_bind_run {α β : Type} (a : Guarded α) (next : α → Guarded β) (w : World) :
    (a >>= next).run w =
      match a.run w with
      | (.ok (.ok x), u) => (next x).run u
      | (.ok (.error r), u) => (.ok (.error r), u)
      | (.error f, u) => (.error f, u) := by
  change (a.run >>= ExceptT.bindCont next) w = _
  rw [bind_run]
  rcases a.run w with ⟨f | r | x, u⟩ <;> rfl

/-- An action that is lifted refuses nothing. -/
theorem lifted_run {α : Type} (a : Action α) (w : World) :
    ((liftM a : Guarded α).run) w = (((a w).1.map Except.ok), (a w).2) := by
  change (a >>= fun x => pure (Except.ok x)) w = _
  rw [bind_run]
  rcases a w with ⟨f | x, u⟩ <;> rfl

/-- The profile was loaded, so all that can still go wrong is in the profile itself. -/
theorem settingsOf_run {p : Profile} {path : PathName} {o : List Override} {w u : World}
    (loaded : Profile.load path w = (.ok p, u)) :
    (settingsOf (some path) o).run w =
      match Settings.ofProfile u.homes p o with
      | .ok s => (.ok (.ok s), u)
      | .error f =>
        if f.isInvalidValue then (.ok (.error (.badValue "--profile" f.message)), u)
        else (.error f, u) := by
  have load : (do
      let p ← Profile.load path
      Action.ofResult (Settings.ofProfile (← Disk.homes) p o) : Action Settings) w =
        (Settings.ofProfile u.homes p o, u) := by
    rw [bind_run, loaded]
    exact ofResult_run _ _
  rw [settingsOf, guarded_bind_run, lifted_run, attempt_run]
  dsimp only
  rw [load]
  rcases Settings.ofProfile u.homes p o with f | s
  · dsimp only [Except.map]
    split <;> rfl
  · rfl


/-- Whether the usage is shown or not, the code at the end is the same. -/
theorem refuse_run (usage hint : String) (r : Refusal) (w : World) :
    (refuse usage hint r w).1 = .ok refusedCode := by
  unfold refuse
  cases r.showsUsage <;> rfl

section Refusing

variable {p : Profile} {path : PathName} {w u : World} {f : Fault}

/-- Whoever goes on with the settings of a profile refuses the command line where the profile is
refused for a reason, and fails where it is refused without one. -/
theorem answering_refused (loaded : Profile.load path w = (.ok p, u))
    (refused : p.settings = .error f) (o : List Override) (usage hint : String)
    (next : Settings → Guarded Int) :
    (answering usage hint (settingsOf (some path) o >>= next) w).1 =
      if f.isInvalidValue then .ok refusedCode else .error f := by
  have given : Settings.ofProfile u.homes p o = .error f := by
    rw [Settings.ofProfile, refused]
    rfl
  by_cases invalid : f.isInvalidValue = true
  · have result : (settingsOf (some path) o >>= next).run w =
        (.ok (.error (.badValue "--profile" f.message)), u) := by
      rw [guarded_bind_run, settingsOf_run loaded, given]
      dsimp only
      rw [if_pos invalid]
    rw [answering, bind_run, result, if_pos invalid]
    exact refuse_run usage hint _ u
  · have result : (settingsOf (some path) o >>= next).run w = (.error f, u) := by
      rw [guarded_bind_run, settingsOf_run loaded, given]
      dsimp only
      rw [if_neg invalid]
    rw [answering, bind_run, result, if_neg invalid]

end Refusing

end CommandLine

/-- A profile is accepted only if all its keys are known. Otherwise it is refused for a reason, and so
is the command line that names it; unless the profile is mistyped, when there is no reason, and the
command line fails as well. -/
theorem Settings.ofProfile_outcome (homes : Homes) (p : Profile) :
    (∀ s, Settings.ofProfile homes p [] = .ok s → p.KnownKeys) ∧
      (p.Mistyped ↔ Settings.ofProfile homes p [] = .error .wrongType) ∧
      ∀ f, Settings.ofProfile homes p [] = .error f →
        (f.isInvalidValue = true ↔ ¬ p.Mistyped) ∧
        ∀ path w u o usage hint next, Profile.load path w = (.ok p, u) →
          (CommandLine.answering usage hint (CommandLine.settingsOf (some path) o >>= next) w).1 =
            if f.isInvalidValue then .ok CommandLine.refusedCode else .error f := by
  have plain : Settings.ofProfile homes p [] = p.settings := by
    unfold Settings.ofProfile
    rcases p.settings with f | s <;> rfl
  rw [plain]
  refine ⟨fun s => Profile.knownKeys_of_settings, ⟨Profile.Mistyped.settings_eq, fun failed => ?_⟩,
    fun f failed => ⟨⟨fun invalid mistyped => ?_, fun typed => ?_⟩,
      fun path w u o usage hint next loaded =>
        CommandLine.answering_refused loaded failed o usage hint next⟩⟩
  · rcases Profile.settings_error failed with invalid | ⟨-, mistyped⟩
    · cases invalid
    · exact mistyped
  · cases failed.symm.trans mistyped.settings_eq
    cases invalid
  · exact (Profile.settings_error failed).resolve_right fun ⟨_, mistyped⟩ => typed mistyped

/-- A world with one file, which holds a profile. -/
def profileWorld (document : String) : World where
  files := { root := [("p.yaml", .file document.toUTF8 false)], current := [] }
  processes := ⟨[], { launch := .notFound }⟩
  replies := ⟨[], .refused .connection "no connection"⟩

/-- The text is read by evaluation. -/
theorem load_unknownSection : ((Profile.load (PathName.parse "/p.yaml") (profileWorld "a:")).1
    matches .ok [(.text "a", .null)]) = true := by
  decide +kernel

/-- A profile with an unknown section refuses the command line. -/
theorem Settings.ofProfile_outcome_unknownSection :
    let path := PathName.parse "/p.yaml"
    let w := profileWorld "a:"
    let p : Profile := [(.text "a", .null)]
    ∃ f u, Settings.ofProfile u.homes p [] = .error f ∧ Profile.load path w = (.ok p, u) ∧
      f.isInvalidValue = true ∧ ¬ p.Mistyped ∧
      (CommandLine.answering "" "" (CommandLine.settingsOf (some path) [] >>= fun _ => pure 0) w).1 =
        .ok 2 := by
  intro path w p
  have held : (Profile.load path w).1 = .ok p := by
    have shape := load_unknownSection
    split at shape
    · assumption
    · cases shape
  have loaded : Profile.load path w = (.ok p, (Profile.load path w).2) := Prod.ext held rfl
  obtain ⟨f, refused⟩ : ∃ f, Settings.ofProfile (Profile.load path w).2.homes p [] = .error f :=
    ⟨_, rfl⟩
  obtain ⟨-, -, fails⟩ := Settings.ofProfile_outcome (Profile.load path w).2.homes p
  obtain ⟨reasoned, answered⟩ := fails f refused
  have invalid : f.isInvalidValue = true := by
    cases refused
    rfl
  have code := answered path w _ [] "" "" (fun _ => pure 0) loaded
  rw [if_pos invalid] at code
  exact ⟨f, _, refused, loaded, invalid, reasoned.mp invalid, code⟩

/-- A truth value as the key of a section is unknown, and is not refused for a reason. -/
theorem Settings.ofProfile_truthKey :
    let p : Profile := [(.bool true, .text "push")]
    .bool true ∈ p.unknownKeys ∧
      Settings.ofProfile { own := "/root" } p [] = .error .wrongType ∧
      Fault.wrongType.isInvalidValue = false :=
  ⟨List.mem_singleton.mpr rfl, rfl, rfl⟩

end BuildBench
