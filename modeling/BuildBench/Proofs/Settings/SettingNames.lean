import BuildBench.Proofs.Settings.VariableMaps

/-!
# Settings by name

Every setting that a profile or an override can give has a name: the working directory, or a key of
a section. `Value.Becomes` says what a value becomes under a name. Setting a key puts exactly this
one setting, and settings that agree under every name agree altogether. From the single assignment
follows what a list of assignments to distinct names leaves behind, and when it succeeds.
-/

namespace BuildBench

/-- What names a setting that a profile and an override can give: the working directory, or a
section and one of its keys. -/
inductive SettingName where
  | workdir
  | inSection (sec : SectionName) (key : String)
  deriving DecidableEq

namespace SettingName

/-- Whether there is a setting of this name. -/
def Known : SettingName → Prop
  | .workdir => True
  | .inSection sec key => key ∈ sec.keys

/-- The settings that are paths. -/
def paths : List SettingName := [.workdir, .inSection .cache "dir"]

/-- The settings that are lists. -/
def lists : List SettingName :=
  [.inSection .triggers "branches", .inSection .triggers "events", .inSection .cache "paths",
   .inSection .install "packages"]

/-- The variables of the build. -/
def buildEnv : SettingName := .inSection .build "env"

end SettingName

/-- The setting that a value becomes under a name. -/
inductive Value.Becomes : SettingName → Value → Setting → Prop where
  | path {t : SettingName} {s : String} (among : t ∈ SettingName.paths) :
      Becomes t (.text s) (.path (.parse s))
  | items {t : SettingName} {v : Value} {items : List Value} (among : t ∈ SettingName.lists)
      (held : v.bare = .list items) : Becomes t v (.items items)
  | variables {v : Value} {vars : Variables} (stands : v.StandsFor vars) :
      Becomes .buildEnv v (.variables vars)
  | value {t : SettingName} {v : Value}
      (other : t ∉ SettingName.paths ++ SettingName.lists ++ [.buildEnv]) : Becomes t v (.value v)

/-- The setting that a value is converted to under a name. -/
def Value.convert (v : Value) : SettingName → Except Fault Setting
  | .workdir => (pathSetting v).map .path
  | .inSection sec key =>
    if SettingName.inSection sec key ∈ SettingName.lists then (listSetting sec key v).map .items
    else if SettingName.inSection sec key ∈ SettingName.paths then (pathSetting v).map .path
    else if SettingName.inSection sec key = .buildEnv then (variablesSetting v).map .variables
    else .ok (.value v)

/-- By the kind of the value: only lists are taken, bare of what marks them as shared. -/
theorem listSetting_eq_ok_iff {sec : SectionName} {key : String} {v : Value} {items : List Value} :
    listSetting sec key v = .ok items ↔ v.bare = .list items := by
  unfold listSetting
  split
  next found held => rw [held, Except.ok.injEq, Value.list.injEq]
  next other =>
    refine ⟨fun taken => (by cases taken), fun held => ?_⟩
    exact absurd held (other items)

/-- By the kind of the value: only texts are taken. -/
theorem pathSetting_eq_ok_iff {v : Value} {p : PathName} :
    pathSetting v = .ok p ↔ ∃ s, v = .text s ∧ p = .parse s := by
  cases v <;> simp [pathSetting, eq_comm]

/-- By the name: a path, a list, variables, or the value as it is. -/
theorem Value.becomes_of_convert {t : SettingName} {v : Value} {kept : Setting}
    (converted : v.convert t = .ok kept) : v.Becomes t kept := by
  cases t with
  | workdir =>
    rcases taken : pathSetting v with f | p <;> rw [Value.convert, taken] at converted <;>
      cases converted
    obtain ⟨s, rfl, rfl⟩ := pathSetting_eq_ok_iff.mp taken
    exact .path (by simp [SettingName.paths])
  | inSection sec key =>
    rw [Value.convert] at converted
    split at converted
    next among =>
      rcases taken : listSetting sec key v with f | items <;> rw [taken] at converted <;>
        cases converted
      exact .items among (listSetting_eq_ok_iff.mp taken)
    split at converted
    next among =>
      rcases taken : pathSetting v with f | p <;> rw [taken] at converted <;> cases converted
      obtain ⟨s, rfl, rfl⟩ := pathSetting_eq_ok_iff.mp taken
      exact .path among
    split at converted
    next list path env =>
      rcases taken : variablesSetting v with f | vars <;> rw [taken] at converted <;>
        cases converted
      rw [env]
      exact .variables (variablesSetting_standsFor taken)
    next list path env =>
      cases converted
      exact .value (by simp [list, path, env])

namespace Settings

/-- The setting of a name. -/
def get (s : Settings) : SettingName → Except Fault Setting
  | .workdir => .ok (.path s.workdir)
  | .inSection sec key => s.setting key sec

/-- All settings can be asked for. -/
def Full (s : Settings) : Prop := ∀ t : SettingName, t.Known → ∃ old, s.get t = .ok old

/-- One setting was put into some settings, and nothing else was changed. -/
structure Put (s : Settings) (t : SettingName) (kept : Setting) (s' : Settings) : Prop where
  this : s'.get t = .ok kept
  others : ∀ u : SettingName, u.Known → u ≠ t → s'.get u = s.get u
  name : s'.name = s.name
  env : s'.env = s.env

/-- What a change of a section's record does to its settings. -/
def Updates {α : Type} (look : String → α → Setting) (keys : List String) (key : String)
    (kept : Setting) (change : α → α) : Prop :=
  ∀ a, look key (change a) = kept ∧
    ∀ other ∈ keys, other ≠ key → look other (change a) = look other a

section Updates

variable {key : String} {v : Value}

/-- One key after the other: each has a field of its own. -/
theorem setTrigger_updates {items : List Value} (known : key ∈ SectionName.triggers.keys) :
    Updates triggerSetting SectionName.triggers.keys key (.items items)
      (setTrigger key items) := by
  intro t
  simp only [SectionName.keys, List.mem_cons, List.not_mem_nil, or_false] at known
  rcases known with rfl | rfl <;> simp [SectionName.keys, triggerSetting, setTrigger]

/-- One key after the other. -/
theorem setCheckout_updates (known : key ∈ SectionName.checkout.keys) :
    Updates checkoutSetting SectionName.checkout.keys key (.value v) (setCheckout key v) := by
  intro c
  simp only [SectionName.keys, List.mem_cons, List.not_mem_nil, or_false] at known
  rcases known with rfl | rfl | rfl <;> simp [SectionName.keys, checkoutSetting, setCheckout]

/-- One key after the other, apart from the folder and the paths, which are converted. -/
theorem setCache_updates (known : key ∈ SectionName.cache.keys)
    (plain : key ≠ "dir" ∧ key ≠ "paths") :
    Updates cacheSetting SectionName.cache.keys key (.value v) (setCache key v) := by
  intro c
  simp only [SectionName.keys, List.mem_cons, List.not_mem_nil, or_false] at known
  rcases known with rfl | rfl | rfl | rfl | rfl <;>
    simp [SectionName.keys, cacheSetting, setCache] at plain ⊢

/-- The field of the folder is the one that is set. -/
theorem dir_updates {dir : PathName} :
    Updates cacheSetting SectionName.cache.keys "dir" (.path dir) ({ · with dir := dir }) := by
  intro c
  simp [SectionName.keys, cacheSetting]

/-- The field of the paths is the one that is set. -/
theorem paths_updates {paths : List Value} :
    Updates cacheSetting SectionName.cache.keys "paths" (.items paths)
      ({ · with paths := paths }) := by
  intro c
  simp [SectionName.keys, cacheSetting]

/-- One key after the other, apart from the packages, which are converted. -/
theorem setInstall_updates (known : key ∈ SectionName.install.keys) (plain : key ≠ "packages") :
    Updates installSetting SectionName.install.keys key (.value v) (setInstall key v) := by
  intro i
  simp only [SectionName.keys, List.mem_cons, List.not_mem_nil, or_false] at known
  rcases known with rfl | rfl | rfl | rfl | rfl | rfl | rfl <;>
    simp [SectionName.keys, installSetting, setInstall] at plain ⊢

/-- The field of the packages is the one that is set. -/
theorem packages_updates {packages : List Value} :
    Updates installSetting SectionName.install.keys "packages" (.items packages)
      ({ · with packages := packages }) := by
  intro i
  simp [SectionName.keys, installSetting]

/-- One key after the other, apart from the variables, which are converted. -/
theorem setBuild_updates (known : key ∈ SectionName.build.keys) (plain : key ≠ "env") :
    Updates buildSetting SectionName.build.keys key (.value v) (setBuild key v) := by
  intro b
  simp only [SectionName.keys, List.mem_cons, List.not_mem_nil, or_false] at known
  rcases known with rfl | rfl | rfl | rfl <;>
    simp [SectionName.keys, buildSetting, setBuild] at plain ⊢

/-- The field of the variables is the one that is set. -/
theorem env_updates {env : Variables} :
    Updates buildSetting SectionName.build.keys "env" (.variables env)
      ({ · with env := env }) := by
  intro b
  simp [SectionName.keys, buildSetting]

/-- One key after the other. -/
theorem setFixture_updates (known : key ∈ SectionName.fixture.keys) :
    Updates fixtureSetting SectionName.fixture.keys key (.value v) (setFixture key v) := by
  intro f
  simp only [SectionName.keys, List.mem_cons, List.not_mem_nil, or_false] at known
  rcases known with rfl | rfl | rfl <;> simp [SectionName.keys, fixtureSetting, setFixture]

/-- One key after the other. -/
theorem setBenchmark_updates (known : key ∈ SectionName.benchmark.keys) :
    Updates benchmarkSetting SectionName.benchmark.keys key (.value v) (setBenchmark key v) := by
  intro b
  simp only [SectionName.keys, List.mem_cons, List.not_mem_nil, or_false] at known
  rcases known with rfl | rfl | rfl | rfl | rfl <;>
    simp [SectionName.keys, benchmarkSetting, setBenchmark]

end Updates

/-- A list may only be replaced by a list. -/
theorem keepList_eq_ok_iff {s : Settings} {sec : SectionName} {key : String} {v : Value} :
    s.keepList sec key v = .ok () ↔ ∃ old, s.setting key sec = .ok old ∧
      (old.isList = true → ∃ items, v.bare = .list items) := by
  unfold keepList
  rcases s.setting key sec with f | old
  · simp [bind, Except.bind]
  · by_cases list : old.isList = true
    · simp only [list, bind, Except.bind, ↓reduceIte, forall_const, Except.ok.injEq,
        exists_eq_left']
      rcases taken : listSetting sec key v with f | items
      · simp only [reduceCtorEq, false_iff, not_exists]
        intro items held
        rw [listSetting_eq_ok_iff.mpr held] at taken
        cases taken
      · simpa [pure, Except.pure] using ⟨items, listSetting_eq_ok_iff.mp taken⟩
    · simp [list, bind, Except.bind, pure, Except.pure]

/-- A change of one section that puts one of its settings. -/
theorem Put.of_section {s s' : Settings} {sec : SectionName} {key : String} {kept : Setting}
    (this : s'.setting key sec = .ok kept)
    (beside : ∀ other ∈ sec.keys, other ≠ key → s'.setting other sec = s.setting other sec)
    (elsewhere : ∀ sec' ≠ sec, ∀ other, s'.setting other sec' = s.setting other sec')
    (plain : s'.workdir = s.workdir ∧ s'.name = s.name ∧ s'.env = s.env) :
    Put s (.inSection sec key) kept s' := by
  refine ⟨this, fun u known apart => ?_, plain.2.1, plain.2.2⟩
  cases u with
  | workdir => exact congrArg (Except.ok ∘ Setting.path) plain.1
  | inSection sec' other =>
    by_cases same : sec' = sec
    · subst same
      exact beside other known fun equal => apart (equal ▸ rfl)
    · exact elsewhere sec' same other

/-- The settings of a section after a change of its record. -/
theorem Updates.given {α : Type} {look : String → α → Setting} {keys : List String}
    {key : String} {kept old : Setting} {change : α → α} {part : Section α}
    (updates : Updates look keys key kept change)
    (held : part.given.map (look key) = .ok old) :
    (part.modify change).given.map (look key) = .ok kept ∧
      ∀ other ∈ keys, other ≠ key →
        (part.modify change).given.map (look other) = part.given.map (look other) := by
  cases part with
  | replaced => cases held
  | settings a =>
    refine ⟨congrArg Except.ok (updates a).1, fun other among apart => ?_⟩
    exact congrArg Except.ok ((updates a).2 other among apart)

section Put

variable {s : Settings} {key : String} {kept old : Setting}

/-- The record of the triggers is changed, and those of the other sections are not looked at. -/
theorem put_triggers {change : Triggers → Triggers} (held : s.setting key .triggers = .ok old)
    (updates : Updates triggerSetting SectionName.triggers.keys key kept change) :
    Put s (.inSection .triggers key) kept { s with triggers := s.triggers.modify change } :=
  .of_section (updates.given held).1 (updates.given held).2
    (fun sec' apart other => by cases sec' <;> trivial) ⟨rfl, rfl, rfl⟩

/-- As for the triggers, with the record of the checkout. -/
theorem put_checkout {change : CheckoutSettings → CheckoutSettings}
    (held : s.setting key .checkout = .ok old)
    (updates : Updates checkoutSetting SectionName.checkout.keys key kept change) :
    Put s (.inSection .checkout key) kept { s with checkout := s.checkout.modify change } :=
  .of_section (updates.given held).1 (updates.given held).2
    (fun sec' apart other => by cases sec' <;> trivial) ⟨rfl, rfl, rfl⟩

/-- As for the triggers, with the record of the cache. -/
theorem put_cache {change : CacheSettings → CacheSettings} (held : s.setting key .cache = .ok old)
    (updates : Updates cacheSetting SectionName.cache.keys key kept change) :
    Put s (.inSection .cache key) kept { s with cache := s.cache.modify change } :=
  .of_section (updates.given held).1 (updates.given held).2
    (fun sec' apart other => by cases sec' <;> trivial) ⟨rfl, rfl, rfl⟩

/-- As for the triggers, with the record of the installation. -/
theorem put_install {change : InstallSettings → InstallSettings}
    (held : s.setting key .install = .ok old)
    (updates : Updates installSetting SectionName.install.keys key kept change) :
    Put s (.inSection .install key) kept { s with install := s.install.modify change } :=
  .of_section (updates.given held).1 (updates.given held).2
    (fun sec' apart other => by cases sec' <;> trivial) ⟨rfl, rfl, rfl⟩

/-- As for the triggers, with the record of the build. -/
theorem put_build {change : BuildSettings → BuildSettings} (held : s.setting key .build = .ok old)
    (updates : Updates buildSetting SectionName.build.keys key kept change) :
    Put s (.inSection .build key) kept { s with build := s.build.modify change } :=
  .of_section (updates.given held).1 (updates.given held).2
    (fun sec' apart other => by cases sec' <;> trivial) ⟨rfl, rfl, rfl⟩

/-- As for the triggers, with the record of the fixture. -/
theorem put_fixture {change : FixtureSettings → FixtureSettings}
    (held : s.setting key .fixture = .ok old)
    (updates : Updates fixtureSetting SectionName.fixture.keys key kept change) :
    Put s (.inSection .fixture key) kept { s with fixture := s.fixture.modify change } :=
  .of_section (updates.given held).1 (updates.given held).2
    (fun sec' apart other => by cases sec' <;> trivial) ⟨rfl, rfl, rfl⟩

/-- As for the triggers, with the record of the measurement. -/
theorem put_benchmark {change : BenchmarkSettings → BenchmarkSettings}
    (held : s.setting key .benchmark = .ok old)
    (updates : Updates benchmarkSetting SectionName.benchmark.keys key kept change) :
    Put s (.inSection .benchmark key) kept { s with benchmark := s.benchmark.modify change } :=
  .of_section (updates.given held).1 (updates.given held).2
    (fun sec' apart other => by cases sec' <;> trivial) ⟨rfl, rfl, rfl⟩

end Put

/-- What setting a key comes to: the value is converted, and the setting is put in its place. -/
def Places (s : Settings) (t : SettingName) (v : Value) (r : Except Fault Settings) : Prop :=
  (∀ f, v.convert t = .error f → r = .error f) ∧
    ∀ kept, v.convert t = .ok kept → ∃ s', r = .ok s' ∧ Put s t kept s'

/-- A conversion that fails is the fault of both, and one that succeeds is put in its place. -/
theorem Places.of_map {s : Settings} {t : SettingName} {v : Value} {β : Type}
    {taken : Except Fault β} {wrap : β → Setting} (place : β → Settings)
    (converted : v.convert t = taken.map wrap) (put : ∀ x, Put s t (wrap x) (place x)) :
    Places s t v (taken.map place) := by
  unfold Places
  rw [converted]
  cases taken with
  | error f => exact ⟨fun g failed => (by cases failed; rfl), fun kept done => (by cases done)⟩
  | ok x =>
    refine ⟨fun g failed => (by cases failed), fun kept done => ?_⟩
    cases done
    exact ⟨place x, rfl, put x⟩

section Convert

variable {v : Value} {sec : SectionName} {key : String}

/-- It is one of the lists. -/
theorem convert_items (among : SettingName.inSection sec key ∈ SettingName.lists) :
    v.convert (.inSection sec key) = (listSetting sec key v).map .items := if_pos among

/-- It is none of the settings that are converted. -/
theorem convert_value (list : SettingName.inSection sec key ∉ SettingName.lists)
    (path : SettingName.inSection sec key ∉ SettingName.paths)
    (env : SettingName.inSection sec key ≠ .buildEnv) :
    v.convert (.inSection sec key) = (Except.ok v).map .value := by
  simp only [Value.convert, list, path, env, ↓reduceIte]
  rfl

end Convert

/-- Setting a key converts the value and puts the setting. -/
theorem setKey_places {s : Settings} {sec : SectionName} {key : String} {v : Value} {old : Setting}
    (known : key ∈ sec.keys) (held : s.setting key sec = .ok old)
    (list : old.isList = true → ∃ items, v.bare = .list items) :
    Places s (.inSection sec key) v (s.setKey sec key v) := by
  have keep : s.keepList sec key v = .ok () := keepList_eq_ok_iff.mpr ⟨old, held, list⟩
  unfold setKey
  rw [keep]
  cases sec with
  | triggers =>
    refine .of_map (fun items => { s with triggers := s.triggers.modify (setTrigger key items) })
      (convert_items ?_) fun items => put_triggers held (setTrigger_updates known)
    simpa [SettingName.lists, SectionName.keys] using known
  | checkout =>
    refine .of_map (fun v => { s with checkout := s.checkout.modify (setCheckout key v) })
      (convert_value ?_ ?_ ?_) fun v => put_checkout held (setCheckout_updates known)
    all_goals simp [SettingName.lists, SettingName.paths, SettingName.buildEnv]
  | cache =>
    by_cases dir : key = "dir"
    · subst dir
      exact .of_map (fun dir => { s with cache := s.cache.modify ({ · with dir := dir }) })
        rfl fun dir => put_cache held dir_updates
    by_cases paths : key = "paths"
    · subst paths
      exact .of_map (fun paths => { s with cache := s.cache.modify ({ · with paths := paths }) })
        rfl fun paths => put_cache held paths_updates
    simp only [dir, paths, ↓reduceIte]
    refine .of_map (fun v => { s with cache := s.cache.modify (setCache key v) })
      (convert_value ?_ ?_ ?_) fun v => put_cache held (setCache_updates known ⟨dir, paths⟩)
    all_goals simp [SettingName.lists, SettingName.paths, SettingName.buildEnv, dir, paths]
  | install =>
    by_cases packages : key = "packages"
    · subst packages
      exact .of_map
        (fun packages => { s with install := s.install.modify ({ · with packages := packages }) })
        rfl fun packages => put_install held packages_updates
    simp only [packages, ↓reduceIte]
    refine .of_map (fun v => { s with install := s.install.modify (setInstall key v) })
      (convert_value ?_ ?_ ?_) fun v => put_install held (setInstall_updates known packages)
    all_goals simp [SettingName.lists, SettingName.paths, SettingName.buildEnv, packages]
  | build =>
    by_cases env : key = "env"
    · subst env
      exact .of_map (fun env => { s with build := s.build.modify ({ · with env := env }) })
        rfl fun env => put_build held env_updates
    simp only [env, ↓reduceIte]
    refine .of_map (fun v => { s with build := s.build.modify (setBuild key v) })
      (convert_value ?_ ?_ ?_) fun v => put_build held (setBuild_updates known env)
    all_goals simp [SettingName.lists, SettingName.paths, SettingName.buildEnv, env]
  | fixture =>
    refine .of_map (fun v => { s with fixture := s.fixture.modify (setFixture key v) })
      (convert_value ?_ ?_ ?_) fun v => put_fixture held (setFixture_updates known)
    all_goals simp [SettingName.lists, SettingName.paths, SettingName.buildEnv]
  | benchmark =>
    refine .of_map (fun v => { s with benchmark := s.benchmark.modify (setBenchmark key v) })
      (convert_value ?_ ?_ ?_) fun v => put_benchmark held (setBenchmark_updates known)
    all_goals simp [SettingName.lists, SettingName.paths, SettingName.buildEnv]

section Fields

/-- A record is known by its settings. -/
def Determines {α : Type} (look : String → α → Setting) (keys : List String) : Prop :=
  keys ≠ [] ∧ ∀ a b, (∀ key ∈ keys, look key a = look key b) → a = b

/-- The settings of all keys are all fields of the record. -/
theorem triggerSetting_determines : Determines triggerSetting SectionName.triggers.keys := by
  refine ⟨by decide, fun a b same => ?_⟩
  cases a
  cases b
  simpa [SectionName.keys, triggerSetting, and_assoc, and_comm, and_left_comm] using same

/-- Each field is the setting of a key. -/
theorem checkoutSetting_determines : Determines checkoutSetting SectionName.checkout.keys := by
  refine ⟨by decide, fun a b same => ?_⟩
  cases a
  cases b
  simpa [SectionName.keys, checkoutSetting, and_assoc, and_comm, and_left_comm] using same

/-- Each field is the setting of a key. -/
theorem cacheSetting_determines : Determines cacheSetting SectionName.cache.keys := by
  refine ⟨by decide, fun a b same => ?_⟩
  cases a
  cases b
  simpa [SectionName.keys, cacheSetting, and_assoc, and_comm, and_left_comm] using same

/-- Each field is the setting of a key. -/
theorem installSetting_determines : Determines installSetting SectionName.install.keys := by
  refine ⟨by decide, fun a b same => ?_⟩
  cases a
  cases b
  simpa [SectionName.keys, installSetting, and_assoc, and_comm, and_left_comm] using same

/-- Each field is the setting of a key. -/
theorem buildSetting_determines : Determines buildSetting SectionName.build.keys := by
  refine ⟨by decide, fun a b same => ?_⟩
  cases a
  cases b
  simpa [SectionName.keys, buildSetting, and_assoc, and_comm, and_left_comm] using same

/-- Each field is the setting of a key. -/
theorem fixtureSetting_determines : Determines fixtureSetting SectionName.fixture.keys := by
  refine ⟨by decide, fun a b same => ?_⟩
  cases a
  cases b
  simpa [SectionName.keys, fixtureSetting, and_assoc, and_comm, and_left_comm] using same

/-- Each field is the setting of a key. -/
theorem benchmarkSetting_determines : Determines benchmarkSetting SectionName.benchmark.keys := by
  refine ⟨by decide, fun a b same => ?_⟩
  cases a
  cases b
  simpa [SectionName.keys, benchmarkSetting, and_assoc, and_comm, and_left_comm] using same

/-- There is a key, so the section is given on both sides, and the records agree in all settings. -/
theorem Determines.section_eq {α : Type} {look : String → α → Setting} {keys : List String}
    {part part' : Section α} (determines : Determines look keys)
    (held : ∀ key ∈ keys, ∃ old, part.given.map (look key) = .ok old)
    (same : ∀ key ∈ keys, part.given.map (look key) = part'.given.map (look key)) :
    part = part' := by
  obtain ⟨key, among⟩ := List.exists_mem_of_ne_nil keys determines.1
  obtain ⟨old, given⟩ := held key among
  cases part with
  | replaced => cases given
  | settings a =>
    cases part' with
    | replaced => cases same key among
    | settings b =>
      exact congrArg Section.settings
        (determines.2 a b fun key among => Except.ok.inj (same key among))

/-- Settings that agree in every setting, in the name of the run and in the variables are the same:
there is nothing else in them. -/
theorem eq_of_get {s s' : Settings} (full : s.Full)
    (name : s.name = s'.name) (env : s.env = s'.env)
    (same : ∀ t : SettingName, t.Known → s.get t = s'.get t) : s = s' := by
  have workdir : s.workdir = s'.workdir := by simpa [get] using same .workdir trivial
  have held (sec : SectionName) (key : String) (known : key ∈ sec.keys) :
      ∃ old, s.setting key sec = .ok old := full (.inSection sec key) known
  have same (sec : SectionName) (key : String) (known : key ∈ sec.keys) :=
    same (.inSection sec key) known
  have triggers := triggerSetting_determines.section_eq (held .triggers) (same .triggers)
  have checkout := checkoutSetting_determines.section_eq (held .checkout) (same .checkout)
  have cache := cacheSetting_determines.section_eq (held .cache) (same .cache)
  have install := installSetting_determines.section_eq (held .install) (same .install)
  have build := buildSetting_determines.section_eq (held .build) (same .build)
  have fixture := fixtureSetting_determines.section_eq (held .fixture) (same .fixture)
  have benchmark := benchmarkSetting_determines.section_eq (held .benchmark) (same .benchmark)
  cases s
  cases s'
  simp only [Settings.mk.injEq]
  exact ⟨name, workdir, env, triggers, checkout, cache, install, build, fixture, benchmark⟩

end Fields

/-! ## Assignments -/

/-- What was put can be asked for, and so can all else as before. -/
theorem Put.full {s s' : Settings} {t : SettingName} {kept : Setting} (put : Put s t kept s')
    (full : s.Full) : s'.Full := by
  intro u known
  by_cases same : u = t
  · exact ⟨kept, same ▸ put.this⟩
  · rw [put.others u known same]
    exact full u known

/-- A value may be put under a name: the name is known, the value can be converted, and it is a list
if it comes in the place of a list. -/
structure Accepts (s : Settings) (t : SettingName) (v : Value) : Prop where
  known : t.Known
  converted : ∃ kept, v.convert t = .ok kept
  list : ∀ old, s.get t = .ok old → old.isList = true → ∃ items, v.bare = .list items

/-- Puts a value under a name. -/
def assign (s : Settings) : SettingName × Value → Except Fault Settings
  | (.workdir, v) => (pathSetting v).map fun p => { s with workdir := p }
  | (.inSection sec key, v) => s.setEntry sec (.text key) v

/-- The key is a text that the section knows. -/
theorem setEntry_text {s : Settings} {sec : SectionName} {key : String} {v : Value}
    (known : key ∈ sec.keys) : s.setEntry sec (.text key) v = s.setKey sec key v := by
  simp [setEntry, knownKey?, known]

/-- Lists are looked after first. -/
theorem keepList_of_setKey {s s' : Settings} {sec : SectionName} {key : String} {v : Value}
    (done : s.setKey sec key v = .ok s') : s.keepList sec key v = .ok () := by
  unfold setKey at done
  rcases kept : s.keepList sec key v with f | done'
  · rw [kept] at done
    cases done
  · rfl

/-- What could be assigned came through all checks: name, list and conversion. -/
theorem accepts_of_assign {s s' : Settings} {t : SettingName} {v : Value}
    (done : s.assign (t, v) = .ok s') : s.Accepts t v := by
  cases t with
  | workdir =>
    rcases taken : pathSetting v with f | p
    · simp only [assign, taken] at done
      cases done
    · exact ⟨trivial, ⟨.path p, by rw [Value.convert, taken]; rfl⟩,
        fun old held list => by cases held; cases list⟩
  | inSection sec key =>
    by_cases known : key ∈ sec.keys
    · rw [assign, setEntry_text known] at done
      obtain ⟨old, held, list⟩ := keepList_eq_ok_iff.mp (keepList_of_setKey done)
      have places := setKey_places known held list
      refine ⟨known, ?_, fun old' held' list' => ?_⟩
      · rcases converted : v.convert (.inSection sec key) with f | kept
        · rw [places.1 f converted] at done
          cases done
        · exact ⟨kept, rfl⟩
      · cases held.symm.trans held'
        exact list list'
    · simp [assign, setEntry, knownKey?, known] at done

/-- An assignment asks for the section of its name. -/
theorem requireSection_of_assign {s s' : Settings} {sec : SectionName} {key : String} {v : Value}
    (done : s.assign (.inSection sec key, v) = .ok s') : s.requireSection sec = .ok () := by
  have known := (accepts_of_assign done).known
  rw [assign, setEntry_text known] at done
  obtain ⟨old, held, -⟩ := keepList_eq_ok_iff.mp (keepList_of_setKey done)
  have asked {α : Type} {part : Section α} {look : α → Setting}
      (given : part.given.map look = .ok old) : part.given.map (fun _ => ()) = .ok () := by
    cases part with
    | replaced => cases given
    | settings a => rfl
  cases sec <;> exact asked held

/-- By the name: each key of each section is set by the function of that section. -/
theorem assign_places {s : Settings} {t : SettingName} {v : Value} (full : s.Full)
    (accepted : s.Accepts t v) : Places s t v (s.assign (t, v)) := by
  cases t with
  | workdir =>
    refine .of_map (fun p => { s with workdir := p }) rfl fun p => ⟨rfl, ?_, rfl, rfl⟩
    intro u known apart
    cases u with
    | workdir => exact absurd rfl apart
    | inSection sec key => cases sec <;> rfl
  | inSection sec key =>
    obtain ⟨old, held⟩ := full _ accepted.known
    rw [assign, setEntry_text accepted.known]
    exact setKey_places accepted.known held (accepted.list old held)

/-- The settings after some assignments: what was assigned is converted, and all else is as it
was. -/
structure Assigned (s : Settings) (changes : List (SettingName × Value)) (s' : Settings) :
    Prop where
  full : s'.Full
  name : s'.name = s.name
  env : s'.env = s.env
  get : ∀ t : SettingName, t.Known → s'.get t =
    match changes.lookup t with
    | some v => v.convert t
    | none => s.get t

/-- By induction on the assignments. Those that are left have other names, so what they find in
their places is still what was there at the start. -/
theorem assignAll {s : Settings} {changes : List (SettingName × Value)} (full : s.Full)
    (distinct : (changes.map (·.1)).Nodup)
    (accepted : ∀ t v, (t, v) ∈ changes → s.Accepts t v) :
    ∃ s', changes.foldlM assign s = .ok s' ∧ Assigned s changes s' := by
  induction changes generalizing s with
  | nil => exact ⟨s, rfl, full, rfl, rfl, fun t known => rfl⟩
  | cons first rest ih =>
    obtain ⟨t, v⟩ := first
    obtain ⟨fresh, distinct⟩ := List.nodup_cons.mp distinct
    have here := accepted t v List.mem_cons_self
    obtain ⟨kept, converted⟩ := here.converted
    obtain ⟨s1, done, put⟩ := (assign_places full here).2 kept converted
    have apart : ∀ u w, (u, w) ∈ rest → u ≠ t := fun u w among same =>
      fresh (List.mem_map.mpr ⟨_, among, same⟩)
    obtain ⟨s', others, assigned⟩ := ih (put.full full) distinct fun u w among => by
      have later := accepted u w (List.mem_cons_of_mem _ among)
      refine ⟨later.known, later.converted, fun old held => later.list old ?_⟩
      rw [← put.others u later.known (apart u w among)]
      exact held
    refine ⟨s', by rw [List.foldlM_cons, done]; exact others, assigned.full,
      assigned.name.trans put.name, assigned.env.trans put.env, fun u known => ?_⟩
    rw [assigned.get u known, lookup_cons_if]
    by_cases same : u = t
    · subst same
      have gone : rest.lookup u = none := by
        rw [List.lookup_eq_none_iff]
        exact fun c among => by simpa using (apart c.1 c.2 among).symm
      rw [gone, if_pos rfl]
      exact put.this.trans converted.symm
    · rw [if_neg same]
      cases rest.lookup u with
      | some w => rfl
      | none => exact put.others u known same

/-- By induction in the same way: each assignment came through its checks in settings that had its
place as at the start. -/
theorem accepts_of_assignAll {s s' : Settings} {changes : List (SettingName × Value)}
    (full : s.Full) (distinct : (changes.map (·.1)).Nodup)
    (done : changes.foldlM assign s = .ok s') : ∀ t v, (t, v) ∈ changes → s.Accepts t v := by
  induction changes generalizing s with
  | nil =>
    intro t v among
    cases among
  | cons first rest ih =>
    obtain ⟨t, v⟩ := first
    obtain ⟨fresh, distinct⟩ := List.nodup_cons.mp distinct
    rw [List.foldlM_cons] at done
    rcases result : s.assign (t, v) with f | s1 <;> rw [result] at done
    · cases done
    have here := accepts_of_assign result
    obtain ⟨kept, converted⟩ := here.converted
    obtain ⟨s1', done', put⟩ := (assign_places full here).2 kept converted
    cases result.symm.trans done'
    intro u w among
    rcases List.mem_cons.mp among with same | later
    · cases same
      exact here
    · have apart : u ≠ t := fun same => fresh (List.mem_map.mpr ⟨_, later, same⟩)
      have next := ih (put.full full) distinct done u w later
      refine ⟨next.known, next.converted, fun old held => next.list old ?_⟩
      rw [put.others u next.known apart]
      exact held

end Settings
end BuildBench
