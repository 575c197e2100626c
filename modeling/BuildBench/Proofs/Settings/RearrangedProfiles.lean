import BuildBench.Proofs.Settings.Precedence

/-!
# The order of entries and overrides

The entries of a profile, of its sections and of its variables may stand in any order, and so may
the overrides: settings come out or not all the same, and but for the order of the variables they
are the same.
-/

namespace BuildBench

/-- Entries in another order, where `r` says what may become of a value under its key. -/
def Reordered (r : Value → Value → Value → Prop) (es fs : List (Value × Value)) : Prop :=
  ∃ ms, es.Perm ms ∧ List.Forall₂ (fun e f => e.1 = f.1 ∧ r e.1 e.2 f.2) ms fs

namespace Reordered

variable {r : Value → Value → Value → Prop} {es fs : List (Value × Value)}

/-- The order is turned back, and entry by entry the relation is. -/
theorem symm (turn : ∀ key v w, r key v w → r key w v) (reordered : Reordered r es fs) :
    Reordered r fs es := by
  obtain ⟨ms, perm, same⟩ := reordered
  have flipped : List.Forall₂ (fun f e => f.1 = e.1 ∧ r f.1 f.2 e.2) fs ms :=
    same.flip.imp fun f e ⟨key, related⟩ => ⟨key.symm, key ▸ turn _ _ _ related⟩
  obtain ⟨ns, perm', same'⟩ : (Relation.Comp List.Perm (List.Forall₂ _)) fs es := by
    rw [← List.forall₂_comp_perm_eq_perm_comp_forall₂]
    exact ⟨ms, flipped, perm.symm⟩
  exact ⟨ns, perm', same'⟩

/-- The keys of the entries in between are those of either side, in the one order or in the other.
-/
theorem keys (reordered : Reordered r es fs) : (es.map (·.1)).Perm (fs.map (·.1)) := by
  obtain ⟨ms, perm, same⟩ := reordered
  refine (perm.map _).trans (.of_eq ?_)
  clear perm
  induction same with
  | nil => rfl
  | cons first others ih => rw [List.map_cons, List.map_cons, first.1, ih]

/-- Which keys are texts depends on the keys only. -/
theorem textKeys_eq (es : List (Value × Value)) :
    es.filterMap textKey? = (es.map (·.1)).filterMap fun key => textKey? (key, .null) := by
  rw [List.filterMap_map]
  rfl

/-- Whether any key is there twice does not depend on the order. -/
theorem distinctKeys (reordered : Reordered r es fs) (distinct : DistinctKeys es) :
    DistinctKeys fs := by
  rw [DistinctKeys, textKeys_eq] at *
  exact (reordered.keys.filterMap _).nodup_iff.mp distinct

/-- What stands under a key stands there in the other order too, as far as `r` says. -/
theorem member?_rel (reordered : Reordered r es fs) (distinct : DistinctKeys es) (key : String) :
    Option.Rel (r (.text key)) (member? key es) (member? key fs) := by
  obtain ⟨ms, perm, same⟩ := reordered
  have distinct' : DistinctKeys ms := (perm.filterMap _).nodup_iff.mp distinct
  have moved : member? key es = member? key ms := Option.ext fun v => by
    rw [member?_eq_some_iff distinct, member?_eq_some_iff distinct', perm.mem_iff]
  rw [moved]
  clear perm distinct distinct' moved
  induction same with
  | nil => exact .none
  | @cons e f rest more first others ih =>
    obtain ⟨k, v⟩ := e
    obtain ⟨k', w⟩ := f
    obtain ⟨rfl, related⟩ := first
    rw [member?_cons, member?_cons]
    by_cases here : textKey? (k, v) = some key
    · have here' : textKey? (k, w) = some key := here
      have text : k = .text key := congrArg Prod.fst (textKey?_eq_some_iff.mp here)
      rw [if_pos here, if_pos here']
      exact .some (text ▸ related)
    · have here' : ¬ textKey? (k, w) = some key := here
      rw [if_neg here, if_neg here']
      exact ih

end Reordered

section Rel

variable {α : Type} {R S : α → α → Prop}

/-- By whether there is something. -/
theorem rel_refl (refl : ∀ x, R x x) : ∀ x : Option α, Option.Rel R x x
  | none => .none
  | some x => .some (refl x)

/-- By whether there is something. -/
theorem rel_mono (weaker : ∀ x y, R x y → S x y) {x y : Option α} (rel : Option.Rel R x y) :
    Option.Rel S x y := by
  cases rel with
  | none => exact .none
  | some related => exact .some (weaker _ _ related)

/-- Both are missing, or both are there. -/
theorem rel_cases {x y : Option α} (rel : Option.Rel R x y) :
    (x = none ∧ y = none) ∨ ∃ v w, x = some v ∧ y = some w ∧ R v w := by
  cases rel with
  | none => exact .inl ⟨rfl, rfl⟩
  | some related => exact .inr ⟨_, _, rfl, rfl, related⟩

/-- By whether there is something. -/
theorem eq_of_rel {x y : Option α} (rel : Option.Rel Eq x y) : x = y := by
  cases rel with
  | none => rfl
  | some same => exact congrArg some same

end Rel

/-! ## Profiles in another order -/

/-- A value that is the same or, if it is the variables of the build, has its entries in another
order. -/
def Moved (t : SettingName) (v w : Value) : Prop := v = w ∨ t = .buildEnv ∧ v.Rearranged w

/-- A section that is the same or has its settings in another order. -/
def SectionRearranged (sec : SectionName) (v w : Value) : Prop :=
  v = w ∨ ∃ es fs, v.bare = .map es ∧ w.bare = .map fs ∧
    Reordered (fun k v w => v = w ∨ ∃ key, k = .text key ∧ Moved (.inSection sec key) v w) es fs

/-- A profile in another order, its sections and its variables too. -/
def Profile.Rearranged (p q : Profile) : Prop :=
  Reordered (fun k v w => v = w ∨ k = .text "env" ∧ v.Rearranged w ∨
    ∃ sec : SectionName, k = .text sec.name ∧ SectionRearranged sec v w) p q

/-- The variables of the build may be moved back. -/
theorem Moved.symm {t : SettingName} {v w : Value} (moved : Moved t v w) : Moved t w v :=
  moved.imp Eq.symm fun ⟨env, rearranged⟩ => ⟨env, rearranged.symm⟩

/-- The settings of a section may be moved back. -/
theorem SectionRearranged.symm {sec : SectionName} {v w : Value}
    (rearranged : SectionRearranged sec v w) : SectionRearranged sec w v := by
  rcases rearranged with rfl | ⟨es, fs, held, held', reordered⟩
  · exact .inl rfl
  · refine .inr ⟨fs, es, held', held, reordered.symm fun k v w related => ?_⟩
    exact related.imp Eq.symm fun ⟨key, text, moved⟩ => ⟨key, text, moved.symm⟩

/-- What a section holds under a key. -/
theorem SectionRearranged.under?_rel {sec : SectionName} {v w : Value}
    (rearranged : SectionRearranged sec v w)
    (distinct : ∀ es, v.bare = .map es → DistinctKeys es) (key : String) :
    Option.Rel (Moved (.inSection sec key)) (v.under? key) (w.under? key) := by
  rcases rearranged with rfl | ⟨es, fs, held, held', reordered⟩
  · exact rel_refl (fun v => .inl rfl) _
  · simp only [Value.under?, held, held']
    refine rel_mono (fun v w related => ?_) (reordered.member?_rel (distinct es held) key)
    rcases related with rfl | ⟨key', text, moved⟩
    · exact .inl rfl
    · exact Value.text.inj text ▸ moved

/-- By induction on the entries: what is given under a key has a text for a key. -/
theorem texts_of_gives {sec : SectionName} {es : List (Value × Value)}
    {changes : List (SettingName × Value)} (given : List.Forall₂ (EntryGives sec) es changes) :
    ∀ k ∈ es.map (·.1), ∃ key, k = .text key := by
  induction given with
  | nil => simp
  | cons first others ih =>
    obtain ⟨key, text, -⟩ := first
    exact List.forall_mem_cons.mpr ⟨⟨key, text⟩, ih⟩

/-- By induction on the entries: each gives its value under its key. -/
theorem gives_of_texts {sec : SectionName} {es : List (Value × Value)}
    (texts : ∀ k ∈ es.map (·.1), ∃ key, k = .text key) :
    ∃ changes, List.Forall₂ (EntryGives sec) es changes := by
  induction es with
  | nil => exact ⟨[], .nil⟩
  | cons e rest ih =>
    obtain ⟨⟨key, text⟩, others⟩ := List.forall_mem_cons.mp texts
    obtain ⟨changes, given⟩ := ih others
    exact ⟨(.inSection sec key, e.2) :: changes, .cons ⟨key, text, rfl⟩ given⟩

/-- A section can be read if its keys are texts, in whatever order they come. -/
theorem SectionRearranged.gives {sec : SectionName} {v w : Value}
    (rearranged : SectionRearranged sec v w) (readable : ∃ changes, SectionGives sec v changes) :
    ∃ changes, SectionGives sec w changes := by
  rcases rearranged with rfl | ⟨es, fs, held, held', reordered⟩
  · exact readable
  · obtain ⟨changes, gives⟩ := readable
    cases gives with
    | null null => cases held.symm.trans null
    | map held'' given =>
      cases held.symm.trans held''
      obtain ⟨changes', given'⟩ := gives_of_texts fun k among =>
        texts_of_gives given k (reordered.keys.mem_iff.mpr among)
      exact ⟨changes', .map held' given'⟩

/-- No section has that name. -/
theorem name_ne_env (sec : SectionName) : sec.name ≠ "env" := by
  cases sec <;> decide

namespace Profile.Rearranged

variable {p q : Profile}

/-- The profile may be moved back entry by entry. -/
theorem symm (rearranged : p.Rearranged q) : q.Rearranged p :=
  Reordered.symm (fun _ _ _ related => related.imp Eq.symm (Or.imp
    (fun ⟨env, moved⟩ => ⟨env, moved.symm⟩) fun ⟨sec, text, moved⟩ => ⟨sec, text, moved.symm⟩))
    rearranged

/-- The keys are the same ones, so none of them is unknown. -/
theorem unknownKeys (rearranged : p.Rearranged q) (known : p.unknownKeys = []) :
    q.unknownKeys = [] := by
  have perm : p.unknownKeys.Perm q.unknownKeys := rearranged.keys.filter _
  exact (known ▸ perm).nil_eq.symm

/-- What stands beside the sections and the variables is the same. -/
theorem member?_eq (rearranged : p.Rearranged q) (mapping : p.IsMapping) (key : String)
    (plain : key ≠ "env") (other : ∀ sec : SectionName, key ≠ sec.name) :
    member? key p = member? key q := by
  refine eq_of_rel (rel_mono (fun v w related => ?_) (rearranged.member?_rel mapping.keys key))
  rcases related with same | ⟨env, -⟩ | ⟨sec, text, -⟩
  · exact same
  · exact absurd (Value.text.inj env) plain
  · exact absurd (Value.text.inj text) (other sec)

/-- The entry is neither a section nor anything else that must stay as it is. -/
theorem env_rel (rearranged : p.Rearranged q) (mapping : p.IsMapping) :
    Option.Rel Value.Rearranged (member? "env" p) (member? "env" q) := by
  refine rel_mono (fun v w related => ?_) (rearranged.member?_rel mapping.keys "env")
  rcases related with same | ⟨-, moved⟩ | ⟨sec, text, -⟩
  · exact .inl same
  · exact moved
  · exact absurd (Value.text.inj text).symm (name_ne_env sec)

/-- The entry under the name of a section is the same or was rearranged, for it is no other
section's. -/
theorem section_rel (rearranged : p.Rearranged q) (mapping : p.IsMapping) (sec : SectionName) :
    Option.Rel (SectionRearranged sec) (member? sec.name p) (member? sec.name q) := by
  refine rel_mono (fun v w related => ?_) (rearranged.member?_rel mapping.keys sec.name)
  rcases related with same | ⟨text, -⟩ | ⟨sec', text, moved⟩
  · exact .inl same
  · exact absurd (Value.text.inj text) (name_ne_env sec)
  · have same : sec = sec' := by
      have named := ofName?_name sec
      rw [Value.text.inj text, ofName?_name] at named
      exact (Option.some.inj named).symm
    exact same ▸ moved

/-- By the name: the working directory stays, and a setting is found in its section. -/
theorem given?_rel (rearranged : p.Rearranged q) (mapping : p.IsMapping) (t : SettingName) :
    Option.Rel (Moved t) (p.given? t) (q.given? t) := by
  cases t with
  | workdir =>
    have same := rearranged.member?_eq mapping "workdir" (by decide)
      fun sec => by cases sec <;> decide
    simp only [Profile.given?, Profile.present?, same]
    exact rel_refl (fun v => .inl rfl) _
  | inSection sec key =>
    simp only [Profile.given?]
    rcases rel_cases (rearranged.section_rel mapping sec) with
      ⟨found, found'⟩ | ⟨v, w, found, found', moved⟩
    · rw [found, found']
      exact .none
    · rw [found, found']
      exact moved.under?_rel (fun es => mapping.sections sec v es found) key

/-- Keys stay distinct, in the profile and in each of its sections. -/
theorem isMapping (rearranged : p.Rearranged q) (mapping : p.IsMapping) : q.IsMapping := by
  refine ⟨rearranged.distinctKeys mapping.keys, fun sec w fs found held => ?_⟩
  rcases rel_cases (rearranged.section_rel mapping sec) with
    ⟨-, absent⟩ | ⟨v, w', found', present, moved⟩
  · cases found.symm.trans absent
  cases found.symm.trans present
  rcases moved with rfl | ⟨es, fs', held', held'', reordered⟩
  · exact mapping.sections sec v fs found' held
  · cases held.symm.trans held''
    exact reordered.distinctKeys (mapping.sections sec v es found' held')

/-- Section by section. -/
theorem sections (rearranged : p.Rearranged q) (mapping : p.IsMapping)
    (readable : ∃ changes, p.Changes changes) : ∃ changes, q.Changes changes := by
  obtain ⟨changes, each, gives, -⟩ := readable
  have turned (sec : SectionName) : ∃ changes, SectionGives sec (q.sectionValue sec) changes := by
    have readable := gives sec
    rw [Profile.sectionValue] at readable ⊢
    rcases rel_cases (rearranged.section_rel mapping sec) with
      ⟨found, found'⟩ | ⟨v, w, found, found', moved⟩
    · rw [found] at readable
      rw [found']
      exact ⟨_, readable⟩
    · rw [found] at readable
      rw [found']
      exact moved.gives ⟨_, readable⟩
  choose each' gives' using turned
  exact ⟨_, each', gives', rfl⟩

end Profile.Rearranged

/-! ## Settings in another order -/

/-- No two of the variables that a profile gives have one name. -/
structure Profile.EnvNamesApart (p : Profile) : Prop where
  run : ∀ v, member? "env" p = some v → NamesApart v
  build : ∀ v, p.given? .buildEnv = some v → NamesApart v

/-- The names are the same ones. -/
theorem NamesApart.rearranged {v w : Value} (apart : NamesApart v) (rearranged : v.Rearranged w) :
    NamesApart w := by
  rcases rearranged with rfl | ⟨es, fs, held, held', perm⟩
  · exact apart
  · intro fs' held''
    cases held'.symm.trans held''
    refine (perm.pairwise_iff fun {e e'} one name named named' => ?_).mp (apart es held)
    exact one name named' named

/-- For the variables of the profile and for those of its build. -/
theorem Profile.EnvNamesApart.rearranged {p q : Profile} (apart : p.EnvNamesApart)
    (rearranged : p.Rearranged q) (mapping : p.IsMapping) : q.EnvNamesApart := by
  constructor
  · intro w found
    rcases rel_cases (rearranged.env_rel mapping) with ⟨-, absent⟩ | ⟨v, w', held, held', moved⟩
    · cases found.symm.trans absent
    · cases found.symm.trans held'
      exact (apart.run v held).rearranged moved
  · intro w given
    rcases rel_cases (rearranged.given?_rel mapping .buildEnv) with
      ⟨-, absent⟩ | ⟨v, w', held, held', moved⟩
    · cases given.symm.trans absent
    · cases given.symm.trans held'
      rcases moved with rfl | ⟨-, moved⟩
      · exact apart.build v held
      · exact (apart.build v held).rearranged moved

/-- A setting that is the same but for the order of variables. -/
def Setting.Alike (kept kept' : Setting) : Prop :=
  kept = kept' ∨ ∃ vars vars' : Variables, kept = .variables vars ∧ kept' = .variables vars' ∧
    vars.Perm vars'

/-- Variables are no list, in whatever order. -/
theorem Setting.Alike.isList_eq {kept kept' : Setting} (alike : kept.Alike kept') :
    kept'.isList = kept.isList := by
  rcases alike with rfl | ⟨vars, vars', rfl, rfl, -⟩ <;> rfl

/-- Under this name a value becomes variables. -/
theorem convert_buildEnv (v : Value) : v.convert .buildEnv = (variablesSetting v).map .variables :=
  rfl

/-- A value that was not moved is converted alike. Variables with distinct names are the same but
for their order. -/
theorem convert_moved {t : SettingName} {v w : Value} {kept : Setting}
    (apart : t = .buildEnv → NamesApart v) (moved : Moved t v w)
    (converted : v.convert t = .ok kept) :
    ∃ kept', w.convert t = .ok kept' ∧ kept.Alike kept' := by
  rcases moved with rfl | ⟨rfl, rearranged⟩
  · exact ⟨kept, converted, .inl rfl⟩
  · rw [convert_buildEnv] at converted
    rcases read : variablesSetting v with f | vars <;> rw [read] at converted <;> cases converted
    obtain ⟨vars', read', perm⟩ := variablesSetting_rearranged (apart rfl) rearranged read
    refine ⟨.variables vars', ?_, .inr ⟨vars, vars', rfl, rfl, perm⟩⟩
    rw [convert_buildEnv, read']
    rfl

/-- The profile gives the setting in both orders, or the default is taken in both. -/
theorem base_rearranged {p q : Profile} {t : SettingName} {old : Setting}
    (rearranged : p.Rearranged q) (mapping : p.IsMapping) (apart : p.EnvNamesApart)
    (held : p.base t = .ok old) : ∃ old', q.base t = .ok old' ∧ old.Alike old' := by
  rw [Profile.base] at held ⊢
  rcases rel_cases (rearranged.given?_rel mapping t) with
    ⟨none, none'⟩ | ⟨v, w, given, given', moved⟩
  · rw [none] at held
    rw [none']
    exact ⟨old, held, .inl rfl⟩
  · rw [given] at held
    rw [given']
    exact convert_moved (fun env => apart.build v (env ▸ given)) moved held

/-- Settings that are the same but for the order of their variables. -/
structure Settings.Alike (c c' : Settings) : Prop where
  env : ∃ vars vars', c.env = variablesValue vars ∧ c'.env = variablesValue vars' ∧
    vars.Perm vars'
  build : ∃ b vars, c.build = .settings b ∧ c'.build = .settings { b with env := vars } ∧
    b.env.Perm vars
  rest : c' = { c with env := c'.env, build := c'.build }

section Outcome

variable {p q : Profile} {o o' : List (SettingName × Value)} {c c' : Settings}

/-- There is one override for a name at most, so it is found in every order. -/
theorem overriding?_perm (distinct : (o.map (·.1)).Nodup) (perm : o.Perm o') (t : SettingName) :
    overriding? o t = overriding? o' t := by
  rw [overriding?, overriding?, lookup_of_perm distinct perm]

/-- The variables are missing on both sides, or they stand for the same ones in another order. -/
theorem givenEnv_rearranged {env : Value} (rearranged : p.Rearranged q) (mapping : p.IsMapping)
    (apart : p.EnvNamesApart) (given : p.givenEnv = .ok env) :
    ∃ vars vars', env = variablesValue vars ∧ q.givenEnv = .ok (variablesValue vars') ∧
      vars.Perm vars' := by
  rw [Profile.givenEnv] at given ⊢
  rcases rel_cases (rearranged.env_rel mapping) with ⟨none, none'⟩ | ⟨v, w, held, held', moved⟩
  · rw [none] at given
    rw [none']
    cases given
    exact ⟨_, _, rfl, rfl, .refl _⟩
  · rw [held] at given
    rw [held']
    dsimp only at given ⊢
    rcases read : variablesSetting v with f | vars <;> rw [read] at given <;> cases given
    obtain ⟨vars', read', perm⟩ := variablesSetting_rearranged (apart.run v held) moved read
    exact ⟨vars, vars', rfl, by rw [read']; rfl, perm⟩

/-- Apart from variables and sections all entries stay as they are. -/
theorem present?_rearranged (rearranged : p.Rearranged q) (mapping : p.IsMapping) (key : String)
    (plain : key ≠ "env") (other : ∀ sec : SectionName, key ≠ sec.name) :
    p.present? key = q.present? key := by
  rw [Profile.present?, Profile.present?, rearranged.member?_eq mapping key plain other]

/-- Condition by condition: keys are the same ones, and settings and overrides are found in either
order. -/
theorem loadable_rearranged (rearranged : p.Rearranged q) (mapping : p.IsMapping)
    (apart : p.EnvNamesApart) (distinct : (o.map (·.1)).Nodup) (perm : o.Perm o')
    (loadable : Loadable p o) : Loadable q o' := by
  have name := present?_rearranged rearranged mapping "name" (by decide)
    fun sec => by cases sec <;> decide
  have workdir := present?_rearranged rearranged mapping "workdir" (by decide)
    fun sec => by cases sec <;> decide
  refine ⟨rearranged.unknownKeys loadable.keys, ?_, ?_, ?_,
    rearranged.sections mapping loadable.sections, ?_, ?_⟩
  · simpa only [Profile.givenName, name] using loadable.name
  · simpa only [Profile.givenWorkdir, workdir] using loadable.workdir
  · obtain ⟨env, given⟩ := loadable.env
    obtain ⟨vars, vars', -, given', -⟩ := givenEnv_rearranged rearranged mapping apart given
    exact ⟨_, given'⟩
  · intro sec key w given'
    rcases rel_cases (rearranged.given?_rel mapping (.inSection sec key)) with
      ⟨-, absent⟩ | ⟨v, w', given, held, moved⟩
    · cases given'.symm.trans absent
    cases given'.symm.trans held
    have accepted := loadable.given sec key v given
    obtain ⟨kept, converted⟩ := accepted.converted
    obtain ⟨kept', converted', -⟩ :=
      convert_moved (fun env => apart.build v (env ▸ given)) moved converted
    refine ⟨accepted.known, ⟨kept', converted'⟩, fun old default list => ?_⟩
    rcases moved with rfl | ⟨env, -⟩
    · exact accepted.list old default list
    · -- The variables of the build are no list.
      cases env
      cases default
      cases list
  · intro t v held
    rw [← overriding?_perm distinct perm] at held
    obtain ⟨known, converted, list⟩ := loadable.overrides t v held
    refine ⟨known, converted, fun old' held' isList => ?_⟩
    obtain ⟨old, back, alike⟩ := base_rearranged rearranged.symm (rearranged.isMapping mapping)
      (apart.rearranged rearranged mapping) held'
    exact list old back (alike.isList_eq.trans isList)

/-- Under each name the settings are alike. -/
theorem get_alike (rearranged : p.Rearranged q) (mapping : p.IsMapping) (apart : p.EnvNamesApart)
    (distinct : (o.map (·.1)).Nodup) (perm : o.Perm o') (loads : Loads p o c)
    (loads' : Loads q o' c') {t : SettingName} {kept kept' : Setting} (known : t.Known)
    (held : c.get t = .ok kept) (held' : c'.get t = .ok kept') : kept.Alike kept' := by
  rw [loads.get t known] at held
  rw [loads'.get t known, ← overriding?_perm distinct perm] at held'
  rcases chosen : overriding? o t with _ | v <;> simp only [chosen] at held held'
  · obtain ⟨old, base, alike⟩ := base_rearranged rearranged mapping apart held
    cases base.symm.trans held'
    exact alike
  · cases held.symm.trans held'
    exact .inl rfl

/-- Only the build has variables. -/
theorem eq_buildEnv_of_variables {t : SettingName} {vars : Variables}
    (held : c.get t = .ok (.variables vars)) : t = .buildEnv := by
  cases t with
  | workdir => cases held
  | inSection sec key =>
    have look {α : Type} {part : Section α} {look : String → α → Setting}
        (given : part.given.map (look key) = .ok (.variables vars)) :
        ∃ a, look key a = .variables vars := by
      cases part with
      | replaced => cases given
      | settings a => exact ⟨a, Except.ok.inj given⟩
    cases sec <;> obtain ⟨a, given⟩ := look held
    case cache =>
      unfold Settings.cacheSetting at given
      split_ifs at given
    case install =>
      unfold Settings.installSetting at given
      split_ifs at given
    case build =>
      unfold Settings.buildSetting at given
      split_ifs at given with env
      rw [env, SettingName.buildEnv]
    all_goals cases given

/-- Only the variables of the build may differ. -/
theorem get_eq {t : SettingName} {kept kept' : Setting} (other : t ≠ .buildEnv)
    (held : c.get t = .ok kept) (alike : kept.Alike kept') : kept' = kept := by
  rcases alike with rfl | ⟨vars, vars', rfl, -, -⟩
  · rfl
  · exact absurd (eq_buildEnv_of_variables held) other

/-- It is one of the keys of its section. -/
theorem known_buildEnv : SettingName.Known .buildEnv := by
  simp [SettingName.Known, SettingName.buildEnv, SectionName.keys]

/-- Settings of the build that are alike differ in their variables only. -/
theorem build_alike (full : c.Full) (full' : c'.Full)
    (alike : ∀ {t : SettingName} {kept kept' : Setting}, t.Known → c.get t = .ok kept →
      c'.get t = .ok kept' → kept.Alike kept') :
    ∃ b vars, c.build = .settings b ∧ c'.build = .settings { b with env := vars } ∧
      b.env.Perm vars := by
  have section_of {d : Settings} (full : d.Full) : ∃ b, d.build = .settings b := by
    obtain ⟨old, held⟩ := full .buildEnv known_buildEnv
    rcases part : d.build with b | _
    · exact ⟨b, rfl⟩
    · simp only [SettingName.buildEnv, Settings.get, Settings.setting, part] at held
      cases held
  obtain ⟨b, part⟩ := section_of full
  obtain ⟨b', part'⟩ := section_of full'
  have held (key : String) : c.get (.inSection .build key) = .ok (Settings.buildSetting key b) := by
    simp only [Settings.get, Settings.setting, part]
    rfl
  have held' (key : String) :
      c'.get (.inSection .build key) = .ok (Settings.buildSetting key b') := by
    simp only [Settings.get, Settings.setting, part']
    rfl
  refine ⟨b, b'.env, part, part'.trans (congrArg Section.settings ?_), ?_⟩
  · refine Settings.buildSetting_determines.2 _ _ fun key known => ?_
    by_cases env : key = "env"
    · subst env
      rfl
    · rw [(Settings.env_updates b).2 key known env]
      have other : SettingName.inSection .build key ≠ .buildEnv := fun same => by
        cases same
        exact env rfl
      have named : SettingName.Known (.inSection .build key) := known
      exact get_eq other (held key) (alike named (held key) (held' key))
  · have env := held "env"
    have env' := held' "env"
    rcases alike known_buildEnv env env' with same | ⟨vars, vars', one, two, perm⟩
    · rw [Setting.variables.inj same]
    · cases one
      cases two
      exact perm

/-- Each setting is found by its name in both, and the settings of a name are alike. -/
theorem alike_of_loads (rearranged : p.Rearranged q) (mapping : p.IsMapping)
    (apart : p.EnvNamesApart) (distinct : (o.map (·.1)).Nodup) (perm : o.Perm o')
    (loads : Loads p o c) (loads' : Loads q o' c') : c.Alike c' := by
  have alike {t : SettingName} {kept kept' : Setting} (known : t.Known) :=
    @get_alike p q o o' c c' rearranged mapping apart distinct perm loads loads' t kept kept' known
  have build := build_alike loads.full loads'.full alike
  refine ⟨?_, build, ?_⟩
  · obtain ⟨vars, vars', env, given, perm⟩ :=
      givenEnv_rearranged rearranged mapping apart loads.env
    exact ⟨vars, vars', env, Except.ok.inj (loads'.env.symm.trans given), perm⟩
  · have name : c'.name = c.name := by
      have same := present?_rearranged rearranged mapping "name" (by decide)
        fun sec => by cases sec <;> decide
      have named := loads'.name
      rw [Profile.givenName, ← same, ← Profile.givenName, loads.name] at named
      exact (Except.ok.inj named).symm
    refine Settings.eq_of_get loads'.full name rfl fun t known => ?_
    obtain ⟨kept, held⟩ := loads.full t known
    obtain ⟨kept', held'⟩ := loads'.full t known
    have other (apart : t ≠ .buildEnv) : c'.get t = c.get t := by
      rw [held, held', get_eq apart held (alike known held held')]
    cases t with
    | workdir => exact other (by decide)
    | inSection sec key =>
      cases sec with
      | build => rfl
      | _ => exact other (by simp [SettingName.buildEnv])

end Outcome

/-! ## Precedence -/

/-- Settings that follow a profile and overrides: under each name the override that is not missing,
else what the profile gives, else the default. A value becomes what its name asks for. -/
structure Settings.Follows (p : Profile) (o : List (SettingName × Value)) (c : Settings) :
    Prop where
  settings : ∀ t : SettingName, t.Known → ∃ kept, c.get t = .ok kept ∧
    match (overriding? o t).or (p.given? t) with
    | some v => v.Becomes t kept
    | none => ({} : Settings).get t = .ok kept
  name : match p.present? "name" with
    | some v => ∃ text, v.textOf = .ok text ∧ c.name = .text text
    | none => c.name = ({} : Settings).name
  env : match member? "env" p with
    | some v => ∃ vars, v.StandsFor vars ∧ c.env = variablesValue vars
    | none => c.env = ({} : Settings).env
  lists : ∀ t ∈ SettingName.lists, ∃ items, c.get t = .ok (.items items)
  vars : (∃ vars, c.env = variablesValue vars) ∧ ∃ vars, c.get .buildEnv = .ok (.variables vars)

/-- The settings that are lists or variables are so whatever is assigned. -/
theorem Settings.Full.kinds {c : Settings} (full : c.Full) :
    (∀ t ∈ SettingName.lists, ∃ items, c.get t = .ok (.items items)) ∧
      ∃ vars, c.get .buildEnv = .ok (.variables vars) := by
  have kind {α : Type} {part : Section α} {look : α → Setting}
      (asked : ∃ old, part.given.map look = .ok old) : ∃ a, part.given.map look = .ok (look a) := by
    obtain ⟨old, held⟩ := asked
    cases part with
    | replaced => cases held
    | settings a => exact ⟨a, rfl⟩
  constructor
  · intro t among
    have asked : ∃ old, c.get t = .ok old := full t (by
      revert t
      simp [SettingName.lists, SettingName.Known, SectionName.keys])
    simp only [SettingName.lists, List.mem_cons, List.not_mem_nil, or_false] at among
    rcases among with rfl | rfl | rfl | rfl <;> obtain ⟨a, held⟩ := kind asked <;> exact ⟨_, held⟩
  · obtain ⟨a, held⟩ := kind (full .buildEnv known_buildEnv)
    exact ⟨_, held⟩

/-- The two sides say the same of each name, one as an equation and the other by cases. -/
theorem follows_of_loads {p : Profile} {o : List (SettingName × Value)} {c : Settings}
    (loads : Loads p o c) : c.Follows p o := by
  have env : match member? "env" p with
      | some v => ∃ vars, v.StandsFor vars ∧ c.env = variablesValue vars
      | none => c.env = ({} : Settings).env := by
    have given := loads.env
    rw [Profile.givenEnv] at given
    rcases found : member? "env" p with _ | v <;> rw [found] at given <;> dsimp only at given ⊢
    · exact (Except.ok.inj given).symm
    · rcases read : variablesSetting v with f | vars <;> rw [read] at given
      · cases given
      · exact ⟨vars, variablesSetting_standsFor read, (Except.ok.inj given).symm⟩
  refine ⟨fun t known => ?_, ?_, env, loads.full.kinds.1, ?_, loads.full.kinds.2⟩
  · obtain ⟨kept, held⟩ := loads.full t known
    refine ⟨kept, held, ?_⟩
    rw [loads.get t known, Profile.base] at held
    rcases chosen : overriding? o t with _ | v <;> rw [chosen] at held <;> dsimp only at held
    · rcases given : p.given? t with _ | v <;> rw [given] at held
      · exact held
      · exact Value.becomes_of_convert held
    · exact Value.becomes_of_convert held
  · have given := loads.name
    rw [Profile.givenName] at given
    rcases found : p.present? "name" with _ | v <;> rw [found] at given <;> dsimp only at given ⊢
    · exact (Except.ok.inj given).symm
    · rcases shown : v.textOf with f | text <;> rw [shown] at given
      · cases given
      · exact ⟨text, rfl, (Except.ok.inj given).symm⟩
  · rcases found : member? "env" p with _ | v <;> rw [found] at env
    · exact ⟨_, env⟩
    · obtain ⟨vars, -, same⟩ := env
      exact ⟨vars, same⟩

/-- Whatever settings come out of a profile and overrides follow them, and neither whether any come
out nor what they are depends on the order of entries and overrides, but for the order of the
variables. -/
theorem Settings.ofProfile_follows (homes : Homes) {p : Profile}
    {o : List (SettingName × Value)} (mapping : p.IsMapping) (distinct : (o.map (·.1)).Nodup) :
    (∀ c, Settings.ofProfile homes p (dottedOverrides o) = .ok c → c.Follows p o) ∧
      (p.EnvNamesApart → ∀ q o', p.Rearranged q → o.Perm o' →
        (∀ c, Settings.ofProfile homes p (dottedOverrides o) = .ok c →
          ∃ c', Settings.ofProfile homes q (dottedOverrides o') = .ok c' ∧ c.Alike c') ∧
        ∀ c', Settings.ofProfile homes q (dottedOverrides o') = .ok c' →
          ∃ c, Settings.ofProfile homes p (dottedOverrides o) = .ok c ∧ c.Alike c') := by
  have loadsOf {p : Profile} {o : List (SettingName × Value)} {c : Settings} (mapping : p.IsMapping)
      (distinct : (o.map (·.1)).Nodup)
      (returned : Settings.ofProfile homes p (dottedOverrides o) = .ok c) : Loads p o c := by
    obtain ⟨c', returned', loads⟩ :=
      loads_of_loadable homes mapping distinct (loadable_of_ok mapping distinct returned)
    cases returned.symm.trans returned'
    exact loads
  refine ⟨fun c returned => follows_of_loads (loadsOf mapping distinct returned), ?_⟩
  intro apart q o' rearranged perm
  have mapping' := rearranged.isMapping mapping
  have distinct' : (o'.map (·.1)).Nodup := (perm.map _).nodup_iff.mp distinct
  constructor
  · intro c returned
    obtain ⟨c', returned', loads'⟩ := loads_of_loadable homes mapping' distinct'
      (loadable_rearranged rearranged mapping apart distinct perm
        (loadable_of_ok mapping distinct returned))
    exact ⟨c', returned', alike_of_loads rearranged mapping apart distinct perm
      (loadsOf mapping distinct returned) loads'⟩
  · intro c' returned'
    obtain ⟨c, returned, loads⟩ := loads_of_loadable homes mapping distinct
      (loadable_rearranged rearranged.symm mapping' (apart.rearranged rearranged mapping) distinct'
        perm.symm (loadable_of_ok mapping' distinct' returned'))
    exact ⟨c, returned, alike_of_loads rearranged mapping apart distinct perm loads
      (loadsOf mapping' distinct' returned')⟩

/-- A profile that gives a working directory and two variables of the build. -/
def exampleProfile (one two : Value × Value) : Profile :=
  [(.text "workdir", .text "tree"),
   (.text "build", .map [(.text "env", .map [one, two]), (.text "timeout", .null)])]

/-- In `exampleProfile` the variables may change places, and overrides of the working directory and
of nothing may do so too. -/
theorem Settings.ofProfile_follows_exampleProfile :
    let homes : Homes := { own := "/root" }
    let flag : Value × Value := (.text "FLAG", .bool true)
    let level : Value × Value := (.text "LEVEL", .null)
    let o : List (SettingName × Value) :=
      [(.workdir, .text "/work"), (.inSection .benchmark "runs", .null)]
    (exampleProfile flag level).IsMapping ∧ (o.map (·.1)).Nodup ∧
      (exampleProfile flag level).EnvNamesApart ∧
        ∃ c c', Settings.ofProfile homes (exampleProfile flag level) (dottedOverrides o) = .ok c ∧
          Settings.ofProfile homes (exampleProfile level flag).reverse
            (dottedOverrides o.reverse) = .ok c' ∧
          c.Follows (exampleProfile flag level) o ∧ c.Alike c' := by
  intro homes flag level o
  have mapping : (exampleProfile flag level).IsMapping := by
    refine ⟨(by decide : ["workdir", "build"].Nodup), fun sec v entries found held => ?_⟩
    cases sec <;> cases found
    cases held
    exact (by decide : ["env", "timeout"].Nodup)
  have distinct : (o.map (·.1)).Nodup := by decide
  have apart : (exampleProfile flag level).EnvNamesApart := by
    refine ⟨fun v found => (by cases found), fun v given entries held => ?_⟩
    cases given
    cases held
    refine .cons (fun e among name named named' => ?_) (List.pairwise_singleton ..)
    cases List.mem_singleton.mp among
    have flagText : flag.1.textOf = .ok "FLAG" := rfl
    have levelText : level.1.textOf = .ok "LEVEL" := rfl
    have same := (flagText.symm.trans named).trans (named'.symm.trans levelText)
    exact absurd (Except.ok.inj same) (by decide)
  have rearranged : (exampleProfile flag level).Rearranged (exampleProfile level flag).reverse := by
    refine ⟨(exampleProfile flag level).reverse, (List.reverse_perm _).symm, ?_⟩
    refine .cons ⟨rfl, .inr (.inr ⟨.build, rfl, .inr ⟨_, _, rfl, rfl, _, .refl _, ?_⟩⟩)⟩
      (.cons ⟨rfl, .inl rfl⟩ .nil)
    refine .cons ⟨rfl, .inr ⟨"env", rfl, .inr ⟨rfl, .inr ⟨_, _, rfl, rfl, ?_⟩⟩⟩⟩
      (.cons ⟨rfl, .inl rfl⟩ .nil)
    exact List.Perm.swap ..
  obtain ⟨follows, order⟩ := Settings.ofProfile_follows homes mapping distinct
  obtain ⟨c', returned', alike⟩ :=
    (order apart _ _ rearranged (List.reverse_perm o).symm).1 _ rfl
  exact ⟨mapping, distinct, apart, _, c', rfl, returned', follows _ rfl, alike⟩

end BuildBench
