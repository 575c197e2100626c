import Mathlib.Data.List.Nodup
import Mathlib.Data.List.Perm.Basic
import Mathlib.Data.List.Forall2
import BuildBench.Settings.Profile

/-!
# The variables that a map stands for

A map of variables is read entry by entry, and an entry whose name is already there replaces the
value. `Value.StandsFor` says what comes out without the order of reading: every name once, with the
value that the last entry of that name gives. Where no two entries have one name, the order of the
entries is only the order of the variables.
-/

namespace BuildBench

section Lookup

variable {κ α : Type} [BEq κ] [LawfulBEq κ] {k : κ} {x : α} {l l' : List (κ × α)}

/-- By whether the first name is the one that is looked up. -/
theorem lookup_cons_if [DecidableEq κ] {name : κ} {rest : List (κ × α)} :
    ((name, x) :: rest).lookup k = if k = name then some x else rest.lookup k := by
  by_cases same : k = name
  · subst same
    simp
  · simp [List.lookup_cons, same, beq_false_of_ne same]

/-- By induction on the list: what comes later is not hidden by the same name. -/
theorem lookup_eq_some_iff_mem (distinct : (l.map (·.1)).Nodup) :
    l.lookup k = some x ↔ (k, x) ∈ l := by
  classical
  induction l with
  | nil => simp
  | cons first rest ih =>
    obtain ⟨name, value⟩ := first
    obtain ⟨fresh, distinct⟩ := List.nodup_cons.mp distinct
    rw [lookup_cons_if, List.mem_cons, Prod.mk.injEq]
    by_cases same : k = name
    · subst same
      have gone : (k, x) ∉ rest := fun among => fresh (List.mem_map.mpr ⟨_, among, rfl⟩)
      simp [gone, eq_comm]
    · simp [same, ih distinct]

/-- Lists of named things are the same up to order if they have the same under every name. -/
theorem perm_of_lookup (distinct : (l.map (·.1)).Nodup) (distinct' : (l'.map (·.1)).Nodup)
    (same : ∀ k, l.lookup k = l'.lookup k) : l.Perm l' := by
  refine (List.perm_ext_iff_of_nodup (List.Nodup.of_map _ distinct)
    (List.Nodup.of_map _ distinct')).mpr fun (k, x) => ?_
  rw [← lookup_eq_some_iff_mem distinct, ← lookup_eq_some_iff_mem distinct', same]

/-- With distinct names to be found is to be a member, in whatever order. -/
theorem lookup_of_perm (distinct : (l.map (·.1)).Nodup) (perm : l.Perm l') :
    l.lookup k = l'.lookup k := by
  have distinct' : (l'.map (·.1)).Nodup := (perm.map _).nodup_iff.mp distinct
  refine Option.ext fun x => ?_
  rw [lookup_eq_some_iff_mem distinct, lookup_eq_some_iff_mem distinct', perm.mem_iff]

end Lookup

/-! ## Setting variables one after the other -/

section Insert

variable {name value : String} {vars texts : Variables}

/-- By induction on the variables: the value is replaced where its name is, or added at the end. -/
theorem lookup_insertVariable {m : String} :
    (insertVariable name value vars).lookup m = if m = name then some value else vars.lookup m := by
  induction vars with
  | nil => rw [insertVariable, lookup_cons_if]
  | cons first rest ih =>
    obtain ⟨k, v⟩ := first
    by_cases there : k = name
    · subst there
      simp only [insertVariable, ↓reduceIte, lookup_cons_if]
      split <;> rfl
    · simp only [insertVariable, there, ↓reduceIte, lookup_cons_if, ih]
      by_cases same : m = k
      · simp [same, there]
      · simp [same]

/-- By induction on the variables in the same way. -/
theorem mem_names_insertVariable {m : String} :
    m ∈ (insertVariable name value vars).map (·.1) ↔ m = name ∨ m ∈ vars.map (·.1) := by
  induction vars with
  | nil => simp [insertVariable]
  | cons first rest ih =>
    obtain ⟨k, v⟩ := first
    by_cases there : k = name
    · subst there
      simp [insertVariable]
    · simp only [insertVariable, there, ↓reduceIte, List.map_cons, List.mem_cons, ih]
      tauto

/-- By induction on the variables: a name is added only where it was missing. -/
theorem nodup_insertVariable (distinct : (vars.map (·.1)).Nodup) :
    ((insertVariable name value vars).map (·.1)).Nodup := by
  induction vars with
  | nil => simp [insertVariable]
  | cons first rest ih =>
    obtain ⟨k, v⟩ := first
    obtain ⟨fresh, others⟩ := List.nodup_cons.mp distinct
    by_cases there : k = name
    · subst there
      rw [insertVariable, if_pos rfl]
      exact List.nodup_cons.mpr ⟨fresh, others⟩
    · rw [insertVariable, if_neg there, List.map_cons, List.nodup_cons, mem_names_insertVariable]
      exact ⟨fun among => among.elim there fresh, ih others⟩

/-- Variables after some more were set. -/
def Variables.setAll (vars texts : Variables) : Variables :=
  texts.foldl (fun vars x => insertVariable x.1 x.2 vars) vars

/-- By induction on the variables that are set. -/
theorem nodup_setAll (distinct : (vars.map (·.1)).Nodup) :
    ((Variables.setAll vars texts).map (·.1)).Nodup := by
  induction texts generalizing vars with
  | nil => exact distinct
  | cons first rest ih => exact ih (nodup_insertVariable distinct)

/-- By induction on the variables that are set: the last one of a name is the one that counts. -/
theorem lookup_setAll {m : String} :
    (Variables.setAll vars texts).lookup m = (texts.reverse.lookup m).or (vars.lookup m) := by
  induction texts generalizing vars with
  | nil => simp [Variables.setAll]
  | cons first rest ih =>
    have later : (Variables.setAll vars (first :: rest)).lookup m =
        (Variables.setAll (insertVariable first.1 first.2 vars) rest).lookup m := rfl
    rw [later, ih, lookup_insertVariable, List.reverse_cons, List.lookup_append, Option.or_assoc]
    rw [lookup_cons_if]
    by_cases same : m = first.1 <;> simp [same]

end Insert

/-- The texts of an entry of a map of variables. -/
def Shows (entry : Value × Value) (x : String × String) : Prop :=
  entry.1.textOf = .ok x.1 ∧ variableText entry.2 = .ok x.2

/-- The variables that a value stands for: none for null, and for a map the texts of its entries. A
name stands there once, with the value of the last entry of that name. -/
inductive Value.StandsFor : Value → Variables → Prop where
  | null {v : Value} (held : v.bare = .null) : StandsFor v []
  | map {v : Value} {entries : List (Value × Value)} {texts vars : Variables}
      (held : v.bare = .map entries) (shown : List.Forall₂ Shows entries texts)
      (distinct : (vars.map (·.1)).Nodup)
      (last : ∀ name, vars.lookup name = texts.reverse.lookup name) : StandsFor v vars

/-- By induction on the entries: each that could be read was set with its texts. -/
theorem setAll_of_entries {entries : List (Value × Value)} {vars vars' : Variables}
    (read : entries.foldlM (fun vars (k, v) => do
      return insertVariable (← k.textOf) (← variableText v) vars) vars = .ok vars') :
    ∃ texts, List.Forall₂ Shows entries texts ∧ vars' = vars.setAll texts := by
  induction entries generalizing vars with
  | nil =>
    cases read
    exact ⟨[], .nil, rfl⟩
  | cons entry rest ih =>
    obtain ⟨k, v⟩ := entry
    rw [List.foldlM_cons] at read
    rcases named : k.textOf with f | name <;> simp only [named] at read
    · cases read
    rcases valued : variableText v with f | value <;> simp only [valued] at read
    · cases read
    obtain ⟨texts, shown, made⟩ := ih read
    exact ⟨(name, value) :: texts, .cons ⟨named, valued⟩ shown, made⟩

/-- By induction on the entries: each can be read, since it has texts. -/
theorem entries_of_shows {entries : List (Value × Value)} {vars texts : Variables}
    (shown : List.Forall₂ Shows entries texts) :
    entries.foldlM (fun vars (k, v) => do
      return insertVariable (← k.textOf) (← variableText v) vars) vars =
        (Except.ok (vars.setAll texts) : Except Fault Variables) := by
  induction shown generalizing vars with
  | nil => rfl
  | cons first others ih =>
    rw [List.foldlM_cons]
    simp only [first.1, first.2]
    exact ih

/-- By the kind of the value: null sets no variable, and a map its entries. -/
theorem variablesSetting_standsFor {v : Value} {vars : Variables}
    (read : variablesSetting v = .ok vars) : v.StandsFor vars := by
  unfold variablesSetting at read
  split at read
  next held =>
    cases read
    exact .null held
  next entries held =>
    obtain ⟨texts, shown, rfl⟩ := setAll_of_entries read
    exact .map held shown (nodup_setAll List.nodup_nil) fun name => by simp [lookup_setAll]
  next => cases read

/-! ## The order of the entries -/

/-- No two entries of a map of variables have one name. -/
def NamesApart (v : Value) : Prop :=
  ∀ entries, v.bare = .map entries →
    entries.Pairwise fun e e' => ∀ name, e.1.textOf = .ok name → e'.1.textOf ≠ .ok name

/-- Two values that are the same but for the order of the entries if they are maps. -/
def Value.Rearranged (v w : Value) : Prop :=
  v = w ∨ ∃ entries entries', v.bare = .map entries ∧ w.bare = .map entries' ∧
    entries.Perm entries'

/-- A permutation can be turned back. -/
theorem Value.Rearranged.symm {v w : Value} (rearranged : v.Rearranged w) : w.Rearranged v := by
  rcases rearranged with rfl | ⟨entries, entries', held, held', perm⟩
  · exact .inl rfl
  · exact .inr ⟨entries', entries, held', held, perm.symm⟩

/-- By induction on the entries. -/
theorem Shows.source {entries : List (Value × Value)} {texts : Variables} {x : String × String}
    (shown : List.Forall₂ Shows entries texts) (among : x ∈ texts) : ∃ e ∈ entries, Shows e x := by
  induction shown with
  | nil => cases among
  | cons first others ih =>
    rcases List.mem_cons.mp among with rfl | later
    · exact ⟨_, List.mem_cons_self, first⟩
    · obtain ⟨e, within, shows⟩ := ih later
      exact ⟨e, List.mem_cons_of_mem _ within, shows⟩

/-- By induction on the entries: the first name is that of no later entry. -/
theorem names_nodup {entries : List (Value × Value)} {texts : Variables}
    (apart : entries.Pairwise fun e e' => ∀ name, e.1.textOf = .ok name → e'.1.textOf ≠ .ok name)
    (shown : List.Forall₂ Shows entries texts) : (texts.map (·.1)).Nodup := by
  induction shown with
  | nil => exact List.nodup_nil
  | @cons entry x rest more first others ih =>
    obtain ⟨fresh, apart⟩ := List.pairwise_cons.mp apart
    refine List.nodup_cons.mpr ⟨fun among => ?_, ih apart⟩
    obtain ⟨y, within, same⟩ := List.mem_map.mp among
    obtain ⟨e, source, shows⟩ := Shows.source others within
    exact fresh e source x.1 first.1 (shows.1.trans (congrArg Except.ok same))

/-- Where the names stay apart, a map with its entries in another order stands for the same
variables in another order. -/
theorem variablesSetting_rearranged {v w : Value} {vars : Variables} (apart : NamesApart v)
    (rearranged : v.Rearranged w) (read : variablesSetting v = .ok vars) :
    ∃ vars', variablesSetting w = .ok vars' ∧ vars.Perm vars' := by
  rcases rearranged with rfl | ⟨entries, entries', held, held', perm⟩
  · exact ⟨vars, read, .refl _⟩
  simp only [variablesSetting, held] at read
  simp only [variablesSetting, held']
  obtain ⟨texts, shown, rfl⟩ := setAll_of_entries read
  obtain ⟨texts', shown', perm'⟩ := List.perm_comp_forall₂ perm.symm shown
  have distinct := names_nodup (apart entries held) shown
  have turned : texts.reverse.Perm texts'.reverse :=
    (texts.reverse_perm.trans perm'.symm).trans texts'.reverse_perm.symm
  refine ⟨Variables.setAll [] texts', entries_of_shows shown', ?_⟩
  refine perm_of_lookup (nodup_setAll List.nodup_nil) (nodup_setAll List.nodup_nil) fun name => ?_
  rw [lookup_setAll, lookup_setAll, lookup_of_perm _ turned]
  rw [List.map_reverse]
  exact List.nodup_reverse.mpr distinct

end BuildBench
