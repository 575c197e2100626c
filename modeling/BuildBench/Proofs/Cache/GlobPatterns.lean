import Mathlib.Data.List.Forall2
import BuildBench.Files.Glob
import BuildBench.Proofs.Files.Copies

/-!
# What a pattern selects

A pattern selects path names component by component: `Selects` has one rule for each kind of
component. The search lists exactly these path names and lists none twice, in whichever order the
folders list their entries, as long as no folder has two entries of one name. It fails only where a
path name is too long.
-/

namespace BuildBench

/-! ## Lists of results -/

section Results

variable {α β ε : Type} {f : α → Except ε (List β)} {xs : List α} {lists : List (List β)}

/-- Results were made of the elements of a list, one of each. -/
theorem results_of_mapM {γ : Type} {g : α → Except ε γ} {results : List γ}
    (made : xs.mapM g = .ok results) : List.Forall₂ (fun x result => g x = .ok result) xs results := by
  induction xs generalizing results with
  | nil =>
    cases made
    exact .nil
  | cons x rest ih =>
    rw [List.mapM_cons] at made
    rcases first : g x with e | result <;> rw [first] at made
    · cases made
    · rcases others : rest.mapM g with e | more <;> rw [others] at made <;> cases made
      exact .cons first (ih others)

/-- By induction on the items. -/
theorem mem_results {b : β} (made : List.Forall₂ (fun x list => f x = .ok list) xs lists) :
    b ∈ lists.flatten ↔ ∃ x ∈ xs, ∃ list, f x = .ok list ∧ b ∈ list := by
  induction made with
  | nil => simp
  | cons first others ih => simp [ih, first]

/-- By induction on the items. -/
theorem made_of_mem {x : α} (made : List.Forall₂ (fun x list => f x = .ok list) xs lists)
    (among : x ∈ xs) : ∃ list, f x = .ok list := by
  induction made with
  | nil => cases among
  | cons first others ih =>
    rcases List.mem_cons.mp among with rfl | later
    · exact ⟨_, first⟩
    · exact ih later

/-- Nothing is listed twice if no list has anything twice and no two have anything in common. -/
theorem nodup_results (made : List.Forall₂ (fun x list => f x = .ok list) xs lists)
    (distinct : xs.Nodup) (each : ∀ x list, f x = .ok list → list.Nodup)
    (apart : ∀ x y one two b, f x = .ok one → f y = .ok two → b ∈ one → b ∈ two → x = y) :
    lists.flatten.Nodup := by
  induction made with
  | nil => exact List.nodup_nil
  | @cons x list rest more first others ih =>
    obtain ⟨fresh, distinct⟩ := List.nodup_cons.mp distinct
    rw [List.flatten_cons, List.nodup_append]
    refine ⟨each x list first, ih distinct, fun b inside b' later same => ?_⟩
    subst same
    obtain ⟨y, among, two, second, member⟩ := (mem_results others).mp later
    exact fresh (apart x y list two b first second inside member ▸ among)

/-- By induction on the items: the first one that fails is the cause. -/
theorem mapM_error {γ : Type} {g : α → Except ε γ} {e : ε} (failed : xs.mapM g = .error e) :
    ∃ x ∈ xs, g x = .error e := by
  induction xs with
  | nil => cases failed
  | cons x rest ih =>
    rw [List.mapM_cons] at failed
    rcases first : g x with e' | list <;> rw [first] at failed
    · cases failed
      exact ⟨x, List.mem_cons_self .., first⟩
    · rcases others : rest.mapM g with e' | more <;> rw [others] at failed <;> cases failed
      obtain ⟨y, among, second⟩ := ih others
      exact ⟨y, List.mem_cons_of_mem _ among, second⟩

end Results

/-- By recursion on the list: what is kept first is taken out of the rest. -/
theorem nodup_eraseDups {α : Type} [BEq α] [LawfulBEq α] (xs : List α) : xs.eraseDups.Nodup := by
  match xs with
  | [] => exact List.nodup_nil
  | x :: rest =>
    rw [List.eraseDups_cons, List.nodup_cons]
    refine ⟨fun later => ?_, nodup_eraseDups _⟩
    have other := (List.mem_filter.mp (List.mem_eraseDups.mp later)).2
    simp at other
termination_by xs.length
decreasing_by exact Nat.lt_succ_of_le (List.length_filter_le _ _)

/-! ## Trees in any order -/

/-- No folder of a tree has two entries of one name. -/
inductive Entry.Distinct : Entry → Prop
  | file (content : ByteArray) (executable : Bool) : Distinct (.file content executable)
  | link (target : String) : Distinct (.link target)
  | folder {f : Folder} (names : (f.map (·.1)).Nodup) (inner : ∀ held ∈ f, Distinct held.2) :
    Distinct (.folder f)

/-- The folder itself has distinct names. -/
theorem Entry.Distinct.names {f : Folder} (distinct : Entry.Distinct (.folder f)) :
    (f.map (·.1)).Nodup := by
  cases distinct with
  | folder names inner => exact names

/-- What the folder holds has distinct names in it. -/
theorem Entry.Distinct.inner {f : Folder} (distinct : Entry.Distinct (.folder f)) :
    ∀ held ∈ f, Entry.Distinct held.2 := by
  cases distinct with
  | folder names inner => exact inner

namespace Folder

variable {f root : Folder} {name : String} {e : Entry}

/-- By induction on the entries: what comes later is not hidden by the same name. -/
theorem lookup_eq_some_iff (names : (f.map (·.1)).Nodup) :
    f.lookup name = some e ↔ (name, e) ∈ f := by
  refine ⟨mem_of_lookup, fun member => ?_⟩
  induction f with
  | nil => cases member
  | cons first rest ih =>
    obtain ⟨held, inner⟩ := first
    rw [List.map_cons, List.nodup_cons] at names
    rw [lookup_cons]
    rcases List.mem_cons.mp member with same | later
    · cases same
      rw [if_pos rfl]
    · rw [if_neg, ih names.2 later]
      rintro rfl
      exact names.1 (List.mem_map.mpr ⟨_, later, rfl⟩)

/-- By induction on the location. -/
theorem distinct_at? {location : Location} (distinct : Entry.Distinct (.folder root))
    (held : root.at? location = some e) : e.Distinct := by
  induction location generalizing root with
  | nil =>
    rw [at?_nil] at held
    cases held
    exact distinct
  | cons name rest ih =>
    rw [at?_cons] at held
    obtain ⟨first, found, held⟩ := Option.bind_eq_some_iff.mp held
    have inner := distinct.inner _ (mem_of_lookup found)
    cases first with
    | folder g => exact ih inner held
    | _ =>
      cases rest with
      | nil =>
        cases held
        exact inner
      | cons next more => cases held

end Folder

mutual

/-- The folders below an entry are those that are found without following a link. -/
theorem Entry.mem_foldersBelow {e : Entry} (distinct : e.Distinct) (parts : List String) :
    parts ∈ foldersBelow e ↔ ∃ f, e.at? parts = some (.folder f) := by
  match e with
  | .file content executable => cases parts <;> simp [foldersBelow, Entry.at?]
  | .link target => cases parts <;> simp [foldersBelow, Entry.at?]
  | .folder entries =>
    rw [foldersBelow, List.mem_cons, mem_foldersBelow_inner distinct.inner]
    cases parts with
    | nil => simp [Entry.at?]
    | cons name rest =>
      simp only [Entry.at?, Folder.at?_cons, List.cons_ne_nil, false_or, List.cons.injEq]
      constructor
      · rintro ⟨_, _, inner, ⟨rfl, rfl⟩, member, f, held⟩
        rw [(Folder.lookup_eq_some_iff distinct.names).mpr member]
        exact ⟨f, held⟩
      · rintro ⟨f, held⟩
        obtain ⟨inner, found, held⟩ := Option.bind_eq_some_iff.mp held
        exact ⟨name, rest, inner, ⟨rfl, rfl⟩, Folder.mem_of_lookup found, f, held⟩

/-- By recursion on the entries: a folder lies in one of them, or is one. -/
theorem mem_foldersBelow_inner {entries : List (String × Entry)} {parts : List String}
    (distinct : ∀ held ∈ entries, Entry.Distinct held.2) :
    parts ∈ foldersBelow.inner entries ↔ ∃ name rest inner, parts = name :: rest ∧
      (name, inner) ∈ entries ∧ ∃ f, inner.at? rest = some (.folder f) := by
  match entries with
  | [] => simp [foldersBelow.inner]
  | (held, e) :: more =>
    obtain ⟨first, others⟩ := List.forall_mem_cons.mp distinct
    rw [foldersBelow.inner, List.mem_append, mem_foldersBelow_inner others, List.mem_map]
    constructor
    · rintro (⟨rest, below, rfl⟩ | ⟨name, rest, inner, rfl, member, held⟩)
      · exact ⟨held, rest, e, rfl, List.mem_cons_self .., (Entry.mem_foldersBelow first rest).mp below⟩
      · exact ⟨name, rest, inner, rfl, List.mem_cons_of_mem _ member, held⟩
    · rintro ⟨name, rest, inner, rfl, member, found⟩
      rcases List.mem_cons.mp member with same | later
      · cases same
        exact .inl ⟨rest, (Entry.mem_foldersBelow first rest).mpr found, rfl⟩
      · exact .inr ⟨name, rest, inner, rfl, later, found⟩

end

/-! ## Selection -/

/-- Going down twice is going down along both. -/
theorem PathName.descend_descend (base : PathName) (parts rel : List String) :
    (base.descend parts).descend rel = base.descend (parts ++ rel) := by
  simp [PathName.descend]

namespace Files

variable {files : Files} {foldersOnly : Bool} {selectors rest : List Selector}
  {base path : PathName} {found : List PathName} {f : Fault}

/-- Something is at a path name, and it is a folder if one is wanted. -/
def IsThere (files : Files) (asFolder : Bool) (path : PathName) : Prop :=
  (if asFolder then files.isFolder path else files.exists? path) = .ok true

/-- The path names below a folder that some components of a pattern select. -/
inductive Selects (files : Files) (foldersOnly : Bool) :
    List Selector → PathName → PathName → Prop
  | here (base : PathName) : Selects files foldersOnly [] base base
  | exact {name : String} {rest : List Selector} {base path : PathName}
    (there : files.IsThere (foldersOnly || !rest.isEmpty) (base.child name))
    (next : Selects files foldersOnly rest (base.child name) path) :
    Selects files foldersOnly (.exact name :: rest) base path
  | wildcard {items : List NameItem} {rest : List Selector} {base path : PathName} {f : Folder}
    {held : String × Entry} (opened : files.lookUp base = .ok (.folder f)) (member : held ∈ f)
    (fit : fits items held.1.toList = true)
    (folder : (foldersOnly || !rest.isEmpty) = true →
      files.isFolder (base.child held.1) = .ok true)
    (next : Selects files foldersOnly rest (base.child held.1) path) :
    Selects files foldersOnly (.wildcard items :: rest) base path
  | deep {rest : List Selector} {base path : PathName} {e : Entry} {f : Folder}
    {parts : List String} (found : files.lookUp base = .ok e)
    (below : e.at? parts = some (.folder f))
    (next : Selects files foldersOnly rest (base.descend parts) path) :
    Selects files foldersOnly (.deep :: rest) base path

/-- What is selected below a folder has a path name that begins with the folder's. -/
theorem Selects.descends (selects : files.Selects foldersOnly selectors base path) :
    ∃ rel, path = base.descend rel := by
  induction selects with
  | here base => exact ⟨[], base.descend_nil.symm⟩
  | exact there next ih =>
    obtain ⟨rel, rfl⟩ := ih
    exact ⟨_, PathName.child_descend ..⟩
  | wildcard opened member fit folder next ih =>
    obtain ⟨rel, rfl⟩ := ih
    exact ⟨_, PathName.child_descend ..⟩
  | deep found below next ih =>
    obtain ⟨rel, rfl⟩ := ih
    exact ⟨_, PathName.descend_descend ..⟩

/-- Through two different names nothing is selected in common. -/
theorem Selects.name_eq {name name' : String}
    (one : files.Selects foldersOnly rest (base.child name) path)
    (two : files.Selects foldersOnly rest (base.child name') path) : name = name' := by
  obtain ⟨rel, rfl⟩ := one.descends
  obtain ⟨rel', same⟩ := two.descends
  rw [PathName.child_descend, PathName.child_descend, PathName.descend, PathName.descend] at same
  exact (List.cons.inj (List.append_cancel_left (PathName.mk.inj same).2)).1

/-- What is selected through one entry, if its name fits. -/
def selectNamed (files : Files) (foldersOnly : Bool) (items : List NameItem) (rest : List Selector)
    (base : PathName) (name : String) : Except Fault (List PathName) := do
  if fits items name.toList then
    let path := base.child name
    let folder ←
      if foldersOnly || !rest.isEmpty then (files.isFolder path).mapError (failure path) else pure true
    if folder then files.select foldersOnly rest path else return []
  else return []

/-- By definition. -/
theorem select_wildcard (items : List NameItem) : files.select foldersOnly (.wildcard items :: rest) base =
    (((files.list base).map (·.1)).mapM (selectNamed files foldersOnly items rest base)).map
      List.flatten := rfl

/-- By definition. -/
theorem select_deep : files.select foldersOnly (.deep :: rest) base =
    ((match files.lookUp base with
      | .ok entry => foldersBelow entry
      | .error _ => []).mapM fun parts =>
        files.select foldersOnly rest (base.descend parts)).map
          fun lists : List (List PathName) => lists.flatten.eraseDups := rfl

/-- The search finds what some components select, below every folder, each path name once. -/
def Finds (files : Files) (foldersOnly : Bool) (selectors : List Selector) : Prop :=
  ∀ base found, files.select foldersOnly selectors base = .ok found →
    (∀ path, path ∈ found ↔ files.Selects foldersOnly selectors base path) ∧ found.Nodup

/-- A name that fits is selected, if something is there, and what is below is searched for the rest.
-/
theorem mem_selectNamed {items : List NameItem} {name : String}
    (each : files.Finds foldersOnly rest)
    (selected : selectNamed files foldersOnly items rest base name = .ok found) :
    (∀ path, path ∈ found ↔ fits items name.toList = true ∧
      ((foldersOnly || !rest.isEmpty) = true → files.isFolder (base.child name) = .ok true) ∧
      files.Selects foldersOnly rest (base.child name) path) ∧ found.Nodup := by
  rw [selectNamed] at selected
  by_cases fit : fits items name.toList = true
  · rw [if_pos fit] at selected
    by_cases asFolder : (foldersOnly || !rest.isEmpty) = true
    · simp only [asFolder, if_true] at selected
      rcases asked : files.isFolder (base.child name) with e | folder <;>
        simp only [asked, Except.mapError, bind, Except.bind] at selected
      · cases selected
      · cases folder with
        | false =>
          cases selected
          exact ⟨fun path => by simp [asFolder], List.nodup_nil⟩
        | true => simpa [fit, asFolder] using each _ _ selected
    · simp only [asFolder] at selected
      simpa [fit, asFolder] using each _ _ selected
  · rw [if_neg fit] at selected
    cases selected
    exact ⟨fun path => by simp [fit], List.nodup_nil⟩

/-- What is listed are the entries of the folder, if it is one. -/
theorem mem_list {name : String} : name ∈ (files.list base).map (·.1) ↔
    ∃ f : Folder, files.lookUp base = .ok (.folder f) ∧ ∃ held ∈ f, held.1 = name := by
  rw [list, List.mem_map]
  split
  · next f opened => simp [opened]
  · next other =>
    refine iff_of_false (by simp) ?_
    rintro ⟨f, opened, -⟩
    exact other f opened

/-- The folder is found in the tree, so its names are distinct. -/
theorem distinct_list (distinct : Entry.Distinct (.folder files.root)) (base : PathName) :
    ((files.list base).map (·.1)).Nodup := by
  rw [list]
  split
  · next f opened =>
    obtain ⟨location, -, held⟩ := lookUp_ok opened
    exact (Folder.distinct_at? distinct held).names
  · exact List.nodup_nil

/-- The folders that are searched below another one are those that are found without following a
link. -/
theorem mem_below (distinct : Entry.Distinct (.folder files.root)) {parts : List String} :
    parts ∈ (match files.lookUp base with
      | .ok entry => foldersBelow entry
      | .error _ => []) ↔
      ∃ e, files.lookUp base = .ok e ∧ ∃ f, e.at? parts = some (.folder f) := by
  rcases looked : files.lookUp base with failure | e
  · simp
  · obtain ⟨location, -, held⟩ := lookUp_ok looked
    simpa using Entry.mem_foldersBelow (Folder.distinct_at? distinct held) parts

/-- Without a component the folder itself is what is selected. -/
theorem finds_nil : files.Finds foldersOnly [] := by
  intro base found selected
  cases selected
  refine ⟨fun path => ?_, List.nodup_cons.mpr ⟨List.not_mem_nil, List.nodup_nil⟩⟩
  rw [List.mem_singleton]
  constructor
  · rintro rfl
    exact .here path
  · intro selects
    cases selects
    rfl

/-- The component is one name, and the rest is found below it. -/
theorem finds_exact (each : files.Finds foldersOnly rest) (name : String) :
    files.Finds foldersOnly (.exact name :: rest) := by
  intro base found selected
  rw [select] at selected
  rcases asked : (if foldersOnly || !rest.isEmpty then files.isFolder (base.child name)
    else files.exists? (base.child name)) with e | there <;>
    simp only [asked, Except.mapError, bind, Except.bind] at selected
  · cases selected
  · cases there with
    | false =>
      cases selected
      refine ⟨fun path => iff_of_false List.not_mem_nil fun selects => ?_, List.nodup_nil⟩
      cases selects with
      | exact there next => cases asked.symm.trans there
    | true =>
      obtain ⟨members, once⟩ := each _ _ selected
      refine ⟨fun path => (members path).trans ⟨.exact asked, fun selects => ?_⟩, once⟩
      cases selects with
      | exact there next => exact next

/-- Nothing is found twice below a folder whose entries have different names: what is found through
an entry has its name. -/
theorem finds_wildcard (distinct : Entry.Distinct (.folder files.root))
    (each : files.Finds foldersOnly rest) (items : List NameItem) :
    files.Finds foldersOnly (.wildcard items :: rest) := by
  intro base found selected
  rw [select_wildcard] at selected
  rcases made : ((files.list base).map (·.1)).mapM
    (selectNamed files foldersOnly items rest base) with e | lists <;> rw [made] at selected <;>
    cases selected
  have results := results_of_mapM made
  have named {name list} (one : selectNamed files foldersOnly items rest base name = .ok list) :=
    mem_selectNamed each one
  refine ⟨fun path => (mem_results results).trans ⟨?_, fun selects => ?_⟩, nodup_results results
    ?_ (fun name list one => (named one).2) fun name name' list list' path one two first second => ?_⟩
  · rintro ⟨name, among, list, one, member⟩
    obtain ⟨fit, folder, next⟩ := ((named one).1 path).mp member
    obtain ⟨f, opened, held, inside, rfl⟩ := mem_list.mp among
    exact .wildcard opened inside fit folder next
  · cases selects with
    | @wildcard _ _ _ _ f held opened inside fit folder next =>
      have among := mem_list.mpr ⟨f, opened, held, inside, rfl⟩
      obtain ⟨list, one⟩ := made_of_mem results among
      exact ⟨_, among, list, one, ((named one).1 path).mpr ⟨fit, folder, next⟩⟩
  · exact distinct_list distinct base
  · exact (((named one).1 path).mp first).2.2.name_eq (((named two).1 path).mp second).2.2

/-- The rest is found below each of the folders below, and what is found in more than one way is
listed once. -/
theorem finds_deep (distinct : Entry.Distinct (.folder files.root))
    (each : files.Finds foldersOnly rest) : files.Finds foldersOnly (.deep :: rest) := by
  intro base found selected
  rw [select_deep] at selected
  rcases made : (match files.lookUp base with
    | .ok entry => foldersBelow entry
    | .error _ => []).mapM fun parts => files.select foldersOnly rest (base.descend parts)
    with e | lists <;> rw [made] at selected <;> cases selected
  have results := results_of_mapM made
  refine ⟨fun path => List.mem_eraseDups.trans ((mem_results results).trans
    ⟨?_, fun selects => ?_⟩), nodup_eraseDups _⟩
  · rintro ⟨parts, among, list, one, member⟩
    obtain ⟨e, looked, f, below⟩ := (mem_below distinct).mp among
    exact .deep looked below (((each _ _ one).1 path).mp member)
  · cases selects with
    | @deep _ _ _ e f parts looked below next =>
      have among := (mem_below distinct).mpr ⟨e, looked, f, below⟩
      obtain ⟨list, one⟩ := made_of_mem results among
      exact ⟨_, among, list, one, ((each _ _ one).1 path).mpr next⟩

/-- The search finds what a pattern selects, each path name once. -/
theorem finds (distinct : Entry.Distinct (.folder files.root)) (selectors : List Selector) :
    files.Finds foldersOnly selectors := by
  induction selectors with
  | nil => exact finds_nil
  | cons selector rest ih =>
    cases selector with
    | exact name => exact finds_exact ih name
    | wildcard items => exact finds_wildcard distinct ih items
    | deep => exact finds_deep distinct ih

/-! ## Searches that fail -/

/-- A path name is too long to ask for it. -/
def IsTooLong (f : Fault) : Prop := ∃ path : PathName, f = .system .nameTooLong path.display

/-- An answered question fails in no way but one. -/
theorem asked_error {p : Entry → Bool} (failed : (files.check p path).mapError (failure path) =
    .error f) : IsTooLong f := by
  rcases asked : files.check p path with e | answer <;> rw [asked] at failed <;> cases failed
  exact ⟨path, by rw [check_error asked]; rfl⟩

/-- Asking for the entry or searching below it is what can fail. -/
theorem selectNamed_error {items : List NameItem} {name : String}
    (each : ∀ {base}, files.select foldersOnly rest base = .error f → IsTooLong f)
    (failed : selectNamed files foldersOnly items rest base name = .error f) : IsTooLong f := by
  rw [selectNamed] at failed
  by_cases fit : fits items name.toList = true
  · by_cases asFolder : (foldersOnly || !rest.isEmpty) = true
    · rcases asked : (files.isFolder (base.child name)).mapError (failure (base.child name))
        with e | folder <;> simp only [fit, asFolder, if_true, asked, bind, Except.bind] at failed
      · cases failed
        exact asked_error asked
      · cases folder with
        | false => cases failed
        | true => exact each failed
    · simp only [fit, asFolder, if_true] at failed
      exact each failed
  · rw [if_neg fit] at failed
    cases failed

/-- By induction on the components: each question that fails is about a name that is too long. -/
theorem select_error (failed : files.select foldersOnly selectors base = .error f) :
    IsTooLong f := by
  induction selectors generalizing base with
  | nil => cases failed
  | cons selector rest ih =>
    cases selector with
    | exact name =>
      rw [select] at failed
      rcases asked : (if foldersOnly || !rest.isEmpty then files.isFolder (base.child name)
        else files.exists? (base.child name)).mapError (failure (base.child name)) with e | there <;>
        simp only [asked, bind, Except.bind] at failed
      · cases failed
        split at asked <;> exact asked_error asked
      · cases there with
        | false => cases failed
        | true => exact ih failed
    | wildcard items =>
      rw [select_wildcard] at failed
      rcases made : ((files.list base).map (·.1)).mapM
        (selectNamed files foldersOnly items rest base) with e | lists <;> rw [made] at failed <;>
        cases failed
      obtain ⟨name, -, one⟩ := mapM_error made
      exact selectNamed_error ih one
    | deep =>
      rw [select_deep] at failed
      rcases made : (match files.lookUp base with
        | .ok entry => foldersBelow entry
        | .error _ => []).mapM fun parts => files.select foldersOnly rest (base.descend parts)
        with e | lists <;> rw [made] at failed <;> cases failed
      obtain ⟨parts, -, one⟩ := mapM_error made
      exact ih one

/-- A whole search. -/
theorem mem_glob {pattern : Pattern} (distinct : Entry.Distinct (.folder files.root))
    (globbed : files.glob base pattern = .ok found) :
    (∀ path, path ∈ found ↔ files.isFolder base = .ok true ∧
      files.Selects pattern.foldersOnly pattern.selectors base path) ∧ found.Nodup := by
  rw [glob] at globbed
  rcases asked : files.isFolder base with e | folder <;>
    simp only [asked, Except.mapError, bind, Except.bind] at globbed
  · cases globbed
  · cases folder with
    | false =>
      cases globbed
      exact ⟨fun path => by simp, List.nodup_nil⟩
    | true => simpa using finds distinct _ _ _ globbed

/-- The folder is asked for first, and then the search goes on. -/
theorem glob_error {pattern : Pattern} (failed : files.glob base pattern = .error f) :
    IsTooLong f := by
  rw [glob] at failed
  rcases asked : (files.isFolder base).mapError (failure base) with e | folder <;>
    simp only [asked, bind, Except.bind] at failed
  · cases failed
    exact asked_error asked
  · cases folder with
    | false => cases failed
    | true => exact select_error failed

end Files

end BuildBench
