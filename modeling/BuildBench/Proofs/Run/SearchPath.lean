import BuildBench.Command.Environment
import BuildBench.Proofs.Cache.GlobPatterns
import BuildBench.Proofs.Settings.EditedProfiles
import BuildBench.Proofs.Timing.ShownPaths

/-!
# Variables of an environment

A layer over the variables of the program replaces those that it names and leaves the others. After
that the folder of installed programs is put in front of the search path. As long as its name has no
mark in it that ends an entry, it is the first of the entries then, and putting it there again
changes nothing. Otherwise it counts as several entries, and is never found among them.
-/

namespace BuildBench

/-! ## Lookups -/

section Members

variable {name : String} {key v : Value} {entries others : List (Value × Value)}

/-- A text is the same key as a text only. -/
theorem sameKey_textless (textless : ∀ s, key ≠ .text s) (s : String) :
    (Value.text s).sameKey key = false := by
  cases key with
  | text t => exact absurd rfl (textless t)
  | float x => rfl
  | _ => rfl

/-- An entry under any key changes only what is found under that key. -/
theorem member?_insertEntry_of_key : member? name (insertEntry key v entries) =
    if key.isText name then some v else member? name entries := by
  by_cases text : ∃ s, key = .text s
  · obtain ⟨s, rfl⟩ := text
    rw [member?_insertEntry]
    simp [Value.isText, eq_comm (a := name)]
  have textless : ∀ s, key ≠ .text s := fun s same => text ⟨s, same⟩
  rw [if_neg fun same => textless name (isText_iff.mp same)]
  have skipped : ∀ x, textKey? (key, x) ≠ some name := fun x found =>
    textless name (congrArg Prod.fst (textKey?_eq_some_iff.mp found))
  induction entries with
  | nil => rw [insertEntry, member?_cons, if_neg (skipped v)]
  | cons e rest ih =>
    obtain ⟨k, old⟩ := e
    rw [insertEntry]
    split
    · next same =>
      have other : ∀ x, textKey? (k, x) ≠ some name := by
        intro x found
        have named : k = .text name := congrArg Prod.fst (textKey?_eq_some_iff.mp found)
        rw [named, sameKey_textless textless] at same
        cases same
      rw [member?_cons, member?_cons, if_neg (other _), if_neg (other _)]
    · rw [member?_cons, member?_cons, ih]

/-- The search goes through the first entries and then through the others. -/
theorem member?_append :
    member? name (entries ++ others) = (member? name entries).or (member? name others) := by
  simp only [member?, List.find?_append]
  cases entries.find? _ <;> rfl

/-- What is under another key is not touched by an entry. -/
theorem filter_insertEntry (v : Value) :
    (insertEntry (.text name) v entries).filter (!·.1.isText name) =
      entries.filter (!·.1.isText name) := by
  induction entries with
  | nil => simp [insertEntry, Value.isText]
  | cons e rest ih =>
    obtain ⟨k, old⟩ := e
    rw [insertEntry, sameKey_text]
    split
    · next here => simp [here]
    · next apart => simp [apart, ih]

end Members

namespace Environment

variable {name : String} {vars : Variables} {env env' layered : Environment}

/-! ## Layers -/

/-- By induction on the variables: both searches find the first one under the name. -/
theorem member?_ofVariables : member? name (ofVariables vars) = (vars.lookup name).map .text := by
  induction vars with
  | nil => rfl
  | cons first rest ih =>
    obtain ⟨k, v⟩ := first
    rw [ofVariables, List.map_cons, member?_cons, lookup_cons_if, ← ofVariables, ih]
    by_cases same : name = k
    · simp [textKey?, same]
    · simp [textKey?, same, Ne.symm same]

/-- Among entries that are put over an environment, the last one under a name counts. -/
theorem member?_overlaid (entries : Environment) :
    member? name (env.overlaid entries) = (member? name entries.reverse).or (member? name env) := by
  induction entries generalizing env with
  | nil => rfl
  | cons e rest ih =>
    have last : member? name (insertEntry e.1 e.2 env) = (member? name [e]).or (member? name env) := by
      rw [member?_insertEntry_of_key, member?_cons]
      by_cases here : e.1.isText name
      · rw [if_pos here, if_pos (textKey?_eq_some_iff.mpr (Prod.ext (isText_iff.mp here) rfl))]
        rfl
      · rw [if_neg here, if_neg fun found =>
          here (isText_iff.mpr (congrArg Prod.fst (textKey?_eq_some_iff.mp found)))]
        rfl
    rw [overlaid, List.foldl_cons, ← overlaid, ih, last, List.reverse_cons, member?_append,
      Option.or_assoc]

/-- The text that a layer gives a variable: that of the last entry under its name. -/
def layerText? (v : Value) (name : String) : Option String :=
  match v.bare with
  | .map entries => (member? name entries.reverse).bind fun x => x.textOf.toOption
  | _ => none

/-- An entry of a layer with its value as text. -/
def Texts (e e' : Value × Value) : Prop := ∃ t, e.2.textOf = .ok t ∧ e' = (e.1, .text t)

/-- By induction on the entries: names stay, and values become text. -/
theorem member?_of_texts {entries texts : Environment} (read : List.Forall₂ Texts entries texts) :
    member? name texts =
      ((member? name entries).bind fun x => x.textOf.toOption).map .text := by
  induction read with
  | nil => rfl
  | @cons e e' rest more first others ih =>
    obtain ⟨t, shown, rfl⟩ := first
    rw [member?_cons, member?_cons, ih]
    by_cases here : textKey? e = some name
    · rw [if_pos here, if_pos (by simpa [textKey?] using here)]
      simp [shown, Except.toOption]
    · rw [if_neg here, if_neg (by simpa [textKey?] using here)]

/-- A layer that can be read is a map of entries whose values have texts, or it is absent and has
none. -/
theorem layer_ok {v : Value} (read : layer v = .ok layered) :
    member? name layered.reverse = (layerText? v name).map .text := by
  have bare_of_absent : v.isPresent = false → ∀ entries, v.bare = .map entries → entries = [] := by
    intro absent entries same
    have absent : v.bare.isPresent = false := by cases v <;> exact absent
    rw [same] at absent
    simpa [Value.isPresent] using absent
  unfold layer at read
  split at read
  · next absent =>
    cases read
    unfold layerText?
    split
    · next entries same =>
      rw [bare_of_absent (by simpa using absent) entries same]
      rfl
    · rfl
  · split at read
    · next entries same =>
      have given : layerText? v name =
          (member? name entries.reverse).bind fun x => x.textOf.toOption := by
        rw [layerText?, same]
      rw [given]
      have made : List.Forall₂ Texts entries layered := by
        refine (results_of_mapM read).imp fun e e' shown => ?_
        obtain ⟨k, v⟩ := e
        rcases text : v.textOf with f | t <;> simp only [text] at shown <;> cases shown
        exact ⟨t, text, rfl⟩
      exact member?_of_texts (List.rel_reverse made)
    · cases read

/-- A variable has the text that the layer gives it, else that of the program itself. -/
theorem merge_ok {v : Value} (merged : merge vars [v] = .ok env) (name : String) :
    member? name env = ((layerText? v name).or (vars.lookup name)).map .text := by
  rcases read : layer v with f | layered <;>
    simp only [merge, List.foldlM_cons, List.foldlM_nil, read] at merged <;> cases merged
  rw [member?_overlaid, layer_ok read, member?_ofVariables]
  cases layerText? v name <;> rfl

/-! ## The search path -/

/-- The folders that a search path names. One that is missing or empty names none. -/
def foldersOf (path : Option String) : List String :=
  match path with
  | some path => if path.isEmpty then [] else Text.splitAt ':' path
  | none => []

/-- The folders in which programs are looked for. -/
def folders (env : Environment) : List String :=
  match member? "PATH" env with
  | some (.text path) => foldersOf (some path)
  | _ => []

/-- The folders are read off the search path, missing or not. -/
theorem folders_eq {path : Option String} (found : member? "PATH" env = path.map .text) :
    env.folders = foldersOf path := by
  cases path <;> simp [folders, found, foldersOf]

/-- A search path, if there is one, is text. -/
def HasTextPath (env : Environment) : Prop := ∀ v, member? "PATH" env = some v → ∃ s, v = .text s

/-- A search path that is text is split as it is. -/
theorem searchEntries_eq (text : env.HasTextPath) : searchEntries env.searchPath = .ok env.folders := by
  unfold searchPath folders
  rcases found : member? "PATH" env with _ | v
  · rfl
  · obtain ⟨s, rfl⟩ := text v found
    by_cases empty : s.isEmpty <;> simp [searchEntries, foldersOf, Value.isPresent, empty]

/-- By whether the folder is one of those that are searched already. -/
theorem withFolder_eq (text : env.HasTextPath) (folder : String) :
    env.withFolder folder = .ok (if folder ∈ env.folders then env
      else env.set "PATH" (.text (":".intercalate (folder :: env.folders)))) := by
  rw [withFolder, searchEntries_eq text]
  by_cases among : folder ∈ env.folders
  · rw [if_pos among]
    exact if_pos (List.contains_iff_mem.mpr among)
  · rw [if_neg among]
    exact if_neg (by simpa using among)

/-- Entries are what lies between the colons. -/
theorem not_mem_folders (among : name ∈ env.folders) : ':' ∉ name.toList := by
  unfold folders foldersOf at among
  split at among
  · dsimp only at among
    split at among
    · simp at among
    · obtain ⟨piece, cut, rfl⟩ := List.mem_map.mp among
      simpa using Text.not_mem_of_mem_pieces cut
  · simp at among

/-- Folders that were joined to a search path are found again, as long as no name ends early. -/
theorem folders_set (names : List String) (filled : ∃ first rest, names = first :: rest ∧ first ≠ "")
    (whole : ∀ name ∈ names, ':' ∉ name.toList) :
    (env.set "PATH" (.text (":".intercalate names))).folders = names := by
  have joined : (":".intercalate names).toList = [':'].intercalate (names.map String.toList) := by
    rw [String.toList_intercalate]
    rfl
  have nonempty : (":".intercalate names).isEmpty = false := by
    obtain ⟨first, rest, rfl, given⟩ := filled
    have given : first.toList ≠ [] := by simpa using given
    rw [← Bool.not_eq_true, String.isEmpty_iff, ← String.toList_eq_nil_iff, joined]
    cases rest with
    | nil => simpa using given
    | cons next more => simp [List.intercalate_cons_cons, given]
  have cut : Text.splitAt ':' (":".intercalate names) = names := by
    obtain ⟨first, rest, rfl, -⟩ := filled
    rw [Text.splitAt, joined, Text.pieces_intercalate (by simp)]
    · simp [Function.comp_def]
    · intro piece among
      obtain ⟨name, inside, rfl⟩ := List.mem_map.mp among
      exact whole name inside
  simp [folders, foldersOf, set, member?_insertEntry, nonempty, cut]

/-! ## The folder of installed programs -/

/-- The folder of installed programs, with its tilde replaced. -/
def programFolder (homes : Homes) (install : InstallSettings) : Except Fault PathName := do
  homes.replaceTilde (← pathSetting install.binDir)

/-- The setting is read and its tilde replaced before the folder is put in front. -/
theorem withPrograms_eq {homes : Homes} {install : InstallSettings} {folder : PathName}
    (named : programFolder homes install = .ok folder) (env : Environment) :
    withPrograms homes install env = env.withFolder folder.display := by
  rcases read : pathSetting install.binDir with f | path <;>
    simp only [programFolder, read] at named
  · cases named
  · simp only [withPrograms, read]
    change (homes.replaceTilde path >>= fun folder => env.withFolder folder.display) = _
    rw [show homes.replaceTilde path = .ok folder from named]
    rfl

/-- What was done began with a folder that could be named. -/
theorem withPrograms_ok {homes : Homes} {install : InstallSettings}
    (done : withPrograms homes install env = .ok env') :
    ∃ folder, programFolder homes install = .ok folder ∧
      env.withFolder folder.display = .ok env' := by
  rcases named : programFolder homes install with f | folder
  · rcases read : pathSetting install.binDir with g | path <;>
      simp only [programFolder, withPrograms, read] at named done
    · cases done
    · change (homes.replaceTilde path >>= fun folder => env.withFolder folder.display) = _ at done
      rw [show homes.replaceTilde path = .error f from named] at done
      cases done
  · exact ⟨folder, rfl, withPrograms_eq named env ▸ done⟩

/-- A path without components is shown as one dot. -/
theorem display_ne_empty (path : PathName) : path.display ≠ "" := by
  unfold PathName.display
  dsimp only
  split
  · decide
  · next given => simpa using given

/-- A folder was put in front of the search path, unless it is one of its folders already. -/
structure FolderFirst (folder : String) (env env' : Environment) : Prop where
  folders : env'.folders = if folder ∈ env.folders then env.folders else folder :: env.folders
  /-- All other variables are as they were, in their order. -/
  others : env'.filter (!·.1.isText "PATH") = env.filter (!·.1.isText "PATH")
  text : env'.HasTextPath

/-- The folder is put in front and read back as the first entry, since it holds no colon; or it is
there already and nothing is done. -/
theorem withFolder_first {folder : String} (given : folder ≠ "") (whole : ':' ∉ folder.toList)
    (text : env.HasTextPath) :
    ∃ env', env.withFolder folder = .ok env' ∧ FolderFirst folder env env' := by
  refine ⟨_, withFolder_eq text folder, ?_⟩
  split
  · next among => exact ⟨(if_pos among).symm, rfl, text⟩
  · next apart =>
    refine ⟨?_, filter_insertEntry _, ?_⟩
    · rw [if_neg apart, folders_set _ ⟨_, _, rfl, given⟩]
      exact List.forall_mem_cons.mpr ⟨whole, fun _ => not_mem_folders⟩
    · intro v found
      rw [set, member?_insertEntry, if_pos rfl] at found
      exact ⟨_, (Option.some.inj found).symm⟩

/-- The folder is among the folders afterwards, so nothing is left to do. -/
theorem FolderFirst.again {folder : String} (first : FolderFirst folder env env') :
    env'.withFolder folder = .ok env' := by
  have among : folder ∈ env'.folders := by
    rw [first.folders]
    split
    · next there => exact there
    · exact List.mem_cons_self ..
  rw [withFolder_eq first.text, if_pos among]

/-- No folder without a name comes into the search path. -/
theorem FolderFirst.named {folder : String} (first : FolderFirst folder env env')
    (given : folder ≠ "") (nameless : "" ∈ env'.folders) : "" ∈ env.folders := by
  rw [first.folders] at nameless
  split at nameless
  · exact nameless
  · exact (List.mem_cons.mp nameless).resolve_left (Ne.symm given)

end Environment

end BuildBench
