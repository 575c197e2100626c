import BuildBench.Files.Change

/-!
# Trees seen from outside

What can be learned about a tree is what stands at each location: a file with its content, a link
with its target, or a folder. `node?` gives this view. Putting an entry at a location and taking one
away change it at that location and below, and nowhere else, whatever the order of the entries in
the lists that hold them.
-/

namespace BuildBench

/-- What stands at a location, without what is below it. -/
inductive Node where
  | file (content : ByteArray) (executable : Bool)
  | link (target : String)
  | folder

/-- What decides how a path name goes on at a location. -/
inductive Kind where
  | file
  | link (target : String)
  | folder
  deriving DecidableEq

def Node.kind : Node → Kind
  | .file _ _ => .file
  | .link target => .link target
  | .folder => .folder

namespace Entry

def node : Entry → Node
  | .file content executable => .file content executable
  | .link target => .link target
  | .folder _ => .folder

/-- The entry at a location below an entry. -/
def at? : Entry → Location → Option Entry
  | .folder f, rest => Folder.at? rest f
  | e, [] => some e
  | _, _ :: _ => none

def node? (e : Entry) (rest : Location) : Option Node := (e.at? rest).map node

end Entry

namespace Folder

/-- What stands at a location. -/
def node? (root : Folder) (location : Location) : Option Node := (root.at? location).map Entry.node

def kind? (root : Folder) (location : Location) : Option Kind := (root.node? location).map Node.kind

/-! ## Looking down -/

/-- Nothing is to be gone down. -/
@[simp]
theorem at?_nil (f : Folder) : f.at? [] = some (.folder f) := by simp [at?]

/-- One step down, if there is an entry of that name. -/
theorem at?_cons (f : Folder) (name : String) (rest : Location) :
    f.at? (name :: rest) = (f.lookup name).bind (·.at? rest) := by
  rw [at?]
  cases f.lookup name with
  | none => rfl
  | some e => cases e <;> cases rest <;> rfl

/-- The root is a folder. -/
@[simp]
theorem node?_nil (f : Folder) : f.node? [] = some .folder := by simp [node?, Entry.node]

/-- One step down, if there is an entry of that name. -/
theorem node?_cons (f : Folder) (name : String) (rest : Location) :
    f.node? (name :: rest) = (f.lookup name).bind (·.node? rest) := by
  rw [node?, at?_cons]
  cases f.lookup name <;> rfl

end Folder

namespace Entry

/-- By the kind of the entry. -/
@[simp]
theorem at?_nil (e : Entry) : e.at? [] = some e := by
  cases e <;> simp [at?]

/-- By definition. -/
@[simp]
theorem node?_folder (f : Folder) (rest : Location) :
    (Entry.folder f).node? rest = f.node? rest := rfl

/-- What stands below a location is what stands below the entry there. -/
theorem at?_append (e : Entry) (above below : Location) :
    e.at? (above ++ below) = (e.at? above).bind (·.at? below) := by
  induction above generalizing e with
  | nil => simp
  | cons name rest ih =>
    cases e with
    | folder f =>
      simp only [List.cons_append, at?, Folder.at?_cons]
      cases f.lookup name with
      | none => rfl
      | some inner => exact ih inner
    | _ => rfl

/-- First to the one place and from there to the other. -/
theorem node?_append (e : Entry) (above below : Location) :
    e.node? (above ++ below) = (e.at? above).bind (·.node? below) := by
  rw [node?, at?_append]
  cases e.at? above <;> rfl

end Entry

namespace Folder

/-- First to the one place and from there to the other. -/
theorem at?_append (f : Folder) (above below : Location) :
    f.at? (above ++ below) = (f.at? above).bind (·.at? below) :=
  Entry.at?_append (.folder f) above below

/-- First to the one place and from there to the other. -/
theorem node?_append (f : Folder) (above below : Location) :
    f.node? (above ++ below) = (f.at? above).bind (·.node? below) :=
  Entry.node?_append (.folder f) above below

/-- Only folders have something below them. -/
theorem node?_above {f : Folder} {above below : Location} (deeper : below ≠ [])
    (found : f.node? (above ++ below) ≠ none) : f.node? above = some .folder := by
  rw [node?_append] at found
  rw [node?]
  cases held : f.at? above with
  | none => simp [held] at found
  | some e =>
    cases e with
    | folder inner => rfl
    | file content executable =>
      obtain ⟨name, rest, rfl⟩ := List.exists_cons_of_ne_nil deeper
      simp [held, Entry.node?, Entry.at?] at found
    | link target =>
      obtain ⟨name, rest, rfl⟩ := List.exists_cons_of_ne_nil deeper
      simp [held, Entry.node?, Entry.at?] at found

/-- Something stands in it, so it is a folder. -/
theorem node?_dropLast {f : Folder} {location : Location} {n : Node} (nonempty : location ≠ [])
    (found : f.node? location = some n) : f.node? location.dropLast = some .folder := by
  refine node?_above (List.cons_ne_nil (location.getLast nonempty) []) ?_
  rw [List.dropLast_concat_getLast, found]
  simp

/-! ## Entries of one folder -/

/-- By whether the first name is the one that is looked up. -/
theorem lookup_cons (other held : String) (inner : Entry) (rest : Folder) :
    List.lookup other ((held, inner) :: rest) =
      if other = held then some inner else rest.lookup other := by
  by_cases same : other = held
  · simp [same]
  · have apart : (other == held) = false := by simpa using same
    simp [List.lookup_cons, same, apart]

/-- By induction on the entries: the new one is found under its name and hides no other. -/
theorem lookup_insert (name other : String) (e : Entry) (f : Folder) :
    (insert name e f).lookup other = if other = name then some e else f.lookup other := by
  induction f with
  | nil => exact lookup_cons other name e []
  | cons first rest ih =>
    obtain ⟨held, inner⟩ := first
    unfold insert
    by_cases here : name = held
    · subst here
      rw [if_pos rfl, lookup_cons, lookup_cons]
      split <;> rfl
    · rw [if_neg here]
      split
      · rw [lookup_cons]
      · rw [lookup_cons, ih, lookup_cons]
        by_cases found : other = held
        · subst found
          simp [Ne.symm here]
        · simp [found]

/-- By induction on the entries: no other name is left out. -/
theorem lookup_erase (name other : String) (f : Folder) :
    (erase name f).lookup other = if other = name then none else f.lookup other := by
  induction f with
  | nil => simp [erase]
  | cons first rest ih =>
    obtain ⟨held, inner⟩ := first
    rw [erase] at ih
    by_cases here : held = name
    · subst here
      rw [erase, List.filter_cons_of_neg (by simp), ih, lookup_cons]
      split <;> rfl
    · rw [erase, List.filter_cons_of_pos (by simpa using here), lookup_cons, ih, lookup_cons]
      by_cases found : other = held
      · subst found
        simp [here]
      · simp [found]

/-- The first step goes into the new entry or past it. -/
theorem node?_insert (name : String) (e : Entry) (f : Folder) (other : String) (rest : Location) :
    (insert name e f).node? (other :: rest) =
      if other = name then e.node? rest else f.node? (other :: rest) := by
  rw [node?_cons, lookup_insert, node?_cons]
  split <;> rfl

/-! ## Putting and taking away -/

/-- The first step goes into that folder. -/
theorem node?_cons_of_folder {f inner : Folder} {name : String}
    (held : f.lookup name = some (.folder inner)) (rest : Location) :
    f.node? (name :: rest) = inner.node? rest := by
  rw [node?_cons, held]
  rfl

/-- There is something behind the first step, so that is a folder. -/
theorem lookup_of_node?_cons {f : Folder} {name : String} {rest : Location}
    (found : f.node? (name :: rest) = some .folder) :
    ∃ inner : Folder, f.lookup name = some (.folder inner) ∧
      inner.node? rest = some .folder := by
  rw [node?_cons] at found
  cases held : f.lookup name with
  | none => simp [held] at found
  | some e =>
    rw [held] at found
    cases e with
    | folder inner => exact ⟨inner, rfl, found⟩
    | _ => cases rest <;> simp [Entry.node?, Entry.at?, Entry.node] at found

/-- An entry that is put into a folder stands at its location, with what is below it, and everything
else stays. -/
theorem node?_put (e : Entry) {at' : Location} (nonempty : at' ≠ []) {root : Folder}
    (parent : root.node? at'.dropLast = some .folder) (location : Location) :
    (root.put e at').node? location =
      if at' <+: location then e.node? (location.drop at'.length) else root.node? location := by
  induction at' generalizing root location with
  | nil => exact absurd rfl nonempty
  | cons name rest ih =>
    cases rest with
    | nil =>
      cases location with
      | nil => simp
      | cons other below =>
        rw [put, node?_insert]
        simp [List.cons_prefix_cons, eq_comm]
    | cons next more =>
      rw [List.dropLast_cons_of_ne_nil (by simp)] at parent
      obtain ⟨inner, held, above⟩ := lookup_of_node?_cons parent
      rw [put, held]
      cases location with
      | nil => simp
      | cons other below =>
        rw [node?_insert]
        by_cases same : other = name
        · subst same
          rw [if_pos rfl, node?_cons_of_folder held]
          simpa only [List.cons_prefix_cons, true_and, Entry.node?_folder, List.length_cons,
            List.drop_succ_cons] using ih (by simp) above below
        · simp [List.cons_prefix_cons, same, Ne.symm same]

/-- A file or a link that is put where no folder stands changes only its own location. -/
theorem node?_put_leaf {e : Entry} (leaf : e.isFolder = false) {at' : Location}
    (nonempty : at' ≠ []) {root : Folder} (parent : root.node? at'.dropLast = some .folder)
    (closed : root.node? at' ≠ some .folder) (location : Location) :
    (root.put e at').node? location =
      if location = at' then some e.node else root.node? location := by
  rw [node?_put e nonempty parent]
  split
  · next below =>
    obtain ⟨rest, rfl⟩ := below
    rw [List.drop_left]
    cases rest with
    | nil => simp [Entry.node?]
    | cons name more =>
      have missing : root.node? (at' ++ name :: more) = none :=
        Classical.byContradiction fun found =>
          closed (node?_above (List.cons_ne_nil name more) found)
      cases e with
      | folder f => cases leaf
      | _ => simpa [Entry.node?, Entry.at?] using missing.symm
  · next apart =>
    rw [if_neg]
    rintro rfl
    exact apart (List.prefix_refl _)

/-- What is taken away is gone with all that is below it, and everything else stays. -/
theorem node?_remove {at' : Location} (nonempty : at' ≠ []) (root : Folder)
    (location : Location) :
    (root.remove at').node? location =
      if at' <+: location then none else root.node? location := by
  induction at' generalizing root location with
  | nil => exact absurd rfl nonempty
  | cons name rest ih =>
    cases rest with
    | nil =>
      cases location with
      | nil => simp
      | cons other below =>
        rw [remove, node?_cons, lookup_erase, node?_cons]
        by_cases same : other = name
        · simp [same]
        · simp [List.cons_prefix_cons, same, Ne.symm same]
    | cons next more =>
      rw [remove]
      split
      · next inner held =>
        cases location with
        | nil => simp
        | cons other below =>
          rw [node?_insert]
          by_cases same : other = name
          · subst same
            rw [if_pos rfl, node?_cons_of_folder held]
            simpa only [List.cons_prefix_cons, true_and, Entry.node?_folder] using
              ih (by simp) inner below
          · simp [List.cons_prefix_cons, same, Ne.symm same]
      · next closed =>
        split
        · next below =>
          -- Only a folder could hold something there.
          obtain ⟨rest, rfl⟩ := below
          refine Option.eq_none_iff_forall_ne_some.mpr fun n found => ?_
          have opened : root.node? [name] = some .folder :=
            node?_above (List.append_ne_nil_of_left_ne_nil (List.cons_ne_nil next more) rest)
              (by simpa using Option.ne_none_iff_exists'.mpr ⟨n, found⟩)
          obtain ⟨inner, held, -⟩ := lookup_of_node?_cons opened
          exact closed inner held
        · rfl

end Folder

end BuildBench
