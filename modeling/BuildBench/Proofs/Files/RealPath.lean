import Mathlib.Data.Nat.Find
import BuildBench.Proofs.Cache.EntryNames

/-!
# Where a name is in the end

A name is followed to its end also when something on its way is missing: links are replaced by their
targets, two dots go up, and every other component is one step down. `Locates` has a rule for each of
these, and counts how deep links are followed behind links. Whatever it derives is found by the search
for the real path, which keeps a list of the links that are being followed: in a derivation of least
depth no link is followed behind itself, so the search refuses none, and it cannot be deeper than there
are links.
-/

namespace BuildBench

/-- A component of a name: it is not empty, and no slash is in it. -/
structure IsComponent (name : String) : Prop where
  nonempty : name ≠ ""
  plain : '/' ∉ name.toList

/-- A component that is the name of an entry. -/
structure IsEntryName (name : String) : Prop extends IsComponent name where
  notDot : name ≠ "."
  notUp : name ≠ ".."

instance (name : String) : Decidable (IsComponent name) :=
  decidable_of_iff (name ≠ "" ∧ '/' ∉ name.toList)
    ⟨fun both => ⟨both.1, both.2⟩, fun both => ⟨both.nonempty, both.plain⟩⟩

instance (name : String) : Decidable (IsEntryName name) :=
  decidable_of_iff (IsComponent name ∧ name ≠ "." ∧ name ≠ "..")
    ⟨fun all => ⟨all.1, all.2.1, all.2.2⟩, fun all => ⟨all.toIsComponent, all.notDot, all.notUp⟩⟩

/-! ## Components of texts -/

/-- What lies between slashes has none in it, and what is empty or a dot is left out. -/
theorem isComponent_of_components {s part : String} (among : part ∈ PathName.components s) :
    IsComponent part ∧ part ≠ "." := by
  obtain ⟨among, kept⟩ := List.mem_filter.mp among
  obtain ⟨piece, cut, rfl⟩ := List.mem_map.mp among
  simp only [Bool.and_eq_true, bne_iff_ne] at kept
  exact ⟨⟨kept.1, by simpa using Text.not_mem_of_mem_pieces cut⟩, kept.2⟩

/-- A target has the components of a text, and at its end perhaps a dot. -/
theorem isComponent_of_target {target part : String} (among : part ∈ targetComponents target) :
    IsComponent part := by
  rcases List.mem_append.mp among with inner | dot
  · exact (isComponent_of_components inner).1
  · split at dot
    · obtain rfl := List.mem_singleton.mp dot
      exact ⟨by decide, by decide⟩
    · cases dot

/-! ## The links of a tree -/

mutual

/-- Where the links are in an entry. -/
def Entry.linkPlaces : Entry → List Location
  | .file _ _ => []
  | .link _ => [[]]
  | .folder entries => linkPlacesOf entries

def linkPlacesOf : Folder → List Location
  | [] => []
  | (name, e) :: rest => e.linkPlaces.map (name :: ·) ++ linkPlacesOf rest

end

mutual

/-- By recursion on the entry, together with its folder. -/
theorem Entry.length_linkPlaces (e : Entry) : e.linkPlaces.length = e.linkCount := by
  cases e with
  | file content executable => rfl
  | link target => rfl
  | folder entries => exact length_linkPlacesOf entries

/-- By recursion on the folder, together with its entries. -/
theorem length_linkPlacesOf (f : Folder) : (linkPlacesOf f).length = linkCountOf f := by
  match f with
  | [] => rfl
  | (name, e) :: rest =>
    simp only [linkPlacesOf, linkCountOf, List.length_append, List.length_map]
    rw [e.length_linkPlaces, length_linkPlacesOf rest]

end

namespace Folder

variable {root : Folder} {here goal middle other location : Location} {parts rest : List String}
  {name target : String} {n m : Nat}

/-- By induction on the entries: the one that is found lists its places below its name. -/
theorem mem_linkPlacesOf_of_lookup {f : Folder} {e : Entry} (found : f.lookup name = some e)
    (below : location ∈ e.linkPlaces) : name :: location ∈ linkPlacesOf f := by
  induction f with
  | nil => cases found
  | cons first rest ih =>
    obtain ⟨held, inner⟩ := first
    rw [linkPlacesOf, List.mem_append]
    by_cases same : name = held
    · subst same
      obtain rfl : inner = e := by simpa using found
      exact .inl (List.mem_map_of_mem below)
    · have later : List.lookup name rest = some e := by
        rw [List.lookup_cons, beq_eq_false_iff_ne.mpr same] at found
        exact found
      exact .inr (ih later)

/-- Every link is in the list. -/
theorem mem_linkPlacesOf (found : root.kind? location = some (.link target)) :
    location ∈ linkPlacesOf root := by
  have held := at?_of_kind?_link found
  clear found
  induction location generalizing root with
  | nil => simp at held
  | cons name rest ih =>
    rw [at?_cons] at held
    rcases looked : root.lookup name with _ | e <;> rw [looked] at held
    · cases held
    · refine mem_linkPlacesOf_of_lookup looked ?_
      cases e with
      | file content executable => cases rest <;> cases held
      | link text =>
        cases rest with
        | nil => exact List.mem_singleton_self _
        | cons next more => cases held
      | folder inner => exact ih held

/-- There are no more different links than are counted. -/
theorem length_le_linkCount {opened : List Location} (distinct : opened.Nodup)
    (links : ∀ l ∈ opened, ∃ target, root.kind? l = some (.link target)) :
    opened.length ≤ linkCountOf root := by
  rw [← length_linkPlacesOf]
  refine distinct.length_le_of_subset fun l among => ?_
  obtain ⟨target, found⟩ := links l among
  exact mem_linkPlacesOf found

/-! ## Following a name to its end -/

/-- Some components lead from a location to another one, through links that are followed behind at
most `n - 1` others. What is on the way may be missing. -/
inductive Locates (root : Folder) : Nat → Location → List String → Location → Prop
  | here {n : Nat} (location : Location) : Locates root n location [] location
  | dot {n : Nat} {here goal : Location} {name : String} {rest : List String} (isDot : name = ".")
    (next : Locates root n here rest goal) : Locates root n here (name :: rest) goal
  | up {n : Nat} {here goal : Location} {name : String} {rest : List String} (isUp : name = "..")
    (next : Locates root n here.dropLast rest goal) : Locates root n here (name :: rest) goal
  | down {n : Nat} {here goal : Location} {name : String} {rest : List String}
    (notDot : name ≠ ".") (notUp : name ≠ "..")
    (plain : ∀ target, root.kind? (here ++ [name]) ≠ some (.link target))
    (next : Locates root n (here ++ [name]) rest goal) : Locates root n here (name :: rest) goal
  | link {n : Nat} {here middle goal : Location} {name target : String} {rest : List String}
    (notDot : name ≠ ".") (notUp : name ≠ "..")
    (found : root.kind? (here ++ [name]) = some (.link target))
    (opened : Locates root n (targetBase here target) (targetComponents target) middle)
    (next : Locates root (n + 1) middle rest goal) : Locates root (n + 1) here (name :: rest) goal

/-- By induction on the derivation: a link that is followed deeply enough is so if it may be
followed deeper. -/
theorem Locates.mono (locates : Locates root n here parts goal) (deeper : n ≤ m) :
    Locates root m here parts goal := by
  induction locates generalizing m with
  | here location => exact .here location
  | dot isDot next ih => exact .dot isDot (ih deeper)
  | up isUp next ih => exact .up isUp (ih deeper)
  | down notDot notUp plain next ih => exact .down notDot notUp plain (ih deeper)
  | link notDot notUp found opened next ihOpened ih =>
    obtain ⟨m, rfl⟩ : ∃ k, m = k + 1 := ⟨m - 1, by omega⟩
    exact .link notDot notUp found (ihOpened (by omega)) (ih deeper)

/-- By induction on one derivation. At each component the kind of the entry decides which rule the
other one uses. -/
theorem Locates.unique (one : Locates root n here parts goal)
    (two : Locates root m here parts other) : goal = other := by
  induction one generalizing m other with
  | here location =>
    cases two
    rfl
  | dot isDot next ih =>
    subst isDot
    cases two with
    | dot _ next' => exact ih next'
    | up isUp => exact absurd isUp (by decide)
    | down notDot => exact absurd rfl notDot
    | link notDot => exact absurd rfl notDot
  | up isUp next ih =>
    subst isUp
    cases two with
    | dot isDot => exact absurd isDot (by decide)
    | up _ next' => exact ih next'
    | down _ notUp => exact absurd rfl notUp
    | link _ notUp => exact absurd rfl notUp
  | down notDot notUp plain next ih =>
    cases two with
    | dot isDot => exact absurd isDot notDot
    | up isUp => exact absurd isUp notUp
    | down _ _ _ next' => exact ih next'
    | link _ _ found => exact absurd found (plain _)
  | link notDot notUp found opened next ihOpened ih =>
    cases two with
    | dot isDot => exact absurd isDot notDot
    | up isUp => exact absurd isUp notUp
    | down _ _ plain => exact absurd found (plain _)
    | link _ _ found' opened' next' =>
      obtain rfl : _ = _ := Kind.link.inj (Option.some.inj (found.symm.trans found'))
      obtain rfl := ihOpened opened'
      exact ih next'

/-- A link that can be followed to an end, with links behind it at most `k` deep. -/
def Opens (root : Folder) (k : Nat) (link : Location) : Prop :=
  ∃ target goal, root.kind? link = some (.link target) ∧
    Locates root k (targetBase link.dropLast target) (targetComponents target) goal

/-- The links that are being followed when names of depth `n` are: each is a link of its own, and none
has an end at a lower depth. -/
structure Pending (root : Folder) (n : Nat) (opened : List Location) : Prop where
  distinct : opened.Nodup
  links : ∀ l ∈ opened, ∃ target, root.kind? l = some (.link target)
  deep : ∀ l ∈ opened, ∀ k < n, ¬ Opens root k l

/-- A link with an end is followed at the least depth at which it has one. -/
theorem Pending.open {k : Nat} {opened : List Location} (pending : Pending root n opened)
    (below : k < n) (opens : Opens root k location) :
    location ∉ opened ∧ ∃ least ≤ k, Opens root least location ∧
      Pending root least (location :: opened) := by
  classical
  have fresh : location ∉ opened := fun among => pending.deep location among k below opens
  have found : ∃ k, Opens root k location := ⟨k, opens⟩
  have least : Nat.find found ≤ k := Nat.find_min' found opens
  refine ⟨fresh, Nat.find found, least, Nat.find_spec found, List.nodup_cons.mpr
    ⟨fresh, pending.distinct⟩, ?_, ?_⟩
  · rw [List.forall_mem_cons]
    obtain ⟨target, -, link, -⟩ := opens
    exact ⟨⟨target, link⟩, pending.links⟩
  · rw [List.forall_mem_cons]
    exact ⟨fun j before => Nat.find_min found before,
      fun l among j before => pending.deep l among j (by omega)⟩

/-- The search finds the end of a name. -/
theorem settle_of_locates (depth : Nat) (opened : List Location)
    (locates : Locates root n here parts goal) (pending : Pending root n opened)
    (enough : linkCountOf root < depth + opened.length) :
    root.settle depth opened here parts = (goal, true) := by
  induction n using Nat.strongRecOn generalizing here parts goal depth opened with
  | ind n shallower =>
    have bounded := length_le_linkCount pending.distinct pending.links
    obtain ⟨depth, rfl⟩ : ∃ d, depth = d + 1 := ⟨depth - 1, by omega⟩
    rw [settle]
    induction parts generalizing here with
    | nil =>
      cases locates
      rfl
    | cons name rest ih =>
      rw [settleAlong]
      dsimp only
      cases locates with
      | dot isDot next =>
        rw [if_pos isDot]
        exact ih next
      | up isUp next =>
        rw [if_neg (by simp [isUp]), if_pos isUp]
        exact ih next
      | down notDot notUp plain next =>
        rw [if_neg notDot, if_neg notUp]
        split
        · next target held => exact absurd (kind?_of_at? held) (plain target)
        · exact ih next
      | @link k _ middle _ _ target _ notDot notUp found behind next =>
        rw [if_neg notDot, if_neg notUp]
        have opens : Opens root k (here ++ [name]) := ⟨target, middle, found, by simpa using behind⟩
        obtain ⟨fresh, least, atMost, ⟨target', middle', found', ends⟩, waiting⟩ :=
          pending.open (Nat.lt_succ_self k) opens
        obtain rfl : target = target' := Kind.link.inj (Option.some.inj (found.symm.trans found'))
        rw [List.dropLast_concat] at ends
        obtain rfl := behind.unique ends
        have settled := shallower least (by omega) depth ((here ++ [name]) :: opened) ends waiting
          (by rw [List.length_cons]; omega)
        simp only [at?_of_kind?_link found, List.contains_iff_mem, fresh, settled, if_false]
        exact ih next

/-- The components of a name can be followed up to any of them first. -/
theorem Locates.split (locates : Locates root n here (parts ++ rest) goal) :
    ∃ middle, Locates root n here parts middle ∧ Locates root n middle rest goal := by
  induction parts generalizing here with
  | nil => exact ⟨here, .here here, locates⟩
  | cons name more ih =>
    cases locates with
    | dot isDot next =>
      obtain ⟨middle, first, second⟩ := ih next
      exact ⟨middle, .dot isDot first, second⟩
    | up isUp next =>
      obtain ⟨middle, first, second⟩ := ih next
      exact ⟨middle, .up isUp first, second⟩
    | down notDot notUp plain next =>
      obtain ⟨middle, first, second⟩ := ih next
      exact ⟨middle, .down notDot notUp plain first, second⟩
    | link notDot notUp found opened next =>
      obtain ⟨middle, first, second⟩ := ih next
      exact ⟨middle, .link notDot notUp found opened first, second⟩

/-- Where a walk arrives is the end of the name. -/
theorem Leads.locates {links : Nat} (leads : Leads root true links here parts goal) :
    ∃ n, Locates root n here parts goal := by
  induction leads with
  | here found => exact ⟨0, .here _⟩
  | dot opened next ih =>
    obtain ⟨n, locates⟩ := ih
    exact ⟨n, .dot rfl locates⟩
  | up opened next ih =>
    obtain ⟨n, locates⟩ := ih
    exact ⟨n, .up rfl locates⟩
  | into proper opened next ih =>
    obtain ⟨n, locates⟩ := ih
    exact ⟨n, .down proper.notDot proper.notUp (by simp [opened]) locates⟩
  | stop proper opened stops =>
    exact ⟨0, .down proper.notDot proper.notUp (fun target link => by cases stops.2 target link)
      (.here _)⟩
  | follow proper found further aimed next ih =>
    obtain ⟨n, locates⟩ := ih
    obtain ⟨middle, behind, after⟩ := locates.split
    exact ⟨n + 1, .link proper.notDot proper.notUp found behind (after.mono (Nat.le_succ n))⟩

/-! ## Trees without loops -/

/-- Every link leads to an end. -/
def LoopFree (root : Folder) : Prop :=
  ∀ location target, root.kind? location = some (.link target) → ∃ n, Opens root n location

/-- Where no link leads back to itself, every name has an end. -/
theorem LoopFree.locates (loopFree : LoopFree root) (here : Location) (parts : List String) :
    ∃ n goal, Locates root n here parts goal := by
  induction parts generalizing here with
  | nil => exact ⟨0, here, .here here⟩
  | cons name rest ih =>
    by_cases isDot : name = "."
    · obtain ⟨n, goal, locates⟩ := ih here
      exact ⟨n, goal, .dot isDot locates⟩
    by_cases isUp : name = ".."
    · obtain ⟨n, goal, locates⟩ := ih here.dropLast
      exact ⟨n, goal, .up isUp locates⟩
    by_cases link : ∃ target, root.kind? (here ++ [name]) = some (.link target)
    · obtain ⟨target, found⟩ := link
      obtain ⟨k, target', middle, found', behind⟩ := loopFree _ target found
      obtain rfl : target = target' := Kind.link.inj (Option.some.inj (found.symm.trans found'))
      rw [List.dropLast_concat] at behind
      obtain ⟨n, goal, locates⟩ := ih middle
      exact ⟨max k n + 1, goal, .link isDot isUp found (behind.mono (Nat.le_max_left ..))
        (locates.mono (by omega))⟩
    · obtain ⟨n, goal, locates⟩ := ih (here ++ [name])
      exact ⟨n, goal, .down isDot isUp (fun target found => link ⟨target, found⟩) locates⟩

/-! ## Locations at the end of a name -/

/-- A location that no link stands on the way to, with a proper name at each step. -/
structure Straight (root : Folder) (location : Location) : Prop where
  names : ∀ name ∈ location, IsEntryName name
  plain : ∀ above, above <+: location → ∀ target, root.kind? above ≠ some (.link target)

/-- No link stands above the root. -/
theorem straight_nil (root : Folder) : Straight root [] where
  names := nofun
  plain above top target link := by
    obtain rfl := List.prefix_nil.mp top
    cases link

/-- What is above the folder is above what is in it. -/
theorem Straight.dropLast (straight : Straight root here) : Straight root here.dropLast where
  names name among := straight.names name (List.dropLast_subset here among)
  plain above top := straight.plain above (top.trans (List.dropLast_prefix here))

/-- Above the entry are the folder and what is above that. -/
theorem Straight.down (straight : Straight root here) (isName : IsEntryName name)
    (plain : ∀ target, root.kind? (here ++ [name]) ≠ some (.link target)) :
    Straight root (here ++ [name]) where
  names := by simpa [or_imp, forall_and] using ⟨straight.names, isName⟩
  plain above top := by
    rcases List.prefix_concat_iff.mp top with rfl | upper
    · exact plain
    · exact straight.plain above upper

/-- A target starts at the root or in the folder of its link. -/
theorem targetBase_straight (straight : Straight root here) (target : String) :
    Straight root (targetBase here target) := by
  unfold targetBase
  split
  · exact straight_nil root
  · exact straight

/-- The end of a name is a straight location, if the name starts at one. -/
theorem Locates.straight (locates : Locates root n here parts goal) (start : Straight root here)
    (components : ∀ part ∈ parts, IsComponent part) : Straight root goal := by
  induction locates with
  | here location => exact start
  | dot isDot next ih => exact ih start (List.forall_mem_cons.mp components).2
  | up isUp next ih => exact ih start.dropLast (List.forall_mem_cons.mp components).2
  | down notDot notUp plain next ih =>
    obtain ⟨first, others⟩ := List.forall_mem_cons.mp components
    exact ih (start.down ⟨first, notDot, notUp⟩ plain) others
  | @link n here middle goal name target rest notDot notUp found opened next ihOpened ih =>
    exact ih (ihOpened (targetBase_straight start target) fun _ => isComponent_of_target)
      (List.forall_mem_cons.mp components).2

/-- From a straight location its continuations are reached one step after the other. -/
theorem Straight.locates (straight : Straight root (here ++ rest)) :
    Locates root 0 here rest (here ++ rest) := by
  induction rest generalizing here with
  | nil => simpa using Locates.here here
  | cons name more ih =>
    have isName := straight.names name (by simp)
    have whole : here ++ name :: more = here ++ [name] ++ more := by simp
    rw [whole] at straight ⊢
    exact .down isName.notDot isName.notUp (straight.plain _ (List.prefix_append ..)) (ih straight)

/-- By induction on the rest of the location: a proper name is no step up, and no dot. -/
theorem Straight.plainLocation_eq (straight : Straight root location) :
    plainLocation location = location := by
  have each : ∀ (rest done : Location), (∀ name ∈ rest, IsEntryName name) →
      rest.foldl (fun done name =>
        if name = "." then done else if name = ".." then done.dropLast else done ++ [name]) done =
        done ++ rest := by
    intro rest
    induction rest with
    | nil => simp
    | cons name more ih =>
      intro done names
      obtain ⟨isName, others⟩ := List.forall_mem_cons.mp names
      rw [List.foldl_cons, if_neg isName.notDot, if_neg isName.notUp, ih _ others]
      simp
  exact each location [] straight.names

/-- On a straight way no link is met, so there are not too many of them. -/
theorem Straight.walk_ne_tooManyLinks {links : Nat} {last : Bool}
    (straight : Straight root (here ++ rest)) :
    root.walk last (links + 1) here rest ≠ .error .tooManyLinks := by
  rw [walk]
  induction rest generalizing here with
  | nil =>
    rw [stepAlong]
    split <;> simp
  | cons name more ih =>
    have isName := straight.names name (by simp)
    have whole : here ++ name :: more = here ++ [name] ++ more := by simp
    rw [whole] at straight
    have noLink := straight.plain (here ++ [name]) (List.prefix_append ..)
    rw [stepAlong]
    split
    · simp
    · next f held =>
      rw [if_neg isName.notDot, if_neg isName.notUp]
      split
      · simp
      rw [← at?_child held name]
      split
      · split <;> simp
      · exact ih straight
      · next target found => exact absurd (kind?_of_at? found) (noLink target)
      · split <;> simp
    · simp

end Folder

/-! ## Path names -/

namespace PathName

/-- A path name as it is read from a text: its components are not empty, no slash is in them, and none
is a dot. -/
structure Proper (p : PathName) : Prop where
  component : ∀ part ∈ p.parts, IsComponent part
  notDot : ∀ part ∈ p.parts, part ≠ "."

/-- Components are read as they are between the slashes. -/
theorem parse_proper (s : String) : (parse s).Proper where
  component _ among := (isComponent_of_components among).1
  notDot _ among := (isComponent_of_components among).2

/-- The components are those of one path or of both. -/
theorem Proper.join {base p : PathName} (one : base.Proper) (two : p.Proper) :
    (base.join p).Proper := by
  unfold PathName.join
  split
  · exact two
  · exact ⟨fun part among => (List.mem_append.mp among).elim (one.component part)
      (two.component part), fun part among => (List.mem_append.mp among).elim (one.notDot part)
      (two.notDot part)⟩

end PathName

namespace Files

variable {files : Files} {path : PathName} {goal other : Location}

/-- Where a path name leads in the end, whether or not something is there. -/
def Locates (files : Files) (path : PathName) (goal : Location) : Prop :=
  ∃ n, files.root.Locates n (files.start path) path.parts goal

/-- Both derivations start at the same place. -/
theorem Locates.unique (one : files.Locates path goal) (two : files.Locates path other) :
    goal = other := by
  obtain ⟨_, one⟩ := one
  obtain ⟨_, two⟩ := two
  exact one.unique two

/-- A path name that leads somewhere leads there in the end. -/
theorem Leads.locates (leads : files.Leads true path goal) : files.Locates path goal :=
  leads.walks.locates

/-- Every link has an end, so the name has one. -/
theorem exists_locates (loopFree : files.root.LoopFree) (path : PathName) :
    ∃ goal, files.Locates path goal := by
  obtain ⟨n, goal, locates⟩ := loopFree.locates (files.start path) path.parts
  exact ⟨goal, n, locates⟩

/-- A derivation starts in a straight place and goes on by proper names, and behind links likewise.
-/
theorem Locates.straight (locates : files.Locates path goal)
    (seated : files.root.Straight files.current) (proper : path.Proper) :
    files.root.Straight goal := by
  obtain ⟨n, locates⟩ := locates
  refine locates.straight ?_ proper.component
  unfold start
  split
  · exact Folder.straight_nil _
  · exact seated

/-- The real path name of a path name is where it leads in the end. -/
theorem realPath_eq (locates : files.Locates path goal)
    (seated : files.root.Straight files.current) (proper : path.Proper) :
    files.realPath path = .ok ⟨.root, goal⟩ := by
  have straight := locates.straight seated proper
  obtain ⟨n, locates⟩ := locates
  have none : files.root.Pending n [] := ⟨List.nodup_nil, nofun, nofun⟩
  have found := Folder.settle_of_locates (linkCountOf files.root + 1) [] locates none (by simp)
  have walked : files.place true ⟨.root, goal⟩ ≠ .error .tooManyLinks := by
    rw [place]
    split
    · simp
    · exact Folder.Straight.walk_ne_tooManyLinks straight
  rw [start] at found
  simp only [realPath, found, straight.plainLocation_eq]

end Files

end BuildBench
