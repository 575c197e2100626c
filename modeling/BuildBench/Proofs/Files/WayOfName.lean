import BuildBench.Proofs.Files.MakingFolders

/-!
# The way of a path name

The way of a path name is what is looked at when the name is followed, behind links as well. Two
trees in which the same kinds of entries stand on the way of a name lead it to the same place.
-/

namespace BuildBench

namespace Folder

variable {root other : Folder} {last : Bool} {links : Nat} {here goal : Location}
  {parts : List String}

/-- The locations that components lead past from the folder `here`. -/
def wayAlong (root : Folder) (follow : Location → List String → List Location) :
    Location → List String → List Location
  | here, [] => [here]
  | here, name :: rest =>
    here ::
      if name = "." then wayAlong root follow here rest
      else if name = ".." then wayAlong root follow here.dropLast rest
      else
        (here ++ [name]) ::
          match root.kind? (here ++ [name]) with
          | some .folder => wayAlong root follow (here ++ [name]) rest
          | some (.link target) =>
            follow (targetBase here target) (targetComponents target ++ rest)
          | _ => []

/-- The locations that components lead past through at most `links - 1` links. -/
def way (root : Folder) : Nat → Location → List String → List Location
  | 0, _, _ => []
  | links + 1, here, parts => root.wayAlong (way root links) here parts

/-- A way begins where the walk does. -/
theorem start_mem_way (root : Folder) (links : Nat) (here : Location) (parts : List String) :
    here ∈ root.way (links + 1) here parts := by
  cases parts <;> simp [way, wayAlong]

/-- A dot stays in the folder. -/
theorem way_dot (rest : List String) :
    root.way (links + 1) here ("." :: rest) = here :: root.way (links + 1) here rest := by
  simp [way, wayAlong]

/-- Two dots go on from the folder above. -/
theorem way_up (rest : List String) :
    root.way (links + 1) here (".." :: rest) =
      here :: root.way (links + 1) here.dropLast rest := by
  simp [way, wayAlong]

/-- A name goes on from its entry if that is a folder, and from the target if that is a link. -/
theorem way_name {name : String} (notDot : name ≠ ".") (notUp : name ≠ "..")
    (rest : List String) :
    root.way (links + 1) here (name :: rest) =
      here :: (here ++ [name]) ::
        match root.kind? (here ++ [name]) with
        | some .folder => root.way (links + 1) (here ++ [name]) rest
        | some (.link target) =>
          root.way links (targetBase here target) (targetComponents target ++ rest)
        | _ => [] := by
  simp only [way, wayAlong, notDot, notUp, if_false]

/-- The walk ends on its way. -/
theorem Leads.goal_mem_way (leads : Leads root last links here parts goal) :
    goal ∈ root.way links here parts := by
  induction leads with
  | here found => exact start_mem_way _ _ _ _
  | dot opened next ih =>
    rw [way_dot]
    exact List.mem_cons_of_mem _ ih
  | up opened next ih =>
    rw [way_up]
    exact List.mem_cons_of_mem _ ih
  | into proper opened next ih =>
    rw [way_name proper.notDot proper.notUp, opened]
    exact List.mem_cons_of_mem _ (List.mem_cons_of_mem _ ih)
  | stop proper opened stops =>
    rw [way_name proper.notDot proper.notUp]
    exact List.mem_cons_of_mem _ (List.mem_cons_self ..)
  | follow proper found further aimed next ih =>
    rw [way_name proper.notDot proper.notUp, found]
    exact List.mem_cons_of_mem _ (List.mem_cons_of_mem _ ih)

/-- What may be followed in one tree, a folder or a link, may be followed in another. -/
def Carries (root other : Folder) : Prop :=
  ∀ location kind, kind ≠ .file → root.kind? location = some kind →
    other.kind? location = some kind

/-- What stood there stands there still. -/
theorem Grows.carries (grows : root.Grows other) : root.Carries other :=
  fun location kind _ => grows location kind

/-- A walk to a folder passes folders and links only. -/
theorem Leads.of_carries (leads : Leads root last links here parts goal)
    (carries : root.Carries other) (opened : root.kind? goal = some .folder) :
    Leads other last links here parts goal := by
  induction leads with
  | here found => exact .here (by rw [carries _ .folder nofun opened]; nofun)
  | dot above next ih => exact .dot (carries _ _ nofun above) (ih opened)
  | up above next ih => exact .up (carries _ _ nofun above) (ih opened)
  | into proper above next ih => exact .into proper (carries _ _ nofun above) (ih opened)
  | stop proper above stops => exact absurd opened stops.1
  | follow proper found further aimed next ih =>
    exact .follow proper (carries _ _ nofun found) further aimed (ih opened)

/-- A walk sees more where more may be followed. -/
theorem way_mono (carries : root.Carries other) :
    root.way links here parts ⊆ other.way links here parts := by
  induction links generalizing here parts with
  | zero => exact List.Subset.refl _
  | succ links follows =>
    induction parts generalizing here with
    | nil => simp [way, wayAlong]
    | cons name rest ih =>
      by_cases isDot : name = "."
      · subst isDot
        rw [way_dot, way_dot]
        exact List.cons_subset_cons _ ih
      by_cases isUp : name = ".."
      · subst isUp
        rw [way_up, way_up]
        exact List.cons_subset_cons _ ih
      rw [way_name isDot isUp, way_name isDot isUp]
      refine List.cons_subset_cons _ (List.cons_subset_cons _ ?_)
      rcases found : root.kind? (here ++ [name]) with _ | kind
      · exact List.nil_subset _
      cases kind with
      | file => exact List.nil_subset _
      | link target =>
        rw [carries _ _ (by simp) found]
        exact follows
      | folder =>
        rw [carries _ _ (by simp) found]
        exact ih

/-- The way of a path name begins with that of the path names above it. -/
theorem way_append (more : List String) :
    root.way links here parts ⊆ root.way links here (parts ++ more) := by
  induction links generalizing here parts with
  | zero => exact List.Subset.refl _
  | succ links follows =>
    induction parts generalizing here with
    | nil =>
      have start := start_mem_way root links here more
      simpa [way, wayAlong] using start
    | cons name rest ih =>
      rw [List.cons_append]
      by_cases isDot : name = "."
      · subst isDot
        rw [way_dot, way_dot]
        exact List.cons_subset_cons _ ih
      by_cases isUp : name = ".."
      · subst isUp
        rw [way_up, way_up]
        exact List.cons_subset_cons _ ih
      rw [way_name isDot isUp, way_name isDot isUp]
      refine List.cons_subset_cons _ (List.cons_subset_cons _ ?_)
      rcases root.kind? (here ++ [name]) with _ | kind
      · exact List.nil_subset _
      · cases kind with
        | file => exact List.nil_subset _
        | link target =>
          dsimp only
          rw [← List.append_assoc]
          exact follows
        | folder => exact ih

/-- What is looked at on the way to a folder is all there. -/
theorem Leads.way_held (leads : Leads root last links here parts goal)
    (folder : root.kind? goal = some .folder) :
    ∀ location ∈ root.way links here parts, root.kind? location ≠ none := by
  induction leads with
  | here found => simpa [way, wayAlong] using found
  | dot opened next ih =>
    rw [way_dot]
    exact List.forall_mem_cons.mpr ⟨by simp [opened], ih folder⟩
  | up opened next ih =>
    rw [way_up]
    exact List.forall_mem_cons.mpr ⟨by simp [opened], ih folder⟩
  | into proper opened next ih =>
    rw [way_name proper.notDot proper.notUp, opened]
    exact List.forall_mem_cons.mpr ⟨by simp [kind?_of_child opened],
      List.forall_mem_cons.mpr ⟨by simp [opened], ih folder⟩⟩
  | stop proper opened stops => exact absurd folder stops.1
  | follow proper found further aimed next ih =>
    rw [way_name proper.notDot proper.notUp, found]
    exact List.forall_mem_cons.mpr ⟨by simp [kind?_of_child found],
      List.forall_mem_cons.mpr ⟨by simp [found], ih folder⟩⟩

/-- Trees that agree on a way agree about the way. -/
theorem way_congr
    (same : ∀ location ∈ root.way links here parts, other.kind? location = root.kind? location) :
    other.way links here parts = root.way links here parts := by
  induction links generalizing here parts with
  | zero => rfl
  | succ links follows =>
    induction parts generalizing here with
    | nil => simp [way, wayAlong]
    | cons name rest ih =>
      by_cases isDot : name = "."
      · subst isDot
        rw [way_dot] at same ⊢
        rw [way_dot, ih fun location passed => same location (List.mem_cons_of_mem _ passed)]
      by_cases isUp : name = ".."
      · subst isUp
        rw [way_up] at same ⊢
        rw [way_up, ih fun location passed => same location (List.mem_cons_of_mem _ passed)]
      rw [way_name isDot isUp] at same ⊢
      rw [way_name isDot isUp, same (here ++ [name]) (by simp)]
      have beyond := fun location passed =>
        same location (List.mem_cons_of_mem _ (List.mem_cons_of_mem _ passed))
      rcases found : root.kind? (here ++ [name]) with _ | _ | target | _ <;>
        simp only [found] at beyond
      · rfl
      · rfl
      · exact congrArg (here :: (here ++ [name]) :: ·) (follows beyond)
      · exact congrArg (here :: (here ++ [name]) :: ·) (ih beyond)

/-- A walk that ends in dots ends at or above something that is looked at before. -/
theorem Leads.ends_in_dots {name : String}
    (leads : Leads root false links here (parts ++ [name]) goal)
    (dots : name = "." ∨ name = "..") : ∃ passed ∈ root.way links here parts, goal <+: passed := by
  have notProper : ¬ IsProperName name := fun proper =>
    dots.elim proper.notDot proper.notUp
  obtain ⟨links', above, before, -, after⟩ := leads.split (List.cons_ne_nil name [])
  refine ⟨above, before.goal_mem_way, ?_⟩
  cases after with
  | dot opened next =>
    cases next
    exact List.prefix_refl _
  | up opened next =>
    cases next
    exact List.dropLast_prefix _
  | into proper => exact absurd proper notProper
  | stop proper => exact absurd proper notProper
  | follow proper => exact absurd proper notProper

/-- Trees that agree on a way lead to the same place. -/
theorem Leads.of_way (leads : Leads root last links here parts goal)
    (same : ∀ location ∈ root.way links here parts, other.kind? location = root.kind? location) :
    Leads other last links here parts goal := by
  induction leads with
  | @here links location found =>
    exact .here (by rwa [same location (start_mem_way _ _ _ _)])
  | @dot links here goal rest opened next ih =>
    rw [way_dot] at same
    refine .dot ?_ (ih fun location passed => same location (List.mem_cons_of_mem _ passed))
    rw [same here (List.mem_cons_self ..), opened]
  | @up links here goal rest opened next ih =>
    rw [way_up] at same
    refine .up ?_ (ih fun location passed => same location (List.mem_cons_of_mem _ passed))
    rw [same here (List.mem_cons_self ..), opened]
  | @into links here goal name rest proper opened next ih =>
    rw [way_name proper.notDot proper.notUp, opened] at same
    refine .into proper ?_ (ih fun location passed =>
      same location (List.mem_cons_of_mem _ (List.mem_cons_of_mem _ passed)))
    rw [same (here ++ [name]) (by simp), opened]
  | @stop links here name proper opened stops =>
    rw [way_name proper.notDot proper.notUp] at same
    have named := same (here ++ [name]) (by simp)
    refine .stop proper ?_ ⟨by rw [named]; exact stops.1, fun target found => ?_⟩
    · rw [same here (List.mem_cons_self ..), opened]
    · exact stops.2 target (named ▸ found)
  | @follow links here goal name target rest proper found further aimed next ih =>
    rw [way_name proper.notDot proper.notUp, found] at same
    refine .follow proper ?_ further aimed (ih fun location passed =>
      same location (List.mem_cons_of_mem _ (List.mem_cons_of_mem _ passed)))
    rw [same (here ++ [name]) (by simp), found]

end Folder

namespace Files

variable {files changed : Files} {last : Bool} {path : PathName} {goal : Location}

/-- What is looked at when a path name is followed. -/
def way (files : Files) (path : PathName) : List Location :=
  files.root.way 41 (files.start path) path.parts

/-- The place where a walk ends is the last that is looked at. -/
theorem Leads.goal_mem_way (leads : files.Leads last path goal) : goal ∈ files.way path :=
  leads.walks.goal_mem_way

/-- Both ways start at the same place and go through the same entries. -/
theorem way_carried (carries : files.root.Carries changed.root)
    (current : changed.current = files.current) (path : PathName) :
    files.way path ⊆ changed.way path := by
  have start : changed.start path = files.start path := by rw [Files.start, current]; rfl
  rw [way, way, start]
  exact Folder.way_mono carries

/-- What stands there still can be followed still. -/
theorem way_mono (grows : files.root.Grows changed.root) (current : changed.current = files.current)
    (path : PathName) : files.way path ⊆ changed.way path := way_carried grows.carries current path

/-- More components at the end make the way longer. -/
theorem way_descend (files : Files) (path : PathName) (names : List String) :
    files.way path ⊆ files.way (path.descend names) := Folder.way_append names

/-- Leaving out the last component makes it shorter. -/
theorem way_parent (files : Files) (path : PathName) : files.way path.parent ⊆ files.way path := by
  rcases List.eq_nil_or_concat path.parts with none | ⟨above, name, whole⟩
  · have same : path.parent = path := by
      cases path
      simp_all [PathName.parent]
    rw [same]
    exact List.Subset.refl _
  · have same : path = path.parent.descend [name] := by
      cases path
      simp_all [PathName.parent, PathName.descend]
    have wider := way_descend files path.parent [name]
    rwa [← same] at wider

/-- A path name passes the same in files that agree on its way. -/
theorem way_congr (current : changed.current = files.current)
    (same : ∀ location ∈ files.way path,
      changed.root.kind? location = files.root.kind? location) :
    changed.way path = files.way path := by
  have start : changed.start path = files.start path := by rw [Files.start, current]; rfl
  rw [way, way, start]
  exact Folder.way_congr same

/-- A path name leads to the same places in files that agree on its way. -/
theorem leads_iff_of_way (current : changed.current = files.current)
    (same : ∀ location ∈ files.way path,
      changed.root.kind? location = files.root.kind? location) :
    changed.Leads last path goal ↔ files.Leads last path goal := by
  have start : changed.start path = files.start path := by rw [Files.start, current]; rfl
  constructor
  · intro leads
    refine ⟨leads.short, (start ▸ leads.walks).of_way fun location passed => ?_⟩
    rw [Folder.way_congr same] at passed
    exact (same location passed).symm
  · intro leads
    refine ⟨leads.short, ?_⟩
    rw [start]
    exact leads.walks.of_way same

/-- The way to a folder stays the same in files that grow. -/
theorem Opens.way_eq {location : Location} (opens : files.Opens path location)
    (grows : files.root.Grows changed.root) (current : changed.current = files.current) :
    changed.way path = files.way path := by
  refine way_congr current fun passed there => ?_
  obtain ⟨kind, held⟩ :=
    Option.ne_none_iff_exists'.mp (opens.leads.walks.way_held opens.folder passed there)
  rw [grows _ _ held, held]

end Files

end BuildBench
