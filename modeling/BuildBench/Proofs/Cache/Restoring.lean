import BuildBench.Proofs.Cache.EntryParts
import BuildBench.Proofs.Cache.ReadableEntries

/-!
# Restoring what was saved

Each part of an entry is copied back to its path. What the path held at the time of the save may be
gone or may be there still; a folder is merged into what is left of it. Then everything is as it was
saved. Only links that are there still cannot be made again, and the restore fails on them.
-/

namespace BuildBench

open BuildBench.Action

variable {w u v : World}

/-! ## Files that lack something -/

namespace Files

variable {whole files changed : Files} {path : PathName} {paths rest : List PathName}
  {goal : Location}

/-- Files in which something of what the paths hold may be missing, and in which its files may have
other contents. Everything else is the same. -/
structure Lacks (whole files : Files) (paths : List PathName) : Prop where
  current : files.current = whole.current
  tidy : files.Tidy
  others : ∀ location, (∀ path ∈ paths, ∀ goal, whole.Placed path goal → ¬ goal <+: location) →
    files.root.node? location = whole.root.node? location
  alike : ∀ path ∈ paths, ∀ goal, whole.Placed path goal → ∀ rest kind,
    files.root.kind? (goal ++ rest) = some kind → whole.root.kind? (goal ++ rest) = some kind

/-- A link is there in what the paths hold in other files. -/
def Linked (whole files : Files) (paths : List PathName) : Prop :=
  ∃ path ∈ paths, ∃ goal, whole.Placed path goal ∧
    ∃ rest text, files.root.kind? (goal ++ rest) = some (.link text)

/-- Nothing is missing. -/
theorem Lacks.refl (tidy : files.Tidy) (paths : List PathName) : files.Lacks files paths :=
  ⟨rfl, tidy, fun _ _ => rfl, fun _ _ _ _ _ _ held => held⟩

/-- The way of the path goes through nothing that could be missing. -/
theorem Lacks.kinds_on_way (lacks : whole.Lacks files paths)
    (clear : ∀ other ∈ paths, ∀ goal, whole.Placed other goal →
      ∀ passed ∈ whole.way path, ¬ goal <+: passed) :
    ∀ passed ∈ whole.way path, files.root.kind? passed = whole.root.kind? passed := by
  intro passed there
  rw [Folder.kind?, lacks.others passed fun other among goal placed =>
    clear other among goal placed passed there]
  rfl

/-- A folder that is not in what the paths hold can still be opened. -/
theorem Lacks.opens {location : Location} (lacks : whole.Lacks files paths)
    (opens : whole.Opens path location)
    (clear : ∀ other ∈ paths, ∀ goal, whole.Placed other goal →
      ∀ passed ∈ whole.way path, ¬ goal <+: passed) : files.Opens path location := by
  have same := lacks.kinds_on_way clear
  constructor
  · exact (leads_iff_of_way lacks.current same).mpr opens.leads
  · rw [same location opens.leads.goal_mem_way]
    exact opens.folder

/-- A path that holds nothing lacks nothing. -/
theorem Lacks.skip (lacks : whole.Lacks files (path :: rest)) (missing : whole.Missing path) :
    whole.Lacks files rest where
  current := lacks.current
  tidy := lacks.tidy
  others location spared := lacks.others location fun other among goal placed => by
    rcases List.mem_cons.mp among with rfl | later
    · exact absurd missing placed.not_missing
    · exact spared other later goal placed
  alike other among := lacks.alike other (List.mem_cons_of_mem _ among)

/-- When a tree was copied back it is lacking no more. -/
theorem Lacks.next (lacks : whole.Lacks files (path :: rest)) (placed : whole.Placed path goal)
    (apart : ∀ other ∈ rest, ∀ location, whole.Placed other location → Apart goal location)
    (within : Within goal files changed)
    (returned : ∀ more, changed.root.node? (goal ++ more) = whole.root.node? (goal ++ more)) :
    whole.Lacks changed rest where
  current := within.current.trans lacks.current
  tidy := within.tidy lacks.tidy
  others location spared := by
    by_cases below : goal <+: location
    · obtain ⟨more, rfl⟩ := below
      exact returned more
    · rw [within.nodes location below]
      refine lacks.others location fun other among its there => ?_
      rcases List.mem_cons.mp among with rfl | later
      · rwa [there.unique placed]
      · exact spared other later its there
  alike other among its there more kind held := by
    have outside : ¬ goal <+: its ++ more :=
      ((apart other among its there).below (List.prefix_append its more)).1
    refine lacks.alike other (List.mem_cons_of_mem _ among) its there more kind ?_
    rwa [Folder.kind?, ← within.nodes _ outside]

end Files

/-! ## One part -/

namespace CacheStore

variable {store : CacheStore} {place spot goal : Location} {key : String}
  {path part : PathName} {paths : List PathName}

/-- It takes the same of source and target. -/
theorem fits_swap {f : Folder} {depth : Nat} {source target : PathName}
    (fits : f.Fits depth source target) : f.Fits depth target source := by
  refine ⟨fits.1, fun rest n nonempty there => ?_⟩
  obtain ⟨sourceSound, targetSound, more⟩ := fits.2 rest n nonempty there
  exact ⟨targetSound, sourceSound, more⟩

/-- A part was copied back to its place. What failed is to make links that were there already. -/
inductive Returned (goal : Location) (w : World) : Except Fault Unit → Prop
  | whole (spared : ∀ rest text, w.files.root.kind? (goal ++ rest) ≠ some (.link text)) :
    Returned goal w (.ok ())
  | linked {messages : List String} {rest : Location} {text : String}
    (link : w.files.root.kind? (goal ++ rest) = some (.link text)) :
    Returned goal w (.error (.several messages))

/-- The name leads to an entry, whose kind is asked for. -/
theorem isFolder_run {e : Entry} (named : Disk.isName path = true)
    (found : w.files.lookUp path = .ok e) : Disk.isFolder path w = (.ok e.isFolder, w) := by
  apply Disk.ask_run named
  rw [Files.isFolder, Files.check, found]

/-- The name leads to an entry. -/
theorem exists_run {e : Entry} (named : Disk.isName path = true)
    (found : w.files.lookUp path = .ok e) : Disk.exists? path w = (.ok true, w) := by
  apply Disk.ask_run named
  rw [Files.exists?, Files.check, found]

/-- A part is copied back where some of it may be left. -/
theorem restorePart_run {e : Entry} {above : Location} (named : Disk.isName part = true)
    (pathNamed : Disk.isName path = true) (partLeads : w.files.Leads false part spot)
    (leads : w.files.Leads false path goal) (parent : w.files.Opens path.parent above)
    (faces : Files.Faces true w.files spot goal e) (plain : ∀ text, e ≠ .link text)
    (fits : ∀ f : Folder, e = .folder f → f.Fits Files.copyDepth part path) :
    ∃ result u, restorePart part path w = (result, u) ∧ Returned goal w result ∧ Untouched w u ∧
      Files.Within goal w.files u.files ∧
      ∀ rest, u.files.root.node? (goal ++ rest) = e.node? rest := by
  have notLink : ∀ text, w.files.root.kind? spot ≠ some (.link text) := by
    intro text link
    have held := Folder.at?_of_kind?_link link
    exact plain text (Option.some.inj (faces.held.symm.trans held))
  have found : w.files.lookUp part = .ok e := by
    rw [Files.lookUp, (partLeads.followed notLink).place, faces.held]
    rfl
  unfold restorePart
  simp only [bind_run, exists_run named found, isFolder_run named found, if_true]
  cases e with
  | link text => exact absurd rfl (plain text)
  | folder f =>
    have copied := Files.copyFolder_copied true Files.copyDepth partLeads leads faces (fits f rfl)
    simp only [Entry.isFolder]
    refine ⟨_, _, Disk.copyTree_run named pathNamed w, ?_, withFiles_untouched w _, copied.within, copied.stands⟩
    have bounded : (w.files.copyTree true part path).tooDeep = false := copied.bounded
    by_cases none : (w.files.copyTree true part path).failures = []
    · simp only [Disk.reportOf, bounded, none, Bool.false_eq_true, if_false, List.isEmpty_nil,
        if_true]
      exact .whole (copied.failures.mp none)
    · simp only [Disk.reportOf, bounded, List.isEmpty_iff, none, Bool.false_eq_true, if_false]
      have some := mt copied.failures.mpr none
      simp only [ne_eq, Classical.not_forall, Classical.not_not] at some
      obtain ⟨rest, text, link⟩ := some
      exact .linked link
  | file content executable =>
    have opened := Files.makeFolders_of_opens parent
    have ran : Disk.makeFolders path.parent w = (.ok (), w.withFiles w.files) := by
      obtain ⟨f, -, refused⟩ | ⟨files, -, made, ran⟩ := Disk.makeFolders_cases path.parent w
      · cases (isName_parent pathNamed).symm.trans (refused above parent)
      · cases made.symm.trans opened
        exact ran
    obtain ⟨files, copied, within, stands, spared⟩ :=
      Files.copyFile_of_faces partLeads leads faces
    have written : Disk.copyFile part path (w.withFiles w.files) =
        (.ok (), (w.withFiles w.files).withFiles files) := Disk.change_run pathNamed copied
    have both : (do Disk.makeFolders path.parent; Disk.copyFile part path : Action Unit) w =
        (.ok (), (w.withFiles w.files).withFiles files) := by
      rw [bind_run, ran]
      exact written
    exact ⟨_, _, both, .whole spared,
      Law.trans (withFiles_untouched w _) (withFiles_untouched _ files), within, stands⟩

/-! ## All parts -/

variable {texts : List String} {rest : List PathName} {i : Nat}

/-- The cache is where it was, and what is in it too. -/
theorem Arranged.sits_of_lacks (arranged : Arranged store place v.files paths)
    (lacks : v.files.Lacks w.files paths) : store.Sits w.files place ∧
      ∀ location, place <+: location →
        w.files.root.node? location = v.files.root.node? location := by
  constructor
  · constructor
    · exact lacks.opens arranged.sits.opens arranged.rootClear
    · rw [Files.way_congr lacks.current (lacks.kinds_on_way arranged.rootClear)]
      exact arranged.sits.clear
  · intro location below
    apply lacks.others
    intro path among goal placed
    exact ((arranged.outside path among goal placed).symm.below below).1

/-- What may be missing is not in the cache. -/
theorem Stored.of_lacks (stored : Stored store place v.files key texts)
    (arranged : Arranged store place v.files paths) (lacks : v.files.Lacks w.files paths) :
    Stored store place w.files key texts := by
  obtain ⟨sits, same⟩ := arranged.sits_of_lacks lacks
  apply stored.of_same sits
  apply same
  rw [List.append_assoc]
  exact List.prefix_append place _

/-- There is no part for a path that held nothing, and nothing is copied. -/
theorem restorePart_absent (named : Disk.isName part = true) (leads : w.files.Leads false part spot)
    (absent : w.files.root.kind? spot = none) : restorePart part path w = (.ok (), w) := by
  have unfound : w.files.lookUp part = .error .notFound := by
    have followed := leads.followed (by simp [absent])
    rw [Files.lookUp, followed.place, Folder.kind?_eq_none.mp absent]
    rfl
  have asked : Disk.exists? part w = (.ok false, w) := by
    apply Disk.ask_run named
    rw [Files.exists?, Files.check, unfound]
    rfl
  rw [restorePart, bind_run, asked]
  rfl

/-- What a path held is copied back. -/
theorem restorePart_placed (arranged : Arranged store place v.files (path :: rest))
    (lacks : v.files.Lacks w.files (path :: rest)) (placed : v.files.Placed path goal)
    (copy : Copy v.files part path spot goal) (partLeads : w.files.Leads false part spot)
    (within : place <+: spot) :
    ∃ result u, restorePart part path w = (result, u) ∧ Returned goal w result ∧ Untouched w u ∧
      Files.Within goal w.files u.files ∧
      ∀ more, u.files.root.node? (goal ++ more) = v.files.root.node? (goal ++ more) := by
  have first : path ∈ path :: rest := List.mem_cons_self ..
  -- The folder above the path is there, and the path leads into it.
  have clear := fun other among location its =>
    arranged.clear other among location its path first goal placed
  obtain ⟨above, name, child, notDot, notUp, rfl, opens⟩ := placed.above (clear path first goal placed)
  have parent : w.files.Opens path.parent above := lacks.opens opens clear
  have leads : w.files.Leads false path (above ++ [name]) := by
    have sound := placed.leads.sound
    rw [child] at sound ⊢
    exact parent.child notDot notUp sound
  -- The part holds what the path held.
  have same (more : Location) : w.files.root.node? (spot ++ more) =
      v.files.root.node? (above ++ [name] ++ more) := by
    rw [← copy.nodes]
    exact (arranged.sits_of_lacks lacks).2 _ (within.trans (List.prefix_append spot more))
  have here : w.files.root.kind? spot = v.files.root.kind? (above ++ [name]) := by
    have nodes := same []
    rw [List.append_nil, List.append_nil] at nodes
    rw [Folder.kind?, nodes]
    rfl
  obtain ⟨e, held⟩ := Option.ne_none_iff_exists'.mp
    (mt Folder.kind?_eq_none.mpr (here ▸ placed.held))
  have nodes (more : Location) : e.node? more = v.files.root.node? (above ++ [name] ++ more) :=
    (node?_of_at? held more).trans (same more)
  have faces : w.files.Faces true spot (above ++ [name]) e := by
    have outside := arranged.outside path first _ placed
    refine ⟨held, (Folder.tidy_at? lacks.tidy held).1, (outside.symm.below within).symm, .inl rfl, ?_⟩
    intro more kind there
    rw [Entry.kind?, nodes]
    exact lacks.alike path first _ placed more kind there
  have kind : some e.node.kind = v.files.root.kind? (above ++ [name]) :=
    (Folder.kind?_of_at? held).symm.trans here
  have plain : ∀ text, e ≠ .link text := by
    rintro text rfl
    exact placed.plain text kind.symm
  have fits : ∀ f : Folder, e = .folder f → f.Fits Files.copyDepth part path := by
    rintro f rfl
    exact fits_swap (copy.fits kind.symm f nodes)
  obtain ⟨result, u, ran, returned, untouched, changed, stands⟩ := restorePart_run copy.named
    (arranged.named path first) partLeads leads parent faces plain fits
  exact ⟨result, u, ran, returned, untouched, changed, fun more => (stands more).trans (nodes more)⟩

/-- What restoring a list of paths leads to. -/
inductive Restored (v w : World) (paths : List PathName) (u : World) : Except Fault Unit → Prop
  | whole (spared : ¬ v.files.Linked w.files paths)
    (same : ∀ location, u.files.root.node? location = v.files.root.node? location) :
    Restored v w paths u (.ok ())
  | linked {messages : List String} (linked : v.files.Linked w.files paths)
    (same : ∀ location, u.files.root.node? location = v.files.root.node? location ∨
      u.files.root.node? location = w.files.root.node? location) :
    Restored v w paths u (.error (.several messages))

/-- One path more was passed over. -/
theorem Restored.skip {result : Except Fault Unit} (missing : v.files.Missing path)
    (restored : Restored v w rest u result) : Restored v w (path :: rest) u result := by
  cases restored with
  | whole spared same =>
    refine .whole ?_ same
    rintro ⟨other, among, goal, placed, link⟩
    rcases List.mem_cons.mp among with rfl | later
    · exact placed.not_missing missing
    · exact spared ⟨other, later, goal, placed, link⟩
  | linked linked same =>
    obtain ⟨other, later, more⟩ := linked
    exact .linked ⟨other, List.mem_cons_of_mem _ later, more⟩ same

/-- One path more got back what it held. -/
theorem Restored.cons {t : World} {result : Except Fault Unit} (placed : v.files.Placed path goal)
    (apart : ∀ other ∈ rest, ∀ location, v.files.Placed other location → Apart goal location)
    (spared : ∀ more text, w.files.root.kind? (goal ++ more) ≠ some (.link text))
    (within : Files.Within goal w.files t.files)
    (returned : ∀ more, t.files.root.node? (goal ++ more) = v.files.root.node? (goal ++ more))
    (restored : Restored v t rest u result) : Restored v w (path :: rest) u result := by
  have kept {other : PathName} {its : Location} (among : other ∈ rest)
      (there : v.files.Placed other its) (more : Location) :
      t.files.root.kind? (its ++ more) = w.files.root.kind? (its ++ more) := by
    have outside := (apart other among its there).below (List.prefix_append its more)
    rw [Folder.kind?, within.nodes _ outside.1]
    rfl
  cases restored with
  | whole none same =>
    refine .whole ?_ same
    rintro ⟨other, among, its, there, more, text, link⟩
    rcases List.mem_cons.mp among with rfl | later
    · rw [there.unique placed] at link
      exact spared more text link
    · rw [← kept later there] at link
      exact none ⟨other, later, its, there, more, text, link⟩
  | linked linked same =>
    refine .linked ?_ fun location => ?_
    · obtain ⟨other, later, its, there, more, text, link⟩ := linked
      rw [kept later there] at link
      exact ⟨other, List.mem_cons_of_mem _ later, its, there, more, text, link⟩
    · rcases same location with whole | left
      · exact .inl whole
      · rw [left]
        by_cases below : goal <+: location
        · obtain ⟨more, rfl⟩ := below
          exact .inl (returned more)
        · exact .inr (within.nodes location below)

/-- Restoring a list of paths gives each of them what it held, up to the first one with a link that
is there still. -/
theorem restoreParts_run (stored : Stored store place v.files key texts) (named : IsKey key)
    (arranged : Arranged store place v.files paths)
    (parts : Parts v.files (store.entryFolder key) (place ++ [key]) i paths)
    (lacks : v.files.Lacks w.files paths) (few : i + paths.length ≤ 10 ^ 13) :
    ∃ result u, restoreParts (store.entryFolder key) i paths w = (result, u) ∧
      Restored v w paths u result ∧ Untouched w u ∧ u.files.current = v.files.current := by
  induction paths generalizing i w with
  | nil =>
    refine ⟨.ok (), w, rfl, .whole ?_ ?_, Law.refl w, lacks.current⟩
    · rintro ⟨path, none, -⟩
      cases none
    · exact fun location => lacks.others location nofun
  | cons path rest ih =>
    have first : path ∈ path :: rest := List.mem_cons_self ..
    rw [List.length_cons] at few
    have opens := (stored.of_lacks arranged lacks).opens_entry named
    have sound : ((store.entryFolder key).child (toString i)).Sound :=
      sound_number (by omega) stored.sound
    have partNamed := isName_number (stored.hasFolder named).named i
    have partLeads := opens.child (toString_notDot i) (toString_notUp i) sound
    rw [restoreParts, bind_run]
    rcases arranged.each path first with missing | ⟨goal, placed⟩
    · have absent : w.files.root.kind? (place ++ [key] ++ [toString i]) = none := by
        rw [← Folder.node?_eq_none, (arranged.sits_of_lacks lacks).2 _ (by simp),
          Folder.node?_eq_none]
        exact parts.absent 0 path rfl missing
      rw [restorePart_absent partNamed partLeads absent]
      obtain ⟨result, u, ran, restored, untouched, current⟩ :=
        ih arranged.tail parts.tail (lacks.skip missing) (by omega)
      exact ⟨result, u, ran, restored.skip missing, untouched, current⟩
    · have copy := parts.copies 0 path rfl goal placed
      rw [Nat.add_zero] at copy
      obtain ⟨result, t, ran, returned, untouched, within, stands⟩ :=
        restorePart_placed arranged lacks placed copy partLeads (by simp)
      have apart : ∀ other ∈ rest, ∀ location, v.files.Placed other location →
          Apart goal location := fun other among location there =>
        (List.pairwise_cons.mp arranged.apart).1 other among goal location placed there
      rw [ran]
      cases returned with
      | linked link =>
        refine ⟨_, t, rfl, .linked ⟨path, first, goal, placed, _, _, link⟩ ?_, untouched,
          within.current.trans lacks.current⟩
        intro location
        by_cases below : goal <+: location
        · obtain ⟨more, rfl⟩ := below
          exact .inl (stands more)
        · exact .inr (within.nodes location below)
      | whole spared =>
        obtain ⟨result, u, ran, restored, further, current⟩ := ih arranged.tail parts.tail
          (lacks.next placed apart within stands) (by omega)
        exact ⟨result, u, ran, restored.cons placed apart spared within stands,
          Law.trans untouched further, current⟩

/-! ## After a save -/

/-- How a restore of an entry that lists the paths ends. -/
inductive Ended (v w : World) (paths : List PathName) (u : World) : Except Fault Bool → Prop
  | whole (spared : ¬ v.files.Linked w.files paths)
    (kinds : ∀ location, u.files.root.kind? location = v.files.root.kind? location)
    (same : ∀ location, .file location ∉ w.handlers →
      u.files.root.node? location = v.files.root.node? location) : Ended v w paths u (.ok true)
  | linked {s : StageFailure} (failed : s.stage = "prepare" ∧ s.kind = .setup)
    (linked : v.files.Linked w.files paths)
    (same : ∀ location, .file location ∉ w.handlers →
      u.files.root.node? location = v.files.root.node? location ∨
        u.files.root.node? location = w.files.root.node? location) :
    Ended v w paths u (.error (.stage s))

/-- The parts are copied back one after the other, and the end of the last of them is that of the
restore, with a record of it. -/
theorem restoreListed_ended (stored : Stored store place v.files key texts) (named : IsKey key)
    (arranged : Arranged store place v.files paths)
    (parts : Parts v.files (store.entryFolder key) (place ++ [key]) 0 paths)
    (lacks : v.files.Lacks w.files paths) (few : paths.length ≤ 10 ^ 13) :
    ∃ result u, store.restoreListed key paths w = (result, u) ∧ Ended v w paths u result ∧
      Untouched w u ∧ u.files.current = v.files.current := by
  obtain ⟨result, u, ran, restored, untouched, current⟩ :=
    restoreParts_run stored named arranged parts lacks (by omega)
  cases restored with
  | whole spared same =>
    have logged := log_confined .info "cache"
      ("Cache hit for " ++ key ++ " (" ++ toString paths.length ++ " path(s) restored)") u
    refine ⟨.ok true, _, ?_, .whole spared (fun location => ?_) fun location closed => ?_,
      Law.trans untouched logged.toUntouched, logged.current.trans current⟩
    · rw [restoreListed, bind_run, failingAs, tryCatch_run, ran]
      rfl
    · rw [logged.kinds location id, Folder.kind?, same]
      rfl
    · have unopened : .file location ∉ u.handlers := fun opened =>
        closed (untouched.logs location opened)
      exact (logged.nodes location id unopened).trans (same location)
  | @linked messages linked same =>
    have ended : Ended v w paths u (.error (setupFailure "prepare"
        ("Cache restore failed for " ++ key ++ ": " ++ (Fault.several messages).message))) :=
      .linked ⟨rfl, rfl⟩ linked fun location _ => same location
    refine ⟨_, u, ?_, ended, untouched, current⟩
    rw [restoreListed, bind_run, failingAs, tryCatch_run, ran]
    rfl

/-- Records change no part of an entry. -/
theorem Parts.logged {folder : PathName} {above : Location}
    (parts : Parts w.files folder above i paths) (arranged : Arranged store place w.files paths)
    (confined : Confined nowhere w v) (unlogged : Unlogged place w)
    (pathsUnlogged : PathsUnlogged w.files paths w) (within : place <+: above) :
    Parts v.files folder above i paths := by
  have kinds : ∀ location, v.files.root.kind? location = w.files.root.kind? location :=
    fun location => confined.kinds location id
  constructor
  · intro j path found goal placed
    have among := List.mem_of_getElem? found
    have before : w.files.Placed path goal :=
      (arranged.placed_iff confined.current (fun location _ => kinds location) among).mp placed
    refine (parts.copies j path found goal before).of_nodes (fun more => ?_) (fun more => ?_)
    · refine confined.nodes _ id fun opened => unlogged _ opened (within.trans ?_)
      rw [List.append_assoc]
      exact List.prefix_append above _
    · exact confined.nodes _ id fun opened =>
        pathsUnlogged path among goal before _ opened (List.prefix_append goal more)
  · intro j path found missing
    rw [kinds]
    exact parts.absent j path found
      (missing.of_kinds confined.current.symm fun passed _ => (kinds passed).symm)

/-- What a save leaves behind that wrote an entry. -/
structure Kept (store : CacheStore) (place : Location) (key : String) (paths : List PathName)
    (w v : World) : Prop where
  stored : Stored store place v.files key (paths.map PathName.display)
  parts : Parts v.files (store.entryFolder key) (place ++ [key]) 0 paths
  tidy : v.files.Tidy
  host : SameHost w v
  outside : ∀ location, ¬ inside place location → .file location ∉ w.handlers →
    v.files.root.node? location = w.files.root.node? location ∨
      w.files.root.node? location = none ∧ v.files.root.node? location = some .folder ∧
        location ∈ v.files.way store.root

/-- An entry was written, so it is complete, and its parts hold what the paths hold. -/
theorem kept_of_save (named : IsKey key) (tidy : w.files.Tidy)
    (stands : store.Stands w.files place) (unlogged : Unlogged place w)
    (simple : '/' ∉ w.unique.toList) (saved : store.save key paths w = (.ok true, v))
    (arranged : Arranged store place v.files paths)
    (pathsUnlogged : PathsUnlogged v.files paths w) : Kept store place key paths w v := by
  have outcome := save_saved tidy stands named paths
  rw [saved] at outcome
  have stored := outcome.stored stands unlogged fun path among =>
    unpaired_of_isName (arranged.named path among)
  cases outcome with
  | @written u t _ begun wrote ended =>
    cases wrote with
    | @written files m _ made cleared written =>
      obtain ⟨sitsMade, -⟩ := (stands.logged begun).made made
      have changed : Confined (beneath (place ++ [key])) (u.withFiles files) t :=
        cleared.trans written.confined
      have sitsWritten : store.Sits t.files place := Sits.confined (w := u.withFiles files) sitsMade
        (changed.mono fun _ => inside_of_beneath)
      have quiet : Confined (inside place) t v := ended.mono fun _ => False.elim
      have arrangedThen : Arranged store place t.files paths := arranged.before quiet
      have hostMade : SameHost w (u.withFiles files) :=
        begun.toSameHost.trans (withFiles_untouched u files).toSameHost
      have hostCleared : SameHost w m := hostMade.trans cleared.toSameHost
      have hostThen : SameHost w t := hostMade.trans changed.toSameHost
      have host : SameHost w v := hostThen.trans ended.toSameHost
      have spared {x : World} (later : SameHost w x) : PathsUnlogged t.files paths x := by
        intro path among goal placed location opened
        have there : v.files.Placed path goal :=
          (arrangedThen.placed_iff quiet.current quiet.kinds among).mpr placed
        exact pathsUnlogged path among goal there location (later.logs location opened)
      have unique : '/' ∉ m.unique.toList := by
        rwa [cleared.unique, show (u.withFiles files).unique = u.unique from rfl, begun.unique]
      have parts := (written.parts named arrangedThen (unlogged.after hostCleared)
        (spared hostCleared) unique).logged arrangedThen ended (unlogged.after hostThen)
        (spared hostThen) (List.prefix_append place [key])
      refine ⟨stored, parts, ?_, host, fun location elsewhere closed => ?_⟩
      · exact ended.tidy (changed.tidy ((Files.makeFolders_ok made).1.tidy (begun.tidy tidy)))
      · have later : v.files.root.node? location = files.root.node? location := by
          have below : ¬ beneath (place ++ [key]) location := fun below =>
            elsewhere (inside_of_beneath below)
          exact (ended.nodes location id fun opened => closed (hostThen.logs _ opened)).trans
            (changed.nodes location below fun opened => closed (hostMade.logs _ opened))
        have earlier : u.files.root.node? location = w.files.root.node? location :=
          begun.nodes location id closed
        have way : v.files.way store.root = files.way store.root :=
          (sitsWritten.way_eq quiet).trans
            (Sits.way_eq (w := u.withFiles files) sitsMade (changed.mono fun _ => inside_of_beneath))
        rw [later, way, ← earlier]
        exact Files.makeFolders_nodes made location

/-! ## A folder with a link -/

/-- One path that holds something is arranged when it is away from the cache and its name does not
lead through it. -/
theorem Arranged.single {files : Files} (sits : store.Sits files place)
    (named : Disk.isName path = true) (placed : files.Placed path goal)
    (spares : ∀ passed ∈ files.way path, ¬ inside place passed) (outside : Apart place goal)
    (rootClear : ∀ passed ∈ files.way store.root, ¬ goal <+: passed)
    (clear : ∀ passed ∈ files.way path.parent, ¬ goal <+: passed) :
    Arranged store place files [path] := by
  have only {other : Location} (there : files.Placed path other) : other = goal :=
    there.unique placed
  constructor
  · exact sits
  · simpa using named
  · intro p among
    obtain rfl := List.mem_singleton.mp among
    exact .inr ⟨goal, placed⟩
  · simpa using spares
  · intro p among other there
    obtain rfl := List.mem_singleton.mp among
    rwa [only there]
  · exact List.pairwise_singleton _ _
  · intro p among other there
    obtain rfl := List.mem_singleton.mp among
    rwa [only there]
  · intro p among other there q amongToo _ _
    obtain rfl := List.mem_singleton.mp among
    obtain rfl := List.mem_singleton.mp amongToo
    rwa [only there]

/-- A world with an empty cache and a folder with a file and a link to it. -/
def linkedFolder : World where
  files := { root := [("c", .folder []),
    ("w", .folder [("a", .folder [("f", .file "x".toUTF8 false), ("l", .link "f")])])] }
  processes := ⟨[], {}⟩
  replies := ⟨[], .refused .connection ""⟩

def linkedPath : PathName := ⟨.root, ["w", "a"]⟩

/-- Folder by folder. -/
theorem linkedFolder_tidy : linkedFolder.files.Tidy := by
  have inner : Entry.Tidy (.folder [("f", .file "x".toUTF8 false), ("l", .link "f")]) := by
    refine .folder ⟨by decide, by decide⟩ ?_
    simp only [List.forall_mem_cons]
    exact ⟨.file _ _, .link _, nofun⟩
  refine .folder ⟨by decide, by decide⟩ ?_
  simp only [linkedFolder, List.forall_mem_cons]
  refine ⟨.folder ⟨.nil, nofun⟩ nofun, .folder ⟨by decide, by decide⟩ ?_, nofun⟩
  simp only [List.forall_mem_cons]
  exact ⟨inner, nofun⟩

/-- The name is followed by evaluation. -/
theorem linkedFolder_sits : sampleStore.Sits linkedFolder.files ["c"] := by
  have placed : linkedFolder.files.place true sampleStore.root = .ok ⟨["c"], some (.folder [])⟩ := rfl
  exact ⟨⟨(Files.leads_of_place placed).1, by decide⟩, by decide⟩

/-- The name is followed by evaluation. -/
theorem linkedFolder_placed : linkedFolder.files.Placed linkedPath ["w", "a"] := by
  have placed : linkedFolder.files.place false linkedPath =
    .ok ⟨["w", "a"], linkedFolder.files.root.at? ["w", "a"]⟩ := rfl
  have kind : linkedFolder.files.root.kind? ["w", "a"] = some .folder := by decide
  exact ⟨(Files.leads_of_place placed).1, by simp [kind], by simp [kind]⟩

/-- There is one path, and it leads elsewhere than the cache. -/
theorem linkedFolder_arranged : Arranged sampleStore ["c"] linkedFolder.files [linkedPath] := by
  apply Arranged.single linkedFolder_sits (by decide) linkedFolder_placed
  · unfold inside
    decide
  · unfold Apart
    decide
  · decide
  · decide

/-- The save is followed by evaluation, and what it changed is known from its being a save. -/
theorem linkedFolder_saved : ∃ v, sampleStore.save "k" [linkedPath] linkedFolder = (.ok true, v) ∧
    Confined (inside ["c"]) linkedFolder v ∧ Arranged sampleStore ["c"] v.files [linkedPath] ∧
      v.files.Placed linkedPath ["w", "a"] := by
  have works : (sampleStore.save "k" [linkedPath] linkedFolder).1.toOption = some true := by
    decide +kernel
  have outcome := save_saved linkedFolder_tidy linkedFolder_sits.stands isKey_k [linkedPath]
  rcases ended : sampleStore.save "k" [linkedPath] linkedFolder with ⟨f | answer, v⟩ <;>
    rw [ended] at works outcome
  · cases works
  · obtain rfl : answer = true := by simpa [Except.toOption] using works
    have confined := outcome.confined linkedFolder_sits
    have placed := (linkedFolder_arranged.placed_iff confined.current confined.kinds
      (List.mem_singleton_self _)).mpr linkedFolder_placed
    exact ⟨v, rfl, confined, linkedFolder_arranged.confined confined, placed⟩

/-! ## Restoring what is gone -/

/-- Exactly what the paths held is gone. -/
structure Deleted (before after : Files) (paths : List PathName) : Prop where
  current : after.current = before.current
  tidy : after.Tidy
  gone : ∀ path ∈ paths, ∀ goal, before.Placed path goal → after.root.kind? goal = none
  others : ∀ location, (∀ path ∈ paths, ∀ goal, before.Placed path goal → ¬ goal <+: location) →
    after.root.node? location = before.root.node? location

/-- Nothing stands below what is gone. -/
theorem Deleted.kind?_eq_none {before after : Files} (deleted : Deleted before after paths)
    (among : path ∈ paths) (placed : before.Placed path goal) (more : Location) :
    after.root.kind? (goal ++ more) = none := by
  rw [Folder.kind?, Folder.node?_of_vacant (deleted.gone path among goal placed)
    (List.prefix_append goal more)]
  rfl

/-- What is gone is missing, and nothing else is. -/
theorem Deleted.lacks {before after : Files} (deleted : Deleted before after paths) :
    before.Lacks after paths := by
  refine ⟨deleted.current, deleted.tidy, deleted.others, ?_⟩
  intro path among goal placed more kind held
  cases (deleted.kind?_eq_none among placed more).symm.trans held

/-- There is no link where nothing is. -/
theorem Deleted.not_linked {before after : Files} (deleted : Deleted before after paths) :
    ¬ before.Linked after paths := by
  rintro ⟨path, among, goal, placed, more, text, link⟩
  cases (deleted.kind?_eq_none among placed more).symm.trans link

/-- A world in which the paths hold again what they held in an earlier one. In between it was saved
and it went away. -/
structure GivenBack (store : CacheStore) (place : Location) (paths : List PathName)
    (earlier saved emptied now : World) : Prop where
  trees : ∀ path ∈ paths, ∀ goal, saved.files.Placed path goal →
    now.files.Placed path goal ∧ Same goal earlier now
  missing : ∀ path ∈ paths, saved.files.Missing path → now.files.Missing path
  others : ∀ location,
    (∀ path ∈ paths, ∀ goal, saved.files.Placed path goal → ¬ goal <+: location) →
    .file location ∉ earlier.handlers →
      now.files.root.node? location = emptied.files.root.node? location
  outside : ∀ location, ¬ inside place location → .file location ∉ earlier.handlers →
    now.files.root.node? location = earlier.files.root.node? location ∨
      earlier.files.root.node? location = none ∧ now.files.root.node? location = some .folder ∧
        location ∈ saved.files.way store.root

/-- What was saved and is gone is given back. -/
theorem restore_of_save (named : IsKey key) (tidy : w.files.Tidy)
    (stands : store.Stands w.files place) (unlogged : Unlogged place w)
    (simple : '/' ∉ w.unique.toList) (saved : store.save key paths w = (.ok true, v))
    (arranged : Arranged store place v.files paths)
    (pathsUnlogged : PathsUnlogged v.files paths w) (few : paths.length ≤ 10 ^ 13)
    (host : SameHost v u) (deleted : Deleted v.files u.files paths) :
    ∃ t, store.restore key paths u = (.ok true, t) ∧ GivenBack store place paths w v u t := by
  have kept := kept_of_save named tidy stands unlogged simple saved arranged pathsUnlogged
  obtain ⟨result, t, ran, ended, untouched, current⟩ := restoreListed_ended kept.stored named arranged
    kept.parts deleted.lacks few
  have restored := (kept.stored.of_lacks arranged deleted.lacks).restore_run named paths
  rw [if_pos rfl, ran] at restored
  cases ended with
  | linked _ linked _ => exact absurd linked deleted.not_linked
  | whole _ kinds same =>
    have closed {location : Location} (unopened : .file location ∉ w.handlers) :
        .file location ∉ u.handlers := fun opened =>
      unopened ((kept.host.trans host).logs location opened)
    refine ⟨t, restored, ?_⟩
    constructor
    · intro path among goal placed
      refine ⟨placed.of_kinds current fun passed _ => kinds passed, fun location below => ?_⟩
      have unopened : .file location ∉ w.handlers := fun opened =>
        pathsUnlogged path among goal placed location opened below
      have elsewhere : ¬ inside place location := fun within =>
        ((arranged.outside path among goal placed).below below).1 within.1
      rw [same location (closed unopened)]
      rcases kept.outside location elsewhere unopened with before | ⟨-, -, passed⟩
      · exact before
      · exact absurd below (arranged.rootClear path among goal placed location passed)
    · intro path among missing
      exact missing.of_kinds current fun passed _ => kinds passed
    · intro location other unopened
      exact (same location (closed unopened)).trans (deleted.others location other).symm
    · intro location elsewhere unopened
      rw [same location (closed unopened)]
      exact kept.outside location elsewhere unopened

/-- What was taken away is what stood at the place of the path. -/
theorem Deleted.of_remove {before : Files} (placed : before.Placed path goal) (nonempty : goal ≠ [])
    (tidy : before.Tidy) :
    Deleted before { before with root := before.root.remove goal } [path] := by
  have within := Files.Within.remove nonempty before
  constructor
  · rfl
  · exact within.tidy tidy
  · intro p among other there
    obtain rfl := List.mem_singleton.mp among
    rw [there.unique placed, ← Folder.node?_eq_none, Folder.node?_remove nonempty,
      if_pos (List.prefix_refl goal)]
  · intro location spared
    exact within.nodes location (spared path (List.mem_singleton_self _) goal placed)

/-- The folder is saved, taken away and restored, and its link is a link again. -/
theorem restore_of_save_linkedFolder :
    ∃ v u t, sampleStore.save "k" [linkedPath] linkedFolder = (.ok true, v) ∧
      Deleted v.files u.files [linkedPath] ∧ sampleStore.restore "k" [linkedPath] u = (.ok true, t) ∧
        GivenBack sampleStore ["c"] [linkedPath] linkedFolder v u t := by
  obtain ⟨v, saved, confined, arranged, placed⟩ := linkedFolder_saved
  have unlogged : Unlogged ["c"] linkedFolder := nofun
  have pathsUnlogged : PathsUnlogged v.files [linkedPath] linkedFolder := fun _ _ _ _ => nofun
  have deleted := Deleted.of_remove placed (by decide) (confined.tidy linkedFolder_tidy)
  have host : SameHost v (v.withFiles { v.files with root := v.files.root.remove ["w", "a"] }) :=
    (withFiles_untouched v _).toSameHost
  obtain ⟨t, restored, back⟩ := restore_of_save isKey_k linkedFolder_tidy linkedFolder_sits.stands
    unlogged (by decide) saved arranged pathsUnlogged (by decide) host deleted
  exact ⟨v, _, t, saved, deleted, restored, back⟩

/-- A world with a folder that can be named by way of a link inside of it. -/
def detour : World where
  files := { root := [("c", .folder []), ("w", .folder [
    ("a", .folder [("f", .file "x".toUTF8 false), ("l", .link "../b")]), ("b", .folder [])])] }
  processes := ⟨[], {}⟩
  replies := ⟨[], .refused .connection ""⟩

def detourPath : PathName := ⟨.root, ["w", "a", "l", "..", "a"]⟩

/-- A folder is not given back when its name leads through a link inside of it: a new folder is in
the place of the link. -/
theorem restore_loses_link :
    let saved := sampleStore.save "k" [detourPath] detour
    let emptied := saved.2.withFiles
      { saved.2.files with root := saved.2.files.root.remove ["w", "a"] }
    let restored := sampleStore.restore "k" [detourPath] emptied
    saved.1.toOption = some true ∧ restored.1.toOption = some true ∧
      saved.2.files.root.kind? ["w", "a", "l"] = some (.link "../b") ∧
        restored.2.files.root.kind? ["w", "a", "l"] = some .folder := by
  decide +kernel

/-! ## Restoring what is there still -/

/-- What was saved and is there still stays as it is. Restoring it goes well exactly when there is no
link in it. -/
theorem restore_after_save (named : IsKey key) (tidy : w.files.Tidy)
    (stands : store.Stands w.files place) (unlogged : Unlogged place w)
    (simple : '/' ∉ w.unique.toList) (saved : store.save key paths w = (.ok true, v))
    (arranged : Arranged store place v.files paths)
    (pathsUnlogged : PathsUnlogged v.files paths w) (few : paths.length ≤ 10 ^ 13) :
    ∃ result t, store.restore key paths v = (result, t) ∧
      (∀ location, .file location ∉ w.handlers →
        t.files.root.node? location = v.files.root.node? location) ∧
      (result = .ok true ∧ ¬ v.files.Linked v.files paths ∨
        v.files.Linked v.files paths ∧
          ∃ s, result = .error (.stage s) ∧ s.stage = "prepare" ∧ s.kind = .setup) := by
  have kept := kept_of_save named tidy stands unlogged simple saved arranged pathsUnlogged
  obtain ⟨result, t, ran, ended, -⟩ := restoreListed_ended kept.stored named arranged kept.parts
    (.refl kept.tidy paths) few
  have restored := kept.stored.restore_run named paths
  rw [if_pos rfl, ran] at restored
  have closed {location : Location} (unopened : .file location ∉ w.handlers) :
      .file location ∉ v.handlers := fun opened => unopened (kept.host.logs location opened)
  refine ⟨result, t, restored, ?_⟩
  cases ended with
  | whole spared _ same =>
    exact ⟨fun location unopened => same location (closed unopened), .inl ⟨rfl, spared⟩⟩
  | @linked s failed linked same =>
    refine ⟨fun location unopened => ?_, .inr ⟨linked, s, rfl, failed⟩⟩
    rcases same location (closed unopened) with before | before <;> exact before

/-- The folder is saved and restored over itself. Its link is there already, so that it cannot be
made. -/
theorem restore_after_save_linkedFolder :
    ∃ v t s, sampleStore.save "k" [linkedPath] linkedFolder = (.ok true, v) ∧
      sampleStore.restore "k" [linkedPath] v = (.error (.stage s), t) ∧ s.stage = "prepare" ∧
        ∀ location, t.files.root.node? location = v.files.root.node? location := by
  obtain ⟨v, saved, confined, arranged, placed⟩ := linkedFolder_saved
  have unlogged : Unlogged ["c"] linkedFolder := nofun
  have pathsUnlogged : PathsUnlogged v.files [linkedPath] linkedFolder := fun _ _ _ _ => nofun
  obtain ⟨result, t, restored, same, outcome⟩ := restore_after_save isKey_k linkedFolder_tidy
    linkedFolder_sits.stands unlogged (by decide) saved arranged pathsUnlogged (by decide)
  have linked : v.files.Linked v.files [linkedPath] := by
    refine ⟨linkedPath, List.mem_singleton_self _, ["w", "a"], placed, ["l"], "f", ?_⟩
    rw [confined.kinds _ (by unfold inside; decide)]
    decide
  obtain ⟨-, unlinked⟩ | ⟨-, s, rfl, failed, -⟩ := outcome
  · exact absurd linked unlinked
  · exact ⟨v, t, s, saved, restored, failed, fun location => same location nofun⟩

/-- A restore over an untouched folder fails when there is a link in the folder. -/
theorem restore_fails_on_link :
    let saved := sampleStore.save "k" [linkedPath] linkedFolder
    saved.1.toOption = some true ∧
      (sampleStore.restore "k" [linkedPath] saved.2).1.toOption = none := by
  decide +kernel

end CacheStore

end BuildBench
