import BuildBench.Proofs.Files.RealPath
import BuildBench.Proofs.Run.CacheAfterStages

/-!
# What a run does to its cache

A run that keeps away from the folder of its cache changes the cache in at most one way: after all of
its stages succeeded without an entry being found, it saves one. When the save fails as a stage does
this is recorded, and nothing else is different. After a run that succeeded the cache holds an entry
for the key of its report, and following runs find it.
-/

namespace BuildBench

open BuildBench.Action

namespace Run

variable {plan : Plan} {store : CacheStore} {start w u t v : World} {place : Location}
  {prepared : Prepared} {report : Report} {key : String} {paths : List PathName}

/-- A run stays away from a place: at every moment of its history the names that it writes do not
pass the place, and its processes change nothing there. Whoever is told the results of stages only
writes records, and no log file is open there. -/
structure Plan.StaysAway (plan : Plan) (place : Location) (w v : World) : Prop where
  reticent : plan.Reticent
  tidy : w.files.Tidy
  steady : w.files.Steady
  unlogged : CacheStore.Unlogged place w
  spared : ∀ d ∈ w.deedsUntil v, plan.Spares w place d

/-- A run is underway at its start, where nothing has happened. -/
theorem Plan.StaysAway.underway (away : plan.StaysAway place w v) : Underway w place w where
  toSameHost := .rfl
  toSameTemporary := Law.refl w
  tidy := away.tidy
  steady := away.steady
  unlogged := away.unlogged

/-- The deeds between two worlds are told by their trail, so those that leave the place alone are
all there are. -/
theorem Through.known {P : World → World → Prop} (through : Through plan start place P w v)
    (spared : ∀ d ∈ w.deedsUntil v, plan.Spares start place d) : P w v := by
  obtain ⟨ds, enacted, holds⟩ := through
  rw [enacted.deedsUntil_eq] at spared
  exact holds spared

/-- What is known until a world is known as well when a later world is looked at in which nothing
more was done to the outside. -/
theorem Through.knownBefore {P : World → World → Prop} (through : Through plan start place P w u)
    (untouched : Untouched u v) (spared : ∀ d ∈ w.deedsUntil v, plan.Spares start place d) :
    P w u := by
  obtain ⟨ds, enacted, holds⟩ := through
  have whole := (enacted.trans untouched.enacted).deedsUntil_eq
  rw [List.append_nil] at whole
  exact holds fun d among => spared d (whole ▸ among)

/-! ## After the stages -/

/-- The world after a run said that it is complete. -/
def completed (plan : Plan) (w : World) : World :=
  (log .info "pipeline" ("Pipeline '" ++ plan.settings.name.display ++ "' completed") w).2

/-- The world after a failure to save was recorded. -/
def warned (f : StageFailure) (w : World) : World :=
  (log .warning "pipeline" ("Could not save cache entry: " ++ f.message) w).2

/-- How a run ends whose save had some answer: with its report, unless the save failed otherwise than
a stage does. -/
def afterSave (plan : Plan) (report : Report) (t : World) :
    Except Fault Bool → Except Fault Report × World
  | .ok _ => (.ok report, completed plan t)
  | .error (.stage f) => (.ok report, completed plan (warned f t))
  | .error f => (.error f, t)

/-- It is one record. -/
theorem completed_recorded (plan : Plan) (w : World) : Recorded w (completed plan w) :=
  (record_recorded (F := fun _ => False) _ w).1

/-- Without a cache, or with an entry that was found, saving does nothing. -/
theorem complete_unsaved (needless : plan.store = none ∨ prepared.cacheHit = true) :
    complete plan prepared report u = (.ok report, completed plan u) := by
  have saved : saveCache plan prepared u = (.ok (), u) := by
    unfold saveCache
    rcases given : plan.store with _ | store
    · rfl
    · have hit : prepared.cacheHit = true := by simpa [given] using needless
      simp only [hit]
      rfl
  rw [complete, bind_run, saved]
  rfl

/-- There is a cache and no entry was found, so all that is left depends on how the save ends. -/
theorem complete_saved {answer : Except Fault Bool} (given : plan.store = some store)
    (miss : prepared.cacheHit = false)
    (saves : store.save prepared.cacheKey prepared.cachePaths u = (answer, t)) :
    complete plan prepared report u = afterSave plan report t answer := by
  have missed : ¬ prepared.cacheHit = true := by simp [miss]
  rw [complete, bind_run, saveCache, given]
  dsimp only
  rw [if_neg missed, bind_run, attempt_run, saves]
  rcases answer with f | _
  · cases f <;> rfl
  · rfl

/-- Saving and records change files and logs only. -/
theorem complete_untouched {result : Except Fault Report}
    (completes : complete plan prepared report u = (result, v)) : Untouched u v := by
  have kept : Keeps Untouched (fun _ => True) (complete plan prepared report) :=
    .bind (saveCache_untouched plan prepared) fun _ =>
      .bind ((log_quiet _ _ _).mono fun _ _ => trivial) fun _ => .pure _
  have untouched := (kept u).1
  rwa [completes] at untouched

/-- The report is the one that was there before, for nothing is added to it any more. -/
theorem complete_ok {report' : Report}
    (completes : complete plan prepared report u = (.ok report', v)) : report' = report := by
  obtain ⟨_, _, _, completes⟩ := ok_of_bind_ok completes
  obtain ⟨_, _, _, completes⟩ := ok_of_bind_ok completes
  exact (Except.ok.inj (Prod.mk.inj completes).1).symm

/-! ## What following runs find -/

/-- The cache has an entry that is restored for these paths and for no others, and a run that finds
the place as it was left, with the same key and paths, is no miss. -/
structure Serves (store : CacheStore) (place : Location) (key : String) (paths : List PathName)
    (v : World) : Prop where
  accepts : store.AcceptsOnly key paths v
  following : ∀ (next : Plan) (x y : World) (report : Report) (others : List PathName),
    next.store = some store → next.StaysAway place x y → CacheStore.Same place v x →
      run next x = (.ok report, y) → report.cacheKey = key →
      next.cachePaths x.homes = .ok others →
      others.map PathName.display = paths.map PathName.display → report.cacheHit = true

/-- Preparation finds an entry that the cache held before, and still holds. -/
theorem Ready.hit (ready : Ready plan start place prepared u) (given : plan.store = some store)
    (named : CacheStore.IsKey prepared.cacheKey)
    (holds : store.Holds place prepared.cacheKey (prepared.cachePaths.map PathName.display) w)
    (same : CacheStore.Same place w u) : prepared.cacheHit = true := by
  have folder : u.files.root.kind? place = some .folder :=
    (same.kind_eq (List.prefix_refl place)).trans holds.folder
  have later := holds.of_same named (ready.clear.sits given folder) same
  exact (ready.recalled store given named (later.direct named)).mpr later

/-- A run on the place finds the entry as a restore does: preparation asks the cache for the key and
paths, and the entry lists them. -/
theorem serves_of_holds
    (holds : store.Holds place key (paths.map PathName.display) v)
    (named : CacheStore.IsKey key) : Serves store place key paths v where
  accepts := holds.acceptsOnly
  following next x y report others given away same ended keyed placed listed := by
    have goes : Goes next place x (run next x).1 (run next x).2 := run_goes away.reticent x
    rw [ended] at goes
    have found {prepared : Prepared} {z : World}
        (readies : Readies next x place prepared x z) (key_eq : prepared.cacheKey = key) :
        prepared.cacheHit = true := by
      obtain ⟨sameRun, ready⟩ := readies away.underway
      obtain rfl : prepared.cachePaths = others :=
        Except.ok.inj (ready.placed.symm.trans placed)
      rw [← key_eq] at named holds
      rw [← listed] at holds
      exact ready.hit given named holds (same.trans sameRun)
    cases goes with
    -- A run that is not prepared reports no key, and the name of an entry is not empty.
    | unprepared _ reports =>
      exact absurd (keyed.symm.trans (reports report rfl).2) named.nonempty
    | unfinished readies reports =>
      obtain ⟨-, key_eq, hit_eq⟩ := reports report rfl
      rw [hit_eq]
      exact found (readies.known away.spared) (key_eq.symm.trans keyed)
    | finished readies measured completes =>
      have untouched := complete_untouched completes
      obtain rfl := complete_ok completes
      exact found (readies.knownBefore untouched away.spared) keyed

/-! ## The cache after a run -/

/-- An entry for a key can be told from the rest of the tree: the key is the name of a file, neither
the entry nor its manifest is a link, and the paths can be read back from a manifest. -/
structure Plain (place : Location) (key : String) (paths : List PathName) (files : Files) :
    Prop where
  named : CacheStore.IsKey key
  direct : CacheStore.Direct place key files
  unpaired : ∀ path ∈ paths, Text.Unpaired path.display.toList

/-- How a run leaves its cache. -/
inductive Leaves (plan : Plan) (place : Location) (w : World) : Except Fault Report → World → Prop
  /-- A stage failed, or the run was broken off. -/
  | failed {result : Except Fault Report} {v : World} (same : CacheStore.Same place w v)
    (reports : ∀ report, result = .ok report → report.ok = false) : Leaves plan place w result v
  /-- All stages succeeded, without a cache or with a hit. -/
  | unsaved {report : Report} {v : World} (ok : report.ok = true)
    (needless : plan.store = none ∨ report.cacheHit = true) (same : CacheStore.Same place w v)
    (serves : ∀ store paths, plan.store = some store → plan.cachePaths w.homes = .ok paths →
      Plain place report.cacheKey paths w.files → Serves store place report.cacheKey paths v) :
    Leaves plan place w (.ok report) v
  /-- All stages succeeded after a miss, and then there was one save. -/
  | saved {store : CacheStore} {env : Environment} {prepared : Prepared}
    {product : Artifact.Built} {results : List StageResult} {r : StageResult} {m : Measurement}
    {u t v : World} {report : Report} {answer : Except Fault Bool} {result : Except Fault Report}
    (given : plan.store = some store)
    (measured : Measures plan w env prepared product results r (some m) u)
    (whole : report = wholeReport plan prepared (results ++ [r]) product m)
    (ok : report.ok = true) (miss : report.cacheHit = false)
    (placed : plan.cachePaths w.homes = .ok prepared.cachePaths)
    (same : CacheStore.Same place w u)
    (saves : store.save report.cacheKey prepared.cachePaths u = (answer, t))
    (ends : (result, v) = afterSave plan report t answer)
    (serves : ∀ written, answer = .ok written →
      Plain place report.cacheKey prepared.cachePaths w.files →
        Serves store place report.cacheKey prepared.cachePaths v) :
    Leaves plan place w result v

/-- A run that stays away from the folder of its cache saves at most one entry, when all stages
succeeded and none was found, and leaves the folder alone otherwise. -/
theorem run_leaves {result : Except Fault Report} (ended : run plan w = (result, v))
    (away : plan.StaysAway place w v) : Leaves plan place w result v := by
  have goes : Goes plan place w (run plan w).1 (run plan w).2 := run_goes away.reticent w
  rw [ended] at goes
  cases goes with
  | unprepared alone reports =>
    obtain ⟨-, same⟩ := alone.known away.spared away.underway
    exact .failed same fun report returned => (reports report returned).1
  | unfinished readies reports =>
    obtain ⟨same, -⟩ := readies.known away.spared away.underway
    exact .failed same fun report returned => (reports report returned).1
  | @finished _ prepared _ _ _ _ u _ _ readies measured completes =>
    have untouched := complete_untouched completes
    obtain ⟨same, ready⟩ := readies.knownBefore untouched away.spared away.underway
    have ok := (Course.whole measured untouched).consistent.measurement_iff.mp rfl
    have unlogged := ready.underway.unlogged
    -- Only here can the folder change: before, all that the run did left it alone.
    by_cases needless : plan.store = none ∨ prepared.cacheHit = true
    · rw [complete_unsaved needless] at completes
      obtain ⟨rfl, rfl⟩ := Prod.mk.inj completes
      have quiet := (completed_recorded plan u).toConfined
      refine .unsaved ok needless (same.trans (unlogged.same quiet))
        fun store paths given placed plain => ?_
      obtain rfl : prepared.cachePaths = paths := Except.ok.inj (ready.placed.symm.trans placed)
      have hit : prepared.cacheHit = true := by simpa [given] using needless
      have holds := (ready.recalled store given plain.named (plain.direct.of_same same)).mp hit
      exact serves_of_holds (holds.quiet plain.named unlogged quiet) plain.named
    · simp only [not_or, Bool.not_eq_true] at needless
      obtain ⟨there, miss⟩ := needless
      obtain ⟨store, given⟩ := Option.ne_none_iff_exists'.mp there
      rcases saves : store.save prepared.cacheKey prepared.cachePaths u with ⟨answer, t⟩
      rw [complete_saved given miss saves] at completes
      refine .saved given measured rfl ok miss ready.placed same saves completes.symm
        fun written answered plain => ?_
      subst answered
      obtain ⟨-, rfl⟩ := Prod.mk.inj completes
      obtain ⟨holds, closed⟩ := CacheStore.holds_of_save ready.underway.tidy
        (ready.clear.stays store given).stands unlogged plain.named
        (plain.direct.of_same same) plain.unpaired saves
      have quiet := (completed_recorded plan t).toConfined
      exact serves_of_holds (holds.quiet plain.named closed quiet) plain.named

/-! ## Trees without links -/

/-- Without links, a way that never goes up stays below the folder that it begins in. -/
theorem way_within {root : Folder} {links : Nat} {here : Location} {parts : List String}
    (linkless : ∀ location target, root.kind? location ≠ some (.link target))
    (downward : ".." ∉ parts) : ∀ passed ∈ root.way (links + 1) here parts, here <+: passed := by
  induction parts generalizing here with
  | nil =>
    intro passed there
    obtain rfl : passed = here := by simpa [Folder.way, Folder.wayAlong] using there
    exact List.prefix_rfl
  | cons name rest ih =>
    simp only [List.mem_cons, not_or] at downward
    obtain ⟨notUp, downward⟩ := downward
    by_cases dot : name = "."
    · subst dot
      rw [Folder.way_dot]
      exact List.forall_mem_cons.mpr ⟨List.prefix_rfl, ih downward⟩
    · rw [Folder.way_name dot (Ne.symm notUp)]
      refine List.forall_mem_cons.mpr ⟨List.prefix_rfl, List.forall_mem_cons.mpr
        ⟨List.prefix_append here [name], ?_⟩⟩
      split
      · exact fun passed there => (List.prefix_append here [name]).trans (ih downward passed there)
      · next link => exact absurd link (linkless _ _)
      · rintro passed ⟨⟩

/-- Names that begin in other folders of the root keep away from one of them. -/
theorem avoids_of_tops {files : Files} {names : PathName → Prop} {top : String}
    (linkless : ∀ location target, files.root.kind? location ≠ some (.link target))
    (elsewhere : ∀ path, names path → ∃ first rest, path = ⟨.root, first :: rest⟩ ∧
      first ≠ top ∧ first ≠ "." ∧ ".." ∉ first :: rest) : files.Avoids names [top] := by
  intro path named passed there below
  obtain ⟨first, rest, rfl, other, notDot, downward⟩ := elsewhere path named
  change passed ∈ files.root.way 41 [] (first :: rest) at there
  simp only [List.mem_cons, not_or] at downward
  rw [Folder.way_name notDot (Ne.symm downward.1), List.nil_append] at there
  have apart : ¬ [first] <+: passed := fun beside =>
    other (List.cons.inj (List.prefix_of_prefix_length_le beside below (Nat.le_refl 1)
      |>.eq_of_length rfl)).1
  rcases List.mem_cons.mp there with rfl | there
  · simp at below
  rcases List.mem_cons.mp there with rfl | there
  · exact apart List.prefix_rfl
  split at there
  · exact apart (way_within linkless downward.2 passed there)
  · next link => exact linkless _ _ link
  · cases there

/-- A cache right in the root stands where its name tells, unless a link is there. -/
theorem stands_of_top {files : Files} {top : String} (notDot : top ≠ ".") (notUp : top ≠ "..")
    (plain : ∀ target, files.root.kind? [top] ≠ some (.link target)) :
    CacheStore.Stands ⟨⟨.root, [top]⟩⟩ files [top] := by
  intro made location widens opens
  have still (target : String) : made.root.kind? [top] ≠ some (.link target) := by
    intro link
    rcases before : files.root.kind? [top] with _ | kind
    · cases widens.added _ _ before link
    · obtain rfl := Option.some.inj ((widens.grows _ _ before).symm.trans link)
      exact plain target before
  have root : made.root.kind? [] = some .folder := Folder.kind?_nil _
  have atRoot : made.Opens ⟨.root, []⟩ [] := ⟨⟨by decide, .here (root ▸ nofun)⟩, root⟩
  have leads : made.Leads true ((⟨.root, []⟩ : PathName).child top) location := opens.leads
  obtain rfl : location = [top] :=
    leads.direct (by simp [opens.folder]) atRoot notDot notUp still
  refine ⟨opens, fun passed there below => ?_⟩
  change passed ∈ made.root.way 41 [] [top] at there
  rw [Folder.way_name notDot notUp, List.nil_append, opens.folder] at there
  have ways : passed = [] ∨ passed = [top] := by
    simpa [Folder.way, Folder.wayAlong] using there
  rcases ways with rfl | rfl
  · simp at below
  · rfl

/-! ## A first run -/

/-- A plan with a cache for what is built in one folder. -/
def cachedPlan : Plan where
  settings := {
    workdir := .parse "/w"
    build := .settings { command := .text "make", artifact := .text "tool" }
    fixture := .settings { url := .text "http://h/x.log", timeout := .int 60 }
    cache := .settings { paths := [.text "t"] } }
  store := some CacheStore.sampleStore
  skipInstall := true

/-- A world without a cache in which everything succeeds. -/
def firstRun : World where
  files := { root := [("tmp", .folder []), ("w", .folder [])] }
  processes := ⟨[{}, { edits := [.write (.parse "/w/tool") "x".toUTF8 true,
    .write (.parse "/w/t/o") "y".toUTF8 false] }], {}⟩
  replies := ⟨[], .answer 200 ["abc\n".toUTF8] none⟩

/-- Files without links and without a cache, with the root as the current directory. -/
def Bare (files : Files) : Prop :=
  files.current = [] ∧ linkPlacesOf files.root = [] ∧ files.root.kind? ["c"] = none

instance : DecidablePred Bare := fun _ => inferInstanceAs (Decidable (_ ∧ _ ∧ _))

/-- By the kinds of names that a plan writes: each starts at the root and goes into another folder
than that of the cache. -/
theorem cachedPlan_writes {path : PathName} (named : cachedPlan.Writes firstRun path) :
    ∃ first rest, path = ⟨.root, first :: rest⟩ ∧ first ≠ "c" ∧ first ≠ "." ∧
      ".." ∉ first :: rest := by
  cases named with
  | workdir => exact ⟨"w", [], by decide, by decide, by decide, by decide⟩
  | artifact placed =>
    obtain rfl : (⟨.root, ["w", "tool"]⟩ : PathName) = path := Except.ok.inj placed
    exact ⟨"w", ["tool"], rfl, by decide, by decide, by decide⟩
  | @fixture fixture name given named =>
    cases given
    obtain rfl : "x.log" = name := Except.ok.inj named
    exact ⟨"w", ["x.log"], by decide, by decide, by decide, by decide⟩
  | @cached paths path placed around =>
    obtain rfl : [(⟨.root, ["w", "t"]⟩ : PathName)] = paths := Except.ok.inj placed
    obtain ⟨target, among, below | above⟩ := around
    · obtain ⟨rest, downward, rfl⟩ := below
      obtain rfl := List.mem_singleton.mp among
      exact ⟨"w", "t" :: rest, rfl, by decide, by decide, by simpa using downward⟩
    · obtain rfl := List.mem_singleton.mp among
      exact ⟨"w", [], above, by decide, by decide, by decide⟩
  | report =>
    exact ⟨"tmp", ["binbench-hyperfine-XXXXXXXX.json"], by decide, by decide, by decide, by decide⟩

/-- Without links a name leads where it says, and none of the plan's names says the cache. -/
theorem Bare.clear {files : Files} (bare : Bare files) : cachedPlan.Clear firstRun ["c"] files := by
  obtain ⟨current, links, absent⟩ := bare
  have linkless (location : Location) (target : String) :
      files.root.kind? location ≠ some (.link target) := fun link => by
    have among := Folder.mem_linkPlacesOf link
    rw [links] at among
    cases among
  refine ⟨?_, avoids_of_tops linkless fun path => cachedPlan_writes, fun store given => ?_⟩
  · rw [Files.Steady, current]
    exact Folder.kind?_nil _
  · obtain rfl := Option.some.inj given
    refine ⟨stands_of_top (by decide) (by decide) (linkless _), fun there => ?_⟩
    cases absent.symm.trans there

/-- A deed before which and after which the files are bare. -/
def Deed.isBare : Deed → Bool
  | .begins _ files | .ends _ files | .download _ _ files => Bare files
  | .process c limit o files => Bare files && Bare (o.leaves c.argv limit files)

/-- A deed on bare files keeps away from the place, because the plan's names do so there. -/
theorem spares_of_isBare {d : Deed} (bare : Deed.isBare d = true) :
    cachedPlan.Spares firstRun ["c"] d := by
  cases d with
  | process c limit o files =>
    simp only [Deed.isBare, Bool.and_eq_true, decide_eq_true_eq] at bare
    refine ⟨bare.1.clear, bare.2.clear, fun location below => ?_⟩
    rw [Folder.node?_of_vacant bare.1.2.2 below, Folder.node?_of_vacant bare.2.2.2 below]
  | _ => exact (of_decide_eq_true bare).clear

/-- All deeds of the run are on bare files, which is found by looking at them. -/
theorem firstRun_away : cachedPlan.StaysAway ["c"] firstRun (run cachedPlan firstRun).2 where
  reticent _ := .pure _
  tidy := by
    refine .folder ⟨by decide, by decide⟩ ?_
    simp only [firstRun, List.forall_mem_cons]
    exact ⟨.folder ⟨.nil, nofun⟩ nofun, .folder ⟨.nil, nofun⟩ nofun, nofun⟩
  steady := by rw [Files.Steady]; decide
  unlogged := nofun
  spared := by
    have bare : (firstRun.deedsUntil (run cachedPlan firstRun).2).all Deed.isBare := by
      decide +kernel
    exact fun d among => spares_of_isBare (List.all_eq_true.mp bare d among)

/-- The first run saves an entry. -/
theorem run_leaves_firstRun : ∃ report v, run cachedPlan firstRun = (.ok report, v) ∧
    report.ok = true ∧ report.cacheHit = false ∧ cachedPlan.StaysAway ["c"] firstRun v ∧
    Leaves cachedPlan ["c"] firstRun (.ok report) v := by
  have evaluated : (run cachedPlan firstRun).1.toOption.map (fun r => (r.ok, r.cacheHit)) =
      some (true, false) := by decide +kernel
  have away := firstRun_away
  rcases ended : run cachedPlan firstRun with ⟨f | report, v⟩ <;> rw [ended] at evaluated away
  · cases evaluated
  · obtain ⟨ok, miss⟩ := Prod.mk.inj (Option.some.inj evaluated)
    exact ⟨report, v, rfl, ok, miss, away, run_leaves ended away⟩

/-! ## Runs that come near their cache -/

/-- A plan with a working directory that is named through the folder of the cache. -/
def namedThroughCache : Plan :=
  { cachedPlan with
    settings := { cachedPlan.settings with
      workdir := .parse "/c/../w/x"
      checkout := .settings { repo := .text "http://h/r" } } }

/-- A world with nothing in it, where no source can be checked out. -/
def emptyTree : World where
  files := { root := [] }
  processes := ⟨[{ exitCode := 1 }], {}⟩
  replies := ⟨[], .refused .connection ""⟩

/-- A manifest of an entry for the paths of the plan. -/
def cachedManifest (key : String) : Entry :=
  .file (CacheStore.manifestText key ["/w/t"]).toUTF8 false

/-- A world with a manifest outside of the cache, which goes away with the build. -/
def outerManifest (entries : Folder) (folder key : String) : World where
  files := { root := [("c", .folder entries),
    (folder, .folder [("manifest.json", cachedManifest key)]), ("tmp", .folder []),
    ("w", .folder [])] }
  processes := ⟨[{}, { edits := [.write (.parse "/w/tool") "x".toUTF8 true,
    .remove ⟨.root, [folder, "manifest.json"]⟩] }], {}⟩
  replies := ⟨[], .answer 200 ["abc\n".toUTF8] none⟩

/-- A plan with a key that leads out of the cache. -/
def slashedKey : Plan :=
  { cachedPlan with
    settings := { cachedPlan.settings with
      cache := .settings { paths := [.text "t"], keyStart := .text "a/../../m" } } }

/-- A plan with a path in which two halves of a pair are next to each other. -/
def halvesPath : Plan :=
  { cachedPlan with
    settings := { cachedPlan.settings with
      cache := .settings { paths := [.text (String.ofList [Text.charOfEscape 0xD83D,
        Text.charOfEscape 0xDE00])] } } }

/-- Whether a run succeeded, whether it was a hit, and how its paths are restored afterwards. -/
def afterwards (plan : Plan) (w : World) : Option (Bool × Bool × Option Bool) := do
  let report ← (run plan w).1.toOption
  let store ← plan.store
  let paths ← (plan.cachePaths w.homes).toOption
  return (report.ok, report.cacheHit,
    (store.restore report.cacheKey paths (run plan w).2).1.toOption)

/-- A run that fails makes the folder of its cache when its working directory is named through it.
And the next run is a miss, although the cache is left alone, when an entry is a link or has a key
that leads out of the cache, or when halves in a path become one character in the manifest. -/
theorem run_makes_cache :
    ((run namedThroughCache emptyTree).1.toOption.map Report.ok = some false ∧
      emptyTree.files.root.kind? ["c"] = none ∧
      (run namedThroughCache emptyTree).2.files.root.kind? ["c"] = some .folder ∧
      linkPlacesOf (run namedThroughCache emptyTree).2.files.root = [] ∧
      ((run namedThroughCache emptyTree).2.files.place true (.parse "/c/../w/x")).toOption.map
        (·.location) = some ["w", "x"]) ∧
    afterwards cachedPlan (outerManifest [("Linux-cargo-", .link "/m")] "m" "Linux-cargo-") =
      some (true, true, some false) ∧
    afterwards slashedKey (outerManifest [("Linux-a", .folder [])] "m-" "Linux-a/../../m-") =
      some (true, true, some false) ∧
    afterwards halvesPath firstRun = some (true, false, some false) := by
  refine ⟨⟨?_, ?_, ?_, ?_, ?_⟩, ?_, ?_, ?_⟩ <;> decide +kernel

end Run

end BuildBench
