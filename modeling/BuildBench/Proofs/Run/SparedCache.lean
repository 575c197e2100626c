import BuildBench.Proofs.Files.OneLeafChanges
import BuildBench.Proofs.History.Processes
import BuildBench.Proofs.Run.LawsOfParts
import BuildBench.Proofs.Run.Reports

/-!
# A run that stays away from its cache

The processes of a run and the names that it writes to itself may keep away from the folder of its
cache at every moment that the history of the run tells of. Then whatever the run does, this folder
stays as it is until an entry is saved.

Names may lead elsewhere as soon as a process made or removed a link, so it matters at which of the
moments they are known to keep away. Making folders and restoring add to the tree, so names that keep
away in the end did so before; taking away adds nothing, so names that keep away before do so in the
end. Records and processes take both forms.
-/

namespace BuildBench

open BuildBench.Action

/-- The name of a store leads to a location, now or once it is made, and does lead there as soon as
there is a folder. -/
structure CacheStore.Stays (store : CacheStore) (files : Files) (place : Location) : Prop where
  stands : store.Stands files place
  reached : files.root.kind? place = some .folder → store.Sits files place

/-- Location by location. -/
theorem CacheStore.Same.trans {place : Location} {u v w : World} (first : CacheStore.Same place u v)
    (second : CacheStore.Same place v w) : CacheStore.Same place u w :=
  fun location below => (second location below).trans (first location below)

/-- The temporary file that an external program reports to. -/
def World.reportPath (w : World) : PathName :=
  w.temporary.child ("binbench-hyperfine-" ++ w.unique ++ ".json")

/-- Nothing happened but that records were written. -/
structure Recorded (w v : World) : Prop extends Confined nowhere w v, SameTemporary w v

instance : Law Recorded where
  refl w := ⟨Law.refl w, rfl⟩
  trans first second :=
    ⟨Law.trans first.toConfined second.toConfined, second.folder.trans first.folder⟩

/-- The console changes no file, and a log file changes where it is open. -/
theorem record_recorded {F : Fault → Prop} (r : Record) : Keeps Recorded F (record r) := by
  refine record_keeps r fun w handler opened => ⟨emit_confined r opened, ?_⟩
  cases handler with
  | console least =>
    simp only [emit]
    split <;> rfl
  | _ => rfl

namespace Run

variable {α : Type} {plan : Plan} {start w u v : World} {place : Location} {files : Files}

/-- The paths that a run caches. -/
def Plan.cachePaths (plan : Plan) (homes : Homes) : Except Fault (List PathName) := do
  let cache ← plan.settings.cache.given
  cache.paths.mapM (Cache.place homes · plan.settings.workdir)

/-- The names that a run itself makes, fills or removes, apart from its cache. -/
inductive Plan.Writes (plan : Plan) (start : World) : PathName → Prop
  | workdir : Writes plan start plan.settings.workdir
  | artifact {path : PathName} (placed : plan.settings.artifactPath start.homes = .ok path) :
    Writes plan start path
  | fixture {fixture : FixtureSettings} {name : String}
    (given : plan.settings.fixture.given = .ok fixture)
    (named : Fixture.fileName fixture.url = .ok name) :
    Writes plan start (plan.settings.workdir.join (.parse name))
  | cached {paths : List PathName} {path : PathName}
    (placed : plan.cachePaths start.homes = .ok paths) (around : CacheStore.Around paths path) :
    Writes plan start path
  | report : Writes plan start start.reportPath

/-- Files in which the run keeps away from a place, and its store is there. -/
structure Plan.Clear (plan : Plan) (start : World) (place : Location) (files : Files) : Prop where
  steady : files.Steady
  avoids : files.Avoids (plan.Writes start) place
  stays : ∀ store, plan.store = some store → store.Stays files place

/-- A deed that leaves a place alone: the run keeps away from the place before it, and after it if it
is a process, and a process changes nothing there. -/
def Plan.Spares (plan : Plan) (start : World) (place : Location) : Deed → Prop
  | .begins _ files | .ends _ files | .download _ _ files => plan.Clear start place files
  | .process c limit o files =>
    plan.Clear start place files ∧ plan.Clear start place (o.leaves c.argv limit files) ∧
      ∀ location, place <+: location →
        (o.leaves c.argv limit files).root.node? location = files.root.node? location

/-! ## Worlds of a run -/

/-- A world that a run has come to from its start. -/
structure Underway (start : World) (place : Location) (w : World) : Prop extends
    SameHost start w, SameTemporary start w where
  tidy : w.files.Tidy
  steady : w.files.Steady
  unlogged : CacheStore.Unlogged place w

/-- Each part of being underway is kept. -/
theorem Underway.further (underway : Underway start place w) (host : SameHost w v)
    (temporary : SameTemporary w v) (tidy : v.files.Tidy) (steady : v.files.Steady) :
    Underway start place v where
  toSameHost := underway.toSameHost.trans host
  toSameTemporary := Law.trans underway.toSameTemporary temporary
  tidy := tidy
  steady := steady
  unlogged := underway.unlogged.after host

/-- From a world to a later one the place is left alone; names keep away from it before if and only
if they do so afterwards. -/
def BothWays (plan : Plan) (start : World) (place : Location) (w v : World) : Prop :=
  Underway start place w → Underway start place v ∧ CacheStore.Same place w v ∧
    (v.files.Avoids (plan.Writes start) place ↔ w.files.Avoids (plan.Writes start) place)

/-- If names keep away from the place before, they do so afterwards, and the place is left alone. -/
def Forward (plan : Plan) (start : World) (place : Location) (w v : World) : Prop :=
  Underway start place w → w.files.Avoids (plan.Writes start) place →
    Underway start place v ∧ CacheStore.Same place w v ∧
      v.files.Avoids (plan.Writes start) place

/-- If names keep away from the place afterwards, they did so before, and the place is left alone. -/
def Backward (plan : Plan) (start : World) (place : Location) (w v : World) : Prop :=
  Underway start place w → Underway start place v ∧
    (v.files.Avoids (plan.Writes start) place →
      CacheStore.Same place w v ∧ w.files.Avoids (plan.Writes start) place)

instance : Law (BothWays plan start place) where
  refl w := fun underway => ⟨underway, fun _ _ => rfl, Iff.rfl⟩
  trans first second := fun underway => by
    obtain ⟨between, same, iff⟩ := first underway
    obtain ⟨after, sameLater, iffLater⟩ := second between
    exact ⟨after, same.trans sameLater, iffLater.trans iff⟩

instance : Law (Forward plan start place) where
  refl w := fun underway avoids => ⟨underway, fun _ _ => rfl, avoids⟩
  trans first second := fun underway avoids => by
    obtain ⟨between, same, avoids⟩ := first underway avoids
    obtain ⟨after, sameLater, avoids⟩ := second between avoids
    exact ⟨after, same.trans sameLater, avoids⟩

instance : Law (Backward plan start place) where
  refl w := fun underway => ⟨underway, fun avoids => ⟨fun _ _ => rfl, avoids⟩⟩
  trans first second := fun underway => by
    obtain ⟨between, before⟩ := first underway
    obtain ⟨after, beforeLater⟩ := second between
    refine ⟨after, fun avoids => ?_⟩
    obtain ⟨sameLater, avoids⟩ := beforeLater avoids
    obtain ⟨same, avoids⟩ := before avoids
    exact ⟨same.trans sameLater, avoids⟩

/-- The one direction of the two. -/
theorem BothWays.forward (both : BothWays plan start place w v) : Forward plan start place w v :=
  fun underway avoids =>
    have ⟨after, same, iff⟩ := both underway
    ⟨after, same, iff.mpr avoids⟩

/-- The other direction. -/
theorem BothWays.backward (both : BothWays plan start place w v) : Backward plan start place w v :=
  fun underway =>
    have ⟨after, same, iff⟩ := both underway
    ⟨after, fun avoids => ⟨same, iff.mp avoids⟩⟩

/-! ## Along a history -/

/-- What holds from one world to another if every deed in between leaves a place alone. -/
def Through (plan : Plan) (start : World) (place : Location) (P : World → World → Prop)
    (w v : World) : Prop :=
  ∃ ds, Enacted w ds v ∧ ((∀ d ∈ ds, plan.Spares start place d) → P w v)

namespace Through

variable {P Q S : World → World → Prop}

/-- The deeds are the same. -/
theorem mono (through : Through plan start place P w v) (wider : P w v → Q w v) :
    Through plan start place Q w v := by
  obtain ⟨ds, enacted, holds⟩ := through
  exact ⟨ds, enacted, wider ∘ holds⟩

/-- All deeds leave the place alone, so those of either part do. -/
theorem chain (first : Through plan start place P w u) (second : Through plan start place Q u v)
    (joined : P w u → Q u v → S w v) : Through plan start place S w v := by
  obtain ⟨ds, enacted, holds⟩ := first
  obtain ⟨more, later, holdsLater⟩ := second
  refine ⟨ds ++ more, enacted.trans later, fun spared => joined (holds ?_) (holdsLater ?_)⟩
  · exact fun d among => spared d (List.mem_append_left _ among)
  · exact fun d among => spared d (List.mem_append_right _ among)

instance [Law P] : Law (Through plan start place P) where
  refl w := ⟨[], Law.refl (R := Idle) w, fun _ => Law.refl w⟩
  trans first second := first.chain second Law.trans

/-- There are no deeds. -/
theorem of_untouched (untouched : Untouched w v) (holds : P w v) :
    Through plan start place P w v := ⟨[], untouched.enacted, fun _ => holds⟩

end Through

/-- World by world. -/
theorem obeys_mono {P Q : World → World → Prop} {a : Action α}
    (obeys : a.Obeys (Through plan start place P)) (wider : ∀ w v, P w v → Q w v) :
    a.Obeys (Through plan start place Q) :=
  obeys.weaken fun _ _ through => through.mono (wider _ _)

/-! ## Records and processes -/

/-- The same kinds of entries stand everywhere, so names lead where they led. -/
theorem avoids_iff_of_kinds {names : PathName → Prop} (current : v.files.current = w.files.current)
    (kinds : ∀ location, v.files.root.kind? location = w.files.root.kind? location) :
    v.files.Avoids names place ↔ w.files.Avoids names place := by
  have ways : ∀ path, v.files.way path = w.files.way path := fun path =>
    Files.way_congr current fun location _ => kinds location
  simp only [Files.Avoids, ways]

/-- A record changes no kind of entry, and names are followed by kinds only. -/
theorem bothWays_of_recorded (recorded : Recorded w v) : BothWays plan start place w v := by
  intro underway
  have kinds := fun location => recorded.kinds location id
  refine ⟨underway.further recorded.toSameHost recorded.toSameTemporary
    (recorded.tidy underway.tidy) ?_, underway.unlogged.same recorded.toConfined,
    avoids_iff_of_kinds recorded.current kinds⟩
  rw [Files.Steady, recorded.current, kinds]
  exact underway.steady

/-- The files are the same. -/
theorem bothWays_of_sameDisk (host : SameHost w v) (same : SameDisk w v) :
    BothWays plan start place w v := by
  intro underway
  obtain ⟨temporary, files⟩ := same
  refine ⟨underway.further host temporary (files ▸ underway.tidy) (files ▸ underway.steady),
    fun _ _ => by rw [files], by rw [files]⟩

/-- A process that leaves the place alone leaves the run where it keeps away from it. -/
theorem through_of_ran (ran : Ran w v) : Through plan start place (BothWays plan start place) w v := by
  obtain ⟨c, limit, enacted, left⟩ := ran.left
  refine ⟨_, enacted, fun spared underway => ?_⟩
  obtain ⟨before, after, same⟩ := spared _ (List.mem_singleton_self _)
  rw [← left] at after same
  have tidy : v.files.Tidy := left ▸ Outcome.leaves_tidy _ _ _ underway.tidy
  exact ⟨underway.further enacted.toSameHost ran.toSameTemporary tidy after.steady, same,
    iff_of_true after.avoids before.avoids⟩

/-- Records touch no name. A process is a deed, and leaves the place alone by assumption. -/
theorem conduct : Conduct (Through plan start place (BothWays plan start place)) where
  records r w :=
    have recorded := (record_recorded (F := fun _ => False) r w).1
    ⟨.of_untouched recorded.toUntouched (bothWays_of_recorded recorded), fun _ _ => trivial⟩
  processes c w := ⟨through_of_ran (Program.run_ran c w), fun _ _ => trivial⟩
  repetitions command folder env limit w := by
    refine ⟨?_, fun _ _ => trivial⟩
    rcases Timing.repetition_ran command folder env limit w with idle | ran
    · rw [idle]
      exact Law.refl w
    · exact through_of_ran ran

/-- Whatever obeys the stronger law obeys the weaker one. -/
theorem conduct_mono {P : World → World → Prop}
    (wider : ∀ w v, BothWays plan start place w v → P w v) [Law P] :
    Conduct (Through plan start place P) where
  records r := obeys_mono (conduct.records r) wider
  processes c := obeys_mono (conduct.processes c) wider
  repetitions command folder env limit :=
    obeys_mono (conduct.repetitions command folder env limit) wider

/-! ## Stages -/

/-- Names keep away by the kinds of entries, and a record changes none. -/
theorem Plan.Clear.recorded (clear : plan.Clear start place w.files) (recorded : Recorded w v) :
    plan.Clear start place v.files := by
  have kinds := fun location => recorded.kinds location id
  refine ⟨?_, (avoids_iff_of_kinds recorded.current kinds).mpr clear.avoids, fun store given => ?_⟩
  · rw [Files.Steady, recorded.current, kinds]
    exact clear.steady
  · obtain ⟨stands, reached⟩ := clear.stays store given
    refine ⟨stands.logged recorded.toConfined, fun folder => ?_⟩
    exact (reached (kinds place ▸ folder)).confined (recorded.toConfined.mono fun _ => False.elim)

/-- Whoever is told the results of stages does nothing but write records. -/
def Plan.Reticent (plan : Plan) : Prop := ∀ r, (plan.notify r).Obeys Recorded

/-- A result is made and told, and whoever is told writes records only. -/
theorem conclude_recorded (reticent : plan.Reticent) (name : Stage) (began : Float)
    (result : Except Fault α) : (conclude plan name began result).Obeys Recorded := by
  rcases result with f | x
  · cases f with
    | stage s =>
      exact .bind .get fun _ => .bind (.forM fun _ => record_recorded _) fun _ =>
        .bind (record_recorded _) fun _ => .bind (reticent _) fun _ => .pure _
    | _ => exact .throw trivial
  · exact .bind .get fun _ => .bind (record_recorded _) fun _ => .bind (reticent _) fun _ => .pure _

/-- From a world to a later one the place is left alone, and afterwards the run keeps away from it.
-/
def Settles (plan : Plan) (start : World) (place : Location) (w v : World) : Prop :=
  Underway start place w →
    Underway start place v ∧ CacheStore.Same place w v ∧ plan.Clear start place v.files

/-- A stage begins with a record and with its bound, before which the run keeps away by assumption.
-/
theorem begun_settles (name : Stage) (w : World) :
    Through plan start place (Settles plan start place) w (begun name w) := by
  have recorded := (record_recorded (F := fun _ => False)
    ⟨.info, sourceName "pipeline", "==> " ++ name.name⟩ w).1
  change Recorded w (log .info "pipeline" ("==> " ++ name.name) w).2 at recorded
  have begins := begins_enacted name.name (log .info "pipeline" ("==> " ++ name.name) w).2
  refine ⟨_, recorded.toUntouched.enacted.trans begins, fun spared underway => ?_⟩
  have clear := spared _ (List.mem_singleton_self _)
  obtain ⟨between, same, -⟩ :=
    (bothWays_of_recorded recorded : BothWays plan start place w _) underway
  exact ⟨between.further begins.toSameHost ⟨rfl, rfl⟩ between.tidy between.steady, same, clear⟩

/-- What the action of a stage does is between two moments of the history at which the run keeps away
from the place, and the place is left alone until the first of them and after the second. -/
theorem stage_through {P : World → World → Prop} (reticent : plan.Reticent) (name : Stage)
    {action : Action α} {w u t : World} (begins : begun name w = u) (acted : (action u).2 = t)
    (acts : Through plan start place P u t) :
    Through plan start place (fun w v => Settles plan start place w u ∧ P u t ∧
      plan.Clear start place t.files ∧ BothWays plan start place t v ∧
      plan.Clear start place v.files) w (stage plan name action w).2 := by
  have first : Through plan start place (Settles plan start place) w u :=
    begins ▸ begun_settles name w
  rw [stage_run, begins, acted]
  have recorded := (conclude_recorded reticent name u.clock (action u).1
    (passed (.ends name.name) t)).1
  have passes : BothWays plan start place t (passed (.ends name.name) t) :=
    bothWays_of_sameDisk (ends_enacted name.name t).toSameHost ⟨⟨rfl, rfl⟩, rfl⟩
  have ends : Through plan start place (fun t v => plan.Clear start place t.files ∧
      BothWays plan start place t v ∧ plan.Clear start place v.files) t _ :=
    ⟨_, (ends_enacted name.name t).trans recorded.toUntouched.enacted, fun spared =>
      have clear : plan.Clear start place t.files := spared _ (List.mem_singleton_self _)
      ⟨clear, Law.trans passes (bothWays_of_recorded recorded),
        Plan.Clear.recorded (w := passed (.ends name.name) t) clear recorded⟩⟩
  have within : Through plan start place (fun _ v => P u t ∧ plan.Clear start place t.files ∧
      BothWays plan start place t v ∧ plan.Clear start place v.files) u _ := acts.chain ends And.intro
  exact first.chain within And.intro

/-- It is enough that the action of a stage leaves the place alone when the run is known to keep away
from it before and after. -/
theorem stage_settles {P : World → World → Prop} (reticent : plan.Reticent) (name : Stage)
    {action : Action α} (kept : action.Obeys (Through plan start place P))
    (joined : ∀ u t, P u t → Underway start place u → plan.Clear start place u.files →
      plan.Clear start place t.files → Underway start place t ∧ CacheStore.Same place u t)
    (w : World) :
    Through plan start place (Settles plan start place) w (stage plan name action w).2 := by
  refine (stage_through reticent name rfl rfl (kept _).1).mono
    fun ⟨settles, acted, clear, both, settled⟩ underway => ?_
  obtain ⟨before, same, known⟩ := settles underway
  obtain ⟨between, sameActed⟩ := joined _ _ acted before known clear
  obtain ⟨after, sameEnded, -⟩ := both between
  exact ⟨after, (same.trans sameActed).trans sameEnded, settled⟩

/-- The names keep away from the place at the beginning, so they do so at the end. -/
theorem stage_settles_forward (reticent : plan.Reticent) (name : Stage) {action : Action α}
    (kept : action.Obeys (Through plan start place (Forward plan start place))) (w : World) :
    Through plan start place (Settles plan start place) w (stage plan name action w).2 :=
  stage_settles reticent name kept (fun _ _ forward underway clear _ =>
    have ⟨after, same, _⟩ := forward underway clear.avoids
    ⟨after, same⟩) w

/-- The names keep away from the place at the end of the stage, so they did so all along. -/
theorem stage_settles_backward (reticent : plan.Reticent) (name : Stage) {action : Action α}
    (kept : action.Obeys (Through plan start place (Backward plan start place))) (w : World) :
    Through plan start place (Settles plan start place) w (stage plan name action w).2 :=
  stage_settles reticent name kept (fun _ _ backward underway _ clear =>
    have ⟨after, before⟩ := backward underway
    ⟨after, (before clear.avoids).1⟩) w

end Run

end BuildBench
