import BuildBench.Proofs.Cache.HeldEntries
import BuildBench.Proofs.Run.OwnChanges

/-!
# The cache after the stages of a run

The stages of a run leave the place of the cache alone, and in the end the run knows from its
preparation whether the cache holds an entry for its key and its paths: nothing of the cache has
changed since the entry was looked for.
-/

namespace BuildBench

open BuildBench.Action

/-- An action that needs two results needs the second after the first. -/
theorem Action.ofResult_bind {α β : Type} (r : Except Fault α) (next : α → Except Fault β) :
    ofResult (r >>= next) = (ofResult r >>= fun x => ofResult (next x)) := by
  cases r <;> rfl

namespace Run

variable {plan : Plan} {start w u t v : World} {place : Location} {env : Environment}
  {prepared : Prepared}

/-! ## Preparation -/

/-- The part of preparation before the cache: the source is checked out and the key is computed. -/
def source (s : Settings) : Action (Option String × String) := do
  let checkout ← ofResult s.checkout.given
  makeRoom checkout.repo s.workdir
  let revision ← Checkout.checkOut checkout.repo s.workdir checkout.ref checkout.depth
  let key ← workdirKey s
  return (revision, key)

/-- The part of preparation that restores the cache. -/
def askCache (plan : Plan) (revision : Option String) (key : String) : Action Prepared := do
  let homes ← Disk.homes
  let paths ← ofResult (plan.cachePaths homes)
  log .info "prepare" ("Cache key: " ++ key)
  let hit ← restoreCache plan.store key paths
  return ⟨plan.settings.workdir, revision, key, hit, paths⟩

/-- The order of the computations is the same, only grouped in another way. -/
theorem prepare_eq (plan : Plan) :
    prepare plan.settings plan.store = (do
      let (revision, key) ← source plan.settings
      askCache plan revision key) := by
  simp only [prepare, source, askCache, Plan.cachePaths, ofResult_bind, bind_assoc, pure_bind]

/-- Room is made, and the rest checks out and reads. -/
theorem source_backward (plan : Plan) :
    (source plan.settings).Obeys (Through plan start place (Backward plan start place)) := by
  have conduct : Conduct (Through plan start place (Backward plan start place)) :=
    conduct_mono fun _ _ => BothWays.backward
  have keyed : (workdirKey plan.settings).Obeys
      (Through plan start place (Backward plan start place)) := fun w =>
    ⟨(workdirKey_keeps (R := Through plan start place (Backward plan start place))
      (fun level part text w => ⟨(conduct.log level part text w).1, nofun⟩) plan.settings w).1,
      fun _ _ => trivial⟩
  exact .bind (.given _) fun _ => .bind (makeRoom_backward _) fun _ =>
    .bind (conduct.checkOut _ _ _ _) fun _ => .bind keyed fun _ => .pure _

/-- The world in which the cache is asked for a key. -/
def announced (key : String) (w : World) : World :=
  (log .info "prepare" ("Cache key: " ++ key) w).2

/-- The announcement is a record. -/
theorem announced_recorded (key : String) (w : World) : Recorded w (announced key w) :=
  (record_recorded (F := fun _ => False) _ w).1

/-- A record leaves the place alone in either direction. -/
theorem announced_backward (key : String) (w : World) :
    Through plan start place (Backward plan start place) w (announced key w) :=
  have recorded := announced_recorded key w
  .of_untouched recorded.toUntouched (bothWays_of_recorded recorded).backward

/-- The homes are read, and the paths are known from them. -/
theorem askCache_run {revision : Option String} {key : String} {paths : List PathName}
    (placed : plan.cachePaths w.homes = .ok paths) :
    askCache plan revision key w = (do
      let hit ← restoreCache plan.store key paths
      return ⟨plan.settings.workdir, revision, key, hit, paths⟩ : Action Prepared)
        (announced key w) := by
  have homes : Disk.homes w = (.ok w.homes, w) := rfl
  rw [askCache, bind_run, homes]
  dsimp only
  rw [placed, ofResult_ok_bind, bind_run, log_run]
  rfl

/-- Paths that cannot be computed are refused before the cache is asked. -/
theorem askCache_refused {f : Fault} {revision : Option String} {key : String}
    (refused : plan.cachePaths w.homes = .error f) :
    askCache plan revision key w = (.error f, w) := by
  have homes : Disk.homes w = (.ok w.homes, w) := rfl
  rw [askCache, bind_run, homes]
  dsimp only
  rw [refused, bind_run, ofResult_run]

/-- The paths are the same in the world in which the cache is asked. -/
theorem announced_placed {key : String} {paths : List PathName}
    (placed : plan.cachePaths w.homes = .ok paths) :
    plan.cachePaths (announced key w).homes = .ok paths := by
  rw [homes_eq (announced_recorded key w).toSameHost, placed]

/-- By whether the paths can be computed: if so the cache is asked for them. -/
theorem askCache_backward (revision : Option String) (key : String) :
    (askCache plan revision key).Obeys (Through plan start place (Backward plan start place)) := by
  refine fun w => ⟨?_, fun _ _ => trivial⟩
  rcases placed : plan.cachePaths w.homes with f | paths
  · rw [askCache_refused placed]
    exact Law.refl w
  · have restores : Through plan start place (Backward plan start place) (announced key w)
        (restoreCache plan.store key paths (announced key w)).2 :=
      restoreCache_backward (announced_placed placed)
    rw [askCache_run placed, bind_run]
    rcases restored : restoreCache plan.store key paths (announced key w) with ⟨f | hit, v⟩ <;>
      rw [restored] at restores <;> exact Law.trans (announced_backward key w) restores

/-- Preparation found out in a world before its end whether the cache has an entry. -/
def Restored (plan : Plan) (start : World) (place : Location) (prepared : Prepared)
    (w v : World) : Prop :=
  ∃ x, Backward plan start place w x ∧ Backward plan start place x v ∧
    plan.cachePaths x.homes = .ok prepared.cachePaths ∧
    restoreCache plan.store prepared.cacheKey prepared.cachePaths x = (.ok prepared.cacheHit, v)

/-- There are paths, and what is told about them was found out when the cache was asked. -/
theorem askCache_ok {revision : Option String} {key : String}
    (ended : askCache plan revision key w = (.ok prepared, v)) :
    Through plan start place (Restored plan start place prepared) w v := by
  rcases placed : plan.cachePaths w.homes with f | paths
  · exact nomatch (Prod.mk.inj ((askCache_refused placed).symm.trans ended)).1
  rw [askCache_run placed] at ended
  obtain ⟨hit, t, restored, ended⟩ := ok_of_bind_ok ended
  obtain ⟨same, rfl⟩ := Prod.mk.inj ended
  cases same
  have restores : Through plan start place (Backward plan start place) (announced key w)
      (restoreCache plan.store key paths (announced key w)).2 :=
    restoreCache_backward (announced_placed placed)
  rw [restored] at restores
  exact (announced_backward key w).chain restores fun before after =>
    ⟨_, before, after, announced_placed placed, restored⟩

/-- Both parts of preparation leave the place alone. -/
theorem prepare_backward (plan : Plan) :
    (prepare plan.settings plan.store).Obeys
      (Through plan start place (Backward plan start place)) := by
  rw [prepare_eq]
  exact .bind (source_backward plan) fun _ => askCache_backward _ _

/-- The first part leaves the place alone, and the second finds out. -/
theorem prepare_restored (ended : prepare plan.settings plan.store u = (.ok prepared, t)) :
    Through plan start place (Restored plan start place prepared) u t := by
  rw [prepare_eq] at ended
  obtain ⟨⟨revision, key⟩, x, found, ended⟩ := ok_of_bind_ok ended
  have first : Through plan start place (Backward plan start place) u
      (source plan.settings u).2 := (source_backward plan u).1
  rw [found] at first
  exact first.chain (askCache_ok ended) fun earlier ⟨y, before, after, placed, restored⟩ =>
    ⟨y, Law.trans earlier before, after, placed, restored⟩

/-! ## What is known after preparation -/

/-- A world of a run in which it keeps away from the place and knows of its preparation whether the
cache holds an entry for its key and paths. -/
structure Ready (plan : Plan) (start : World) (place : Location) (prepared : Prepared)
    (v : World) : Prop where
  underway : Underway start place v
  clear : plan.Clear start place v.files
  placed : plan.cachePaths start.homes = .ok prepared.cachePaths
  recalled : ∀ store, plan.store = some store → CacheStore.IsKey prepared.cacheKey →
    CacheStore.Direct place prepared.cacheKey v.files →
      (prepared.cacheHit = true ↔
        store.Holds place prepared.cacheKey (prepared.cachePaths.map PathName.display) v)

/-- The store stays at the place, and there is a folder. -/
theorem Plan.Clear.sits {store : CacheStore} (clear : plan.Clear start place v.files)
    (given : plan.store = some store) (folder : v.files.root.kind? place = some .folder) :
    store.Sits v.files place := (clear.stays store given).reached folder

/-- An entry is held in one of two worlds that are the same at the place if it is in the other. -/
theorem Plan.Clear.holds_iff {store : CacheStore} {key : String} {texts : List String}
    (before : plan.Clear start place w.files) (after : plan.Clear start place v.files)
    (given : plan.store = some store) (named : CacheStore.IsKey key)
    (same : CacheStore.Same place w v) :
    store.Holds place key texts w ↔ store.Holds place key texts v := by
  have kinds := same.kind_eq (List.prefix_refl place)
  exact ⟨fun holds => holds.of_same named (after.sits given (kinds ▸ holds.folder)) same,
    fun holds => holds.of_same named (before.sits given (kinds ▸ holds.folder)) same.symm⟩

/-- What was found out holds of the place as it was, and the place is left alone from then on. -/
theorem Restored.ready (restored : Restored plan start place prepared u t)
    (underway : Underway start place u) (clear : plan.Clear start place t.files) :
    CacheStore.Same place u t ∧ Ready plan start place prepared t := by
  obtain ⟨x, before, after, placed, restored⟩ := restored
  obtain ⟨between, before⟩ := before underway
  obtain ⟨ended, after⟩ := after between
  obtain ⟨same, avoids⟩ := after clear.avoids
  refine ⟨(before avoids).1.trans same, ended, clear, homes_eq between.toSameHost ▸ placed,
    fun store given named direct => ?_⟩
  rw [given] at restored
  change store.restore _ _ x = _ at restored
  constructor
  · intro hit
    rw [hit] at restored
    have told := CacheStore.saysList_of_restore (congrArg Prod.fst restored)
    obtain ⟨-, -, ⟨held, -⟩, -, -⟩ := id told
    obtain ⟨location, opens, -⟩ := CacheStore.opens_of_has named (congrArg Prod.fst held)
    have roams := (store.restore_roams prepared.cacheKey prepared.cachePaths x).1
    rw [restored] at roams
    have grows := roams.grows between.tidy between.steady
    have current := roams.current between.tidy
    -- The restore only added to the tree, so the cache is where it is in the end.
    have sits : store.Sits t.files place :=
      (clear.stays store given).stands.sits (opens.of_grows grows current)
    obtain rfl : location = place := (opens.of_grows grows current).unique sits.opens
    have sitsThen : store.Sits x.files location :=
      ⟨opens, fun passed there => sits.clear passed (Files.way_mono grows current _ there)⟩
    exact (told.holds sitsThen named (direct.of_same same.symm)).of_same named sits same
  · -- A restore that misses changes nothing that the entry depends on, so it would have been a hit.
    intro holds
    refine Bool.of_not_eq_false fun miss => ?_
    rw [miss] at restored
    have quiet := CacheStore.restore_miss_confined restored
    have sits : store.Sits t.files place := clear.sits given holds.folder
    have sitsThen : store.Sits x.files place := sits.grows
      (fun location _ held => (quiet.kinds location id).symm.trans held) quiet.current.symm
    exact (holds.of_same named sitsThen same.symm).acceptsOnly.ne_miss (congrArg Prod.fst restored)

/-- The place is the same, so the cache has an entry there or not as before. -/
theorem Ready.settles (ready : Ready plan start place prepared w)
    (settles : Settles plan start place w v) :
    CacheStore.Same place w v ∧ Ready plan start place prepared v := by
  obtain ⟨underway, same, clear⟩ := settles ready.underway
  refine ⟨same, underway, clear, ready.placed, fun store given named direct => ?_⟩
  rw [ready.recalled store given named (direct.of_same same.symm)]
  exact ready.clear.holds_iff clear given named same

/-! ## Stage after stage -/

/-- The run comes from one world to another that it is ready in, and leaves the place alone. -/
def Readies (plan : Plan) (start : World) (place : Location) (prepared : Prepared)
    (w v : World) : Prop :=
  Underway start place w → CacheStore.Same place w v ∧ Ready plan start place prepared v

/-- One step more leaves the place alone and the run ready. -/
theorem Readies.settles (readies : Readies plan start place prepared w u)
    (settles : Settles plan start place u v) : Readies plan start place prepared w v :=
  fun underway =>
    have ⟨before, ready⟩ := readies underway
    have ⟨after, readyLater⟩ := ready.settles settles
    ⟨before.trans after, readyLater⟩

/-- It writes records only. -/
theorem checkSettings_bothWays (s : Settings) :
    (checkSettings s).Obeys (Through plan start place (BothWays plan start place)) :=
  checkSettings_keeps s conduct.records

/-- It reads and computes. -/
theorem environment_bothWays (s : Settings) :
    (environment s).Obeys (Through plan start place (BothWays plan start place)) :=
  .bind .get fun _ => .bind (.given _) fun _ => .bind Disk.homes_asks.obeys fun _ =>
    .bind (.given _) fun _ => .given _

/-- The settings are checked, and the environment is made. -/
theorem Starts.bothWays (starts : Starts plan w env v) :
    Through plan start place (BothWays plan start place) w v := by
  obtain ⟨u, checked, merged⟩ := starts
  have first : Through plan start place (BothWays plan start place) w
      (checkSettings plan.settings w).2 := (checkSettings_bothWays _ w).1
  have second : Through plan start place (BothWays plan start place) u
      (environment plan.settings u).2 := (environment_bothWays _ u).1
  rw [checked] at first
  rw [merged] at second
  exact Law.trans first second

/-- The run comes from one world to another and leaves the place alone. -/
def Alone (start : World) (place : Location) (w v : World) : Prop :=
  Underway start place w → Underway start place v ∧ CacheStore.Same place w v

/-- Where the names keep away does not matter. -/
theorem BothWays.alone (both : BothWays plan start place w v) : Alone start place w v :=
  fun underway =>
    have ⟨after, same, _⟩ := both underway
    ⟨after, same⟩

/-- First in the one way, then in the other: the place is left alone in both. -/
theorem BothWays.alone_of_settles (both : BothWays plan start place w u)
    (settles : Settles plan start place u v) : Alone start place w v := fun underway =>
  have ⟨between, same, _⟩ := both underway
  have ⟨after, sameLater, _⟩ := settles between
  ⟨after, same.trans sameLater⟩

section Stages

variable {α : Type} {results : List StageResult} {r : StageResult} {product : Artifact.Built}
  {m : Measurement} {report : Report}

/-- The stage gave a preparation, so its action did, and ended ready. -/
theorem Prepares.readies (reticent : plan.Reticent)
    (prepares : Prepares plan w env r (some prepared) v) :
    Through plan start place (Readies plan start place prepared) w v := by
  obtain ⟨u, starts, staged⟩ := prepares
  have acted := (stage_ok staged).concludes.1
  obtain rfl : (stage plan .prepare (prepare plan.settings plan.store) u).2 = v := by rw [staged]
  rcases ended : prepare plan.settings plan.store (begun .prepare u) with ⟨result, t⟩
  rw [ended] at acted
  dsimp only at acted
  subst acted
  have restores : Through plan start place (Restored plan start place prepared)
      (begun .prepare u) t := prepare_restored ended
  have within := stage_through reticent .prepare rfl (congrArg Prod.snd ended) restores
  refine starts.bothWays.chain within fun first ⟨settles, restored, clear, both, after⟩ underway => ?_
  obtain ⟨before, same, -⟩ := first underway
  obtain ⟨between, sameBegun, -⟩ := settles before
  obtain ⟨sameActed, ready⟩ := restored.ready between clear
  obtain ⟨sameEnded, readyLater⟩ := ready.settles fun known =>
    have ⟨underway, same, _⟩ := both known
    ⟨underway, same, after⟩
  exact ⟨((same.trans sameBegun).trans sameActed).trans sameEnded, readyLater⟩

/-- A preparation is made for the working directory of the settings. -/
theorem Prepares.workdir_eq (prepares : Prepares plan w env r (some prepared) v) :
    prepared.workdir = plan.settings.workdir := by
  obtain ⟨u, -, staged⟩ := prepares
  exact prepare_workdir (Prod.ext (stage_ok staged).concludes.1 rfl)

/-! ## The whole run -/

/-- The report of a run in which all stages succeeded. -/
def wholeReport (plan : Plan) (prepared : Prepared) (results : List StageResult)
    (product : Artifact.Built) (m : Measurement) : Report :=
  { preparedReport plan prepared results with
    artifact := some product.artifact, measurement := some m }

/-- What is left to a run after its stages. -/
def complete (plan : Plan) (prepared : Prepared) (report : Report) : Action Report := do
  saveCache plan prepared
  log .info "pipeline" ("Pipeline '" ++ plan.settings.name.display ++ "' completed")
  return report

/-- How far a run comes. -/
inductive Goes (plan : Plan) (place : Location) (w : World) : Except Fault Report → World → Prop
  /-- Preparation does not succeed. -/
  | unprepared {result : Except Fault Report} {v : World}
    (alone : Through plan w place (Alone w place) w v)
    (reports : ∀ report, result = .ok report → report.ok = false ∧ report.cacheKey = "") :
    Goes plan place w result v
  /-- A later stage does not succeed. -/
  | unfinished {prepared : Prepared} {result : Except Fault Report} {v : World}
    (readies : Through plan w place (Readies plan w place prepared) w v)
    (reports : ∀ report, result = .ok report → report.ok = false ∧
      report.cacheKey = prepared.cacheKey ∧ report.cacheHit = prepared.cacheHit) :
    Goes plan place w result v
  /-- All stages succeed. -/
  | finished {env : Environment} {prepared : Prepared} {product : Artifact.Built}
    {results : List StageResult} {r : StageResult} {m : Measurement} {u v : World}
    {result : Except Fault Report}
    (readies : Through plan w place (Readies plan w place prepared) w u)
    (measured : Measures plan w env prepared product results r (some m) u)
    (completes : complete plan prepared (wholeReport plan prepared (results ++ [r]) product m) u =
      (result, v)) : Goes plan place w result v

/-- A report is all right only if all of its stages are. -/
theorem not_ok_of_mem (among : r ∈ report.stages) (refused : r.ok = false) :
    report.ok = false := by
  refine Bool.eq_false_iff.mpr fun ok => ?_
  simp only [Report.ok, Bool.and_eq_true, List.all_eq_true] at ok
  rw [ok.2 r among] at refused
  cases refused

/-- A stage after preparation ends the run, or the run goes on with what it gave. -/
theorem Goes.stage {name : Stage} {action : Action α}
    {next : StageResult × Option α → Action Report}
    (readies : Through plan w place (Readies plan w place prepared) w t)
    (settles : Through plan w place (Settles plan w place) t (stage plan name action t).2)
    (failed : ∀ r, ∃ report, next (r, none) = pure report ∧ r ∈ report.stages ∧
      report.cacheKey = prepared.cacheKey ∧ report.cacheHit = prepared.cacheHit)
    (passed : ∀ r x u, Run.stage plan name action t = (.ok (r, some x), u) →
      Through plan w place (Readies plan w place prepared) w u →
        Goes plan place w (next (r, some x) u).1 (next (r, some x) u).2) :
    Goes plan place w ((Run.stage plan name action >>= next) t).1
      ((Run.stage plan name action >>= next) t).2 := by
  have later : Through plan w place (Readies plan w place prepared) w
      (Run.stage plan name action t).2 := readies.chain settles Readies.settles
  rw [bind_run]
  rcases staged : Run.stage plan name action t with ⟨f | ⟨r, _ | x⟩, u⟩ <;> rw [staged] at later <;>
    dsimp only
  · exact .unfinished later fun _ same => nomatch same
  · obtain ⟨report, ended, among, key, hit⟩ := failed r
    rw [ended]
    refine .unfinished later fun other same => ?_
    obtain rfl : report = other := Except.ok.inj same
    exact ⟨not_ok_of_mem among (stage_ok staged).ok_eq, key, hit⟩
  · exact passed r x u staged later

/-- Stage by stage: a run that stops has left the place alone, and one that comes to its end is
ready. -/
theorem fromInstall_goes (reticent : plan.Reticent)
    (prepares : Prepares plan w env r (some prepared) t) :
    Goes plan place w (fromInstall plan env (preparedReport plan prepared [r]) prepared t).1
      (fromInstall plan env (preparedReport plan prepared [r]) prepared t).2 := by
  have workdir := prepares.workdir_eq
  have installs : Through plan w place (Settles plan w place) t
      (stage plan .install (installStage plan env) t).2 :=
    stage_settles_forward reticent .install (conduct_forward.installStage plan env) t
  have builds (u : World) : Through plan w place (Settles plan w place) u
      (stage plan .build (buildStage plan.settings prepared.workdir env) u).2 :=
    stage_settles_forward reticent .build (buildStage_forward plan prepared.workdir env) u
  have measures (artifact : PathName) (u : World) : Through plan w place (Settles plan w place) u
      (stage plan .measure
        (measureStage plan.settings artifact prepared.workdir env) u).2 := by
    rw [workdir]
    exact stage_settles_forward reticent .measure (measureStage_forward artifact env) u
  refine .stage (prepares.readies reticent) installs (fun r => ⟨_, rfl, ?_, rfl, rfl⟩)
    fun r₂ _ t₂ staged readies => ?_
  · exact List.mem_append_right _ (List.mem_singleton_self _)
  have installed : Installs plan w env prepared [r] r₂ (some ()) t₂ := ⟨r, t, rfl, prepares, staged⟩
  refine .stage readies (builds t₂) (fun r => ⟨_, rfl, ?_, rfl, rfl⟩)
    fun r₃ product t₃ staged readies => ?_
  · exact List.mem_append_right _ (List.mem_singleton_self _)
  have built : Builds plan w env prepared [r, r₂] r₃ (some product) t₃ :=
    ⟨[r], r₂, t₂, rfl, installed, staged⟩
  refine .stage readies (measures _ t₃) (fun r => ⟨_, rfl, ?_, rfl, rfl⟩)
    fun r₄ m t₄ staged readies => ?_
  · exact List.mem_append_right _ (List.mem_singleton_self _)
  exact .finished readies ⟨[r, r₂], r₃, t₃, rfl, built, staged⟩ rfl

/-- The checks come first, then the preparation, and then the other stages. -/
theorem run_goes (reticent : plan.Reticent) (w : World) :
    Goes plan place w (run plan w).1 (run plan w).2 := by
  have checks : Through plan w place (BothWays plan w place) w
      (checkSettings plan.settings w).2 := (checkSettings_bothWays _ w).1
  rw [run, bind_run]
  rcases checked : checkSettings plan.settings w with ⟨f | _, u⟩ <;> rw [checked] at checks <;>
    dsimp only
  · exact .unprepared (checks.mono BothWays.alone) fun _ same => (by cases same)
  have merges : Through plan w place (BothWays plan w place) u
      (environment plan.settings u).2 := (environment_bothWays _ u).1
  rw [bind_run]
  rcases merged : environment plan.settings u with ⟨f | env, u'⟩ <;> rw [merged] at merges <;>
    dsimp only
  · exact .unprepared ((Law.trans checks merges).mono BothWays.alone) fun _ same => (by cases same)
  have starts : Starts plan w env u' := ⟨u, checked, merged⟩
  have settles : Through plan w place (Settles plan w place) u'
      (stage plan .prepare (prepare plan.settings plan.store) u').2 :=
    stage_settles_backward reticent .prepare (prepare_backward plan) u'
  have alone : Through plan w place (Alone w place) w
      (stage plan .prepare (prepare plan.settings plan.store) u').2 :=
    starts.bothWays.chain settles BothWays.alone_of_settles
  rw [bind_run]
  rcases staged : stage plan .prepare (prepare plan.settings plan.store) u'
    with ⟨f | ⟨r, _ | prepared⟩, t⟩ <;> rw [staged] at alone <;> dsimp only
  · exact .unprepared alone fun _ same => (by cases same)
  · refine .unprepared alone fun report same => ?_
    obtain rfl := Except.ok.inj same
    exact ⟨not_ok_of_mem (List.mem_singleton_self r) (stage_ok staged).ok_eq, rfl⟩
  · exact fromInstall_goes reticent ⟨u', starts, staged⟩

end Stages

end Run

end BuildBench
