import BuildBench.Proofs.Run.FailFast

/-!
# What a report says

A run that gives a report went through its stages in order, up to the first one that failed. `Course`
tells at which of them it ended, and with which calls it came there; everything that a report says
is read off it. Who is told the results of stages may do anything to the world: no result of a stage
depends on what it returns.
-/

namespace BuildBench

open BuildBench.Action

variable {α : Type}

namespace Report

/-- Whether a stage is in a report as one that succeeded. -/
def Passes (report : Report) (s : Stage) : Prop := ∃ r ∈ report.stages, r.name = s.name ∧ r.ok

/-- What the parts of a report say about each other. -/
structure Consistent (report : Report) : Prop where
  nonempty : report.stages ≠ []
  ordered : report.stages.map (·.name) <+: Stage.all.map Stage.name
  passed : ∀ r ∈ report.stages.dropLast, r.ok
  ok_iff : report.ok ↔ ∀ s, report.Passes s
  failedStage_iff : report.failedStage = none ↔ report.ok
  cacheKey_iff : report.cacheKey ≠ "" ↔ report.Passes .prepare
  artifact_iff : report.artifact.isSome ↔ report.Passes .build
  measurement_iff : report.measurement.isSome ↔ report.ok
  exitCode_iff : report.exitCode = 0 ↔ report.ok
  exitCode_pos : ¬ report.ok → 0 < report.exitCode

/-- A report of stages that all succeeded so far. -/
structure Reaches (report : Report) (done : List Stage) : Prop where
  names : report.stages.map (·.name) = done.map Stage.name
  passed : ∀ r ∈ report.stages, r.ok
  cacheKey : report.cacheKey ≠ "" ↔ .prepare ∈ done
  artifact : report.artifact.isSome ↔ .build ∈ done
  measurement : report.measurement.isSome ↔ .measure ∈ done

/-- Four stages, four names. -/
theorem name_injective {s t : Stage} (same : s.name = t.name) : s = t := by
  cases s <;> cases t <;> first | rfl | exact absurd same (by decide)

/-- Passed stages are told by their names, and no two stages have the same one. -/
theorem Reaches.passes_iff {report : Report} {done : List Stage} (reaches : report.Reaches done)
    (s : Stage) : report.Passes s ↔ s ∈ done := by
  have among : s.name ∈ report.stages.map (·.name) ↔ s ∈ done := by
    rw [reaches.names, List.mem_map]
    exact ⟨fun ⟨t, here, same⟩ => name_injective same ▸ here, fun here => ⟨s, here, rfl⟩⟩
  rw [← among, List.mem_map]
  exact ⟨fun ⟨r, here, same, _⟩ => ⟨r, here, same⟩,
    fun ⟨r, here, same⟩ => ⟨r, here, same, reaches.passed r here⟩⟩

/-- Stages that come first and end with measurement are all stages. -/
theorem eq_all_of_mem_measure {done : List Stage} (order : done <+: Stage.all)
    (last : .measure ∈ done) : done = Stage.all := by
  obtain ⟨later, whole⟩ := order
  match done, later with
  | [_, _, _, _], [] => simpa using whole
  | [], _ | [_], _ | [_, _], _ | [_, _, _], _ => simp_all [Stage.all]
  | [_, _, _, _], _ :: _ | _ :: _ :: _ :: _ :: _ :: _, _ => simp [Stage.all] at whole

/-- The exit code of a failed stage is shown as it is if it is positive, and as one otherwise. -/
theorem exitCode_pos_of_failed {report : Report} {failed : StageResult}
    (found : report.failedStage = some failed) : 0 < report.exitCode := by
  rw [exitCode, found]
  dsimp only
  split
  · next positive => exact positive
  · decide

/-- A report that ends with a stage that failed. -/
theorem Reaches.consistent_of_failed {report : Report} {done : List Stage}
    {before : List StageResult} {failed : StageResult}
    (reaches : Reaches { report with stages := before } done)
    (stages : report.stages = before ++ [failed]) {s : Stage} (order : done ++ [s] <+: Stage.all)
    (named : failed.name = s.name) (refused : failed.ok = false) : report.Consistent := by
  have found : report.failedStage = some failed :=
    Run.failedStage_of_failed stages reaches.passed refused
  have notOk : report.ok = false := Run.not_ok_of_failed found
  have passes : ∀ t, report.Passes t ↔ t ∈ done := by
    intro t
    rw [← reaches.passes_iff, Passes, stages]
    constructor
    · rintro ⟨r, among, same, ok⟩
      rcases List.mem_append.mp among with here | there
      · exact ⟨r, here, same, ok⟩
      · rw [List.mem_singleton.mp there, refused] at ok
        cases ok
    · exact fun ⟨r, among, same, ok⟩ => ⟨r, List.mem_append_left _ among, same, ok⟩
  have unfinished : .measure ∉ done := by
    intro last
    have all := eq_all_of_mem_measure ((List.prefix_append _ _).trans order) last
    have longer := order.length_le
    rw [all, List.length_append, List.length_singleton] at longer
    omega
  refine ⟨by simp [stages], ?_, by simpa [stages] using reaches.passed, ?_, by simp [found, notOk],
    ?_, ?_, ?_, ?_, fun _ => exitCode_pos_of_failed found⟩
  · have names := List.IsPrefix.map Stage.name order
    rw [List.map_append, ← reaches.names, List.map_singleton, ← named] at names
    simpa [stages] using names
  · simpa only [notOk, Bool.false_eq_true, passes, false_iff] using fun all => unfinished (all _)
  · exact reaches.cacheKey.trans (passes _).symm
  · exact reaches.artifact.trans (passes _).symm
  · simpa [notOk] using fun measured => unfinished (reaches.measurement.mp measured)
  · have positive := exitCode_pos_of_failed found
    simp only [notOk, Bool.false_eq_true, iff_false]
    omega

/-- A report of stages that all succeeded. -/
theorem Reaches.consistent {report : Report} (reaches : report.Reaches Stage.all) :
    Consistent report := by
  have count : report.stages.length = Stage.all.length := by
    simpa using congrArg List.length reaches.names
  have ok : report.ok := by
    simpa [Report.ok, count] using reaches.passed
  have all : ∀ s : Stage, s ∈ Stage.all := by
    intro s
    cases s <;> decide
  have none : report.failedStage = none := by simpa [failedStage] using reaches.passed
  refine ⟨?_, reaches.names ▸ List.prefix_rfl,
    fun r among => reaches.passed r (List.dropLast_subset _ among), ?_, by simp [none, ok], ?_, ?_,
    ?_, ?_, fun not => absurd ok not⟩
  · rw [ne_eq, ← List.length_eq_zero_iff, count]
    decide
  · simpa [ok] using fun s => (reaches.passes_iff s).mpr (all s)
  · exact reaches.cacheKey.trans (reaches.passes_iff _).symm
  · exact reaches.artifact.trans (reaches.passes_iff _).symm
  · simpa [ok] using reaches.measurement.mpr (all _)
  · simp [exitCode, none, ok]

end Report

/-! ## The key of the cache -/

/-- A key has hyphens between its parts, whatever the parts are. -/
theorem Cache.key_ne_empty {label digest key : String} {start : Value}
    (made : Cache.key label start digest = .ok key) : key ≠ "" := by
  unfold Cache.key at made
  rcases read : start.textOf with f | text <;> rw [read] at made <;> cases made
  intro empty
  simpa using congrArg String.length empty

/-- Whether any lock file was found or not, the key is made of parts. -/
theorem workdirKey_ne_empty {s : Settings} {key : String} {w v : World}
    (made : workdirKey s w = (.ok key, v)) : key ≠ "" := by
  obtain ⟨_, _, -, made⟩ := ok_of_bind_ok made
  obtain ⟨digest, _, -, made⟩ := ok_of_bind_ok made
  have keyed : ∀ {label start digest} {u : World},
      ofResult (Cache.key label start digest) u = (.ok key, v) → key ≠ "" := by
    intro label start digest u same
    rw [ofResult_run] at same
    exact Cache.key_ne_empty (Prod.mk.inj same).1
  dsimp only at made
  split at made
  · obtain ⟨_, _, -, made⟩ := ok_of_bind_ok made
    obtain ⟨_, _, -, made⟩ := ok_of_bind_ok made
    exact keyed made
  · obtain ⟨_, _, -, made⟩ := ok_of_bind_ok made
    exact keyed made

/-- The key of a preparation is the one that was computed for its working directory. -/
theorem prepare_key_ne_empty {s : Settings} {store : Option CacheStore} {prepared : Prepared}
    {w v : World} (ended : prepare s store w = (.ok prepared, v)) : prepared.cacheKey ≠ "" := by
  obtain ⟨_, _, -, ended⟩ := ok_of_bind_ok ended
  obtain ⟨_, _, -, ended⟩ := ok_of_bind_ok ended
  obtain ⟨_, _, -, ended⟩ := ok_of_bind_ok ended
  obtain ⟨key, _, made, ended⟩ := ok_of_bind_ok ended
  obtain ⟨_, _, -, ended⟩ := ok_of_bind_ok ended
  obtain ⟨_, _, -, ended⟩ := ok_of_bind_ok ended
  obtain ⟨_, _, -, ended⟩ := ok_of_bind_ok ended
  obtain ⟨_, _, -, ended⟩ := ok_of_bind_ok ended
  obtain ⟨_, _, -, ended⟩ := ok_of_bind_ok ended
  cases (Prod.mk.inj ended).1
  exact workdirKey_ne_empty made

namespace Run

/-! ## The course of a run -/

/-- The world in which a stage begins its work. -/
def begun (name : Stage) (w : World) : World :=
  passed (.begins name.name) (log .info "pipeline" ("==> " ++ name.name) w).2

/-- A stage gave a result: its action ended, and the result was told after some records. -/
structure Told (plan : Plan) (name : Stage) (action : Action α) (w : World) (r : StageResult)
    (value : Option α) (v : World) : Prop where
  concludes : Concludes name (action (begun name w)).1 (.ok (r, value))
  notified : ∃ u, Logged (passed (.ends name.name) (action (begun name w)).2) u ∧
    plan.notify r u = (.ok (), v)

/-- By how the action came out. There are only records between its end and the callback. -/
theorem conclude_ok {plan : Plan} {name : Stage} {start : Float} {result : Except Fault α}
    {w v : World} {r : StageResult} {value : Option α}
    (ended : conclude plan name start result w = (.ok (r, value), v)) :
    Concludes name result (.ok (r, value)) ∧ ∃ u, Logged w u ∧ plan.notify r u = (.ok (), v) := by
  rcases result with f | x
  · cases f with
    | stage s =>
      obtain ⟨_, _, same, ended⟩ := ok_of_bind_ok ended
      obtain ⟨-, rfl⟩ := Prod.mk.inj (get_run w ▸ same)
      obtain ⟨_, t, output, ended⟩ := ok_of_bind_ok ended
      obtain ⟨_, u, failure, ended⟩ := ok_of_bind_ok ended
      obtain ⟨_, _, told, ended⟩ := ok_of_bind_ok ended
      obtain ⟨same, rfl⟩ := Prod.mk.inj ended
      obtain ⟨rfl, rfl⟩ := Prod.mk.inj (Except.ok.inj same)
      have first := (logOutput_onlyLogs .error "pipeline" s.output w).1
      have second := (log_onlyLogs .error "pipeline" ("Stage '" ++ name.name ++ "' failed (" ++
        s.kind.name ++ " error): " ++ s.message) t).1
      rw [output] at first
      rw [failure] at second
      exact ⟨⟨s, _, rfl, rfl⟩, u, Law.trans first second, told⟩
    | _ => exact absurd ended throw_not_ok
  · obtain ⟨now, _, same, ended⟩ := ok_of_bind_ok ended
    obtain ⟨-, rfl⟩ := Prod.mk.inj (get_run w ▸ same)
    obtain ⟨_, u, success, ended⟩ := ok_of_bind_ok ended
    obtain ⟨_, _, told, ended⟩ := ok_of_bind_ok ended
    obtain ⟨same, rfl⟩ := Prod.mk.inj ended
    obtain ⟨rfl, rfl⟩ := Prod.mk.inj (Except.ok.inj same)
    have logged := (log_onlyLogs .info "pipeline" ("Stage '" ++ name.name ++ "' finished in " ++
      Decimal.fixed 1 (now.clock - start) ++ "s") w).1
    rw [success] at logged
    exact ⟨⟨rfl, _, rfl⟩, u, logged, told⟩

/-- By definition: it begins, acts, and concludes with what came out. -/
theorem stage_run (plan : Plan) (name : Stage) (action : Action α) (w : World) :
    stage plan name action w =
      conclude plan name (begun name w).clock (action (begun name w)).1
        (passed (.ends name.name) (action (begun name w)).2) := rfl

/-- A stage that gives a result back has reached its end, where the result is made. -/
theorem stage_ok {plan : Plan} {name : Stage} {action : Action α} {w v : World} {r : StageResult}
    {value : Option α} (ended : stage plan name action w = (.ok (r, value), v)) :
    Told plan name action w r value v := by
  rw [stage_run] at ended
  obtain ⟨concludes, notified⟩ := conclude_ok ended
  exact ⟨concludes, notified⟩

/-- The result was made under the name of the stage. -/
theorem Told.name_eq {plan : Plan} {name : Stage} {action : Action α} {w v : World}
    {r : StageResult} {value : Option α} (told : Told plan name action w r value v) :
    r.name = name.name := told.concludes.name_eq

/-- A stage is all right exactly if it has a value. -/
theorem Told.ok_eq {plan : Plan} {name : Stage} {action : Action α} {w v : World}
    {r : StageResult} {value : Option α} (told : Told plan name action w r value v) :
    r.ok = value.isSome := by
  rcases value with _ | x
  · obtain ⟨s, seconds, -, rfl⟩ := told.concludes
    rfl
  · obtain ⟨-, seconds, rfl⟩ := told.concludes
    rfl

/-! Each of the next four says that a run came to the end of a stage with a result and perhaps a
value, in some world, and through which calls. -/

def Starts (plan : Plan) (w : World) (env : Environment) (v : World) : Prop :=
  ∃ u, checkSettings plan.settings w = (.ok (), u) ∧ environment plan.settings u = (.ok env, v)

def Prepares (plan : Plan) (w : World) (env : Environment) (r : StageResult)
    (value : Option Prepared) (v : World) : Prop :=
  ∃ u, Starts plan w env u ∧
    stage plan .prepare (prepare plan.settings plan.store) u = (.ok (r, value), v)

def Installs (plan : Plan) (w : World) (env : Environment) (prepared : Prepared)
    (results : List StageResult) (r : StageResult) (value : Option Unit) (v : World) : Prop :=
  ∃ first u, results = [first] ∧ Prepares plan w env first (some prepared) u ∧
    stage plan .install (installStage plan env) u = (.ok (r, value), v)

def Builds (plan : Plan) (w : World) (env : Environment) (prepared : Prepared)
    (results : List StageResult) (r : StageResult) (value : Option Artifact.Built) (v : World) :
    Prop :=
  ∃ before last u, results = before ++ [last] ∧
    Installs plan w env prepared before last (some ()) u ∧
    stage plan .build (buildStage plan.settings prepared.workdir env) u = (.ok (r, value), v)

def Measures (plan : Plan) (w : World) (env : Environment) (prepared : Prepared)
    (product : Artifact.Built) (results : List StageResult) (r : StageResult)
    (value : Option Measurement) (v : World) : Prop :=
  ∃ before last u, results = before ++ [last] ∧
    Builds plan w env prepared before last (some product) u ∧
    stage plan .measure (measureStage plan.settings product.artifact prepared.workdir env) u =
      (.ok (r, value), v)

/-- What a report says of preparation. -/
def preparedReport (plan : Plan) (prepared : Prepared) (results : List StageResult) : Report where
  name := plan.settings.name
  stages := results
  cacheKey := prepared.cacheKey
  cacheHit := prepared.cacheHit
  revision := prepared.revision

/-- A run that gives a report ended at one of its stages, or after all of them. -/
inductive Course (plan : Plan) (w : World) : Report → World → Prop
  | prepare {env : Environment} {r : StageResult} {v : World}
    (failed : Prepares plan w env r none v) :
    Course plan w { name := plan.settings.name, stages := [r] } v
  | install {env : Environment} {prepared : Prepared} {results : List StageResult}
    {r : StageResult} {v : World} (failed : Installs plan w env prepared results r none v) :
    Course plan w (preparedReport plan prepared (results ++ [r])) v
  | build {env : Environment} {prepared : Prepared} {results : List StageResult}
    {r : StageResult} {v : World} (failed : Builds plan w env prepared results r none v) :
    Course plan w (preparedReport plan prepared (results ++ [r])) v
  | measure {env : Environment} {prepared : Prepared} {product : Artifact.Built}
    {results : List StageResult} {r : StageResult} {v : World}
    (failed : Measures plan w env prepared product results r none v) :
    Course plan w { preparedReport plan prepared (results ++ [r]) with
      artifact := some product.artifact } v
  | whole {env : Environment} {prepared : Prepared} {product : Artifact.Built}
    {results : List StageResult} {r : StageResult} {m : Measurement} {u v : World}
    (passed : Measures plan w env prepared product results r (some m) u)
    (saved : Untouched u v) :
    Course plan w { preparedReport plan prepared (results ++ [r]) with
      artifact := some product.artifact, measurement := some m } v

/-- Each stage that gave a value is followed by the next one, and each that gave none by the report.
-/
theorem run_course {plan : Plan} {w v : World} {report : Report}
    (ended : run plan w = (.ok report, v)) : Course plan w report v := by
  obtain ⟨_, u, checked, ended⟩ := ok_of_bind_ok ended
  obtain ⟨env, u', merged, ended⟩ := ok_of_bind_ok ended
  obtain ⟨⟨r, value⟩, t, staged, ended⟩ := ok_of_bind_ok ended
  have prepares : Prepares plan w env r value t := ⟨u', ⟨u, checked, merged⟩, staged⟩
  rcases value with _ | prepared
  · obtain ⟨same, rfl⟩ := Prod.mk.inj ended
    cases same
    exact .prepare prepares
  obtain ⟨⟨r₂, value⟩, t₂, staged, ended⟩ := ok_of_bind_ok ended
  have installs : Installs plan w env prepared [r] r₂ value t₂ := ⟨r, t, rfl, prepares, staged⟩
  rcases value with _ | ⟨⟨⟩⟩
  · obtain ⟨same, rfl⟩ := Prod.mk.inj ended
    cases same
    exact .install installs
  obtain ⟨⟨r₃, value⟩, t₃, staged, ended⟩ := ok_of_bind_ok ended
  have builds : Builds plan w env prepared [r, r₂] r₃ value t₃ :=
    ⟨[r], r₂, t₂, rfl, installs, staged⟩
  rcases value with _ | product
  · obtain ⟨same, rfl⟩ := Prod.mk.inj ended
    cases same
    exact .build builds
  obtain ⟨⟨r₄, value⟩, t₄, staged, ended⟩ := ok_of_bind_ok ended
  have measures : Measures plan w env prepared product [r, r₂, r₃] r₄ value t₄ :=
    ⟨[r, r₂], r₃, t₃, rfl, builds, staged⟩
  rcases value with _ | m
  · obtain ⟨same, rfl⟩ := Prod.mk.inj ended
    cases same
    exact .measure measures
  obtain ⟨_, t₅, saved, ended⟩ := ok_of_bind_ok ended
  obtain ⟨_, t₆, logged, ended⟩ := ok_of_bind_ok ended
  obtain ⟨same, rfl⟩ := Prod.mk.inj ended
  cases same
  have first := (saveCache_untouched plan prepared t₄).1
  have second := (log_quiet .info "pipeline" ("Pipeline '" ++ plan.settings.name.display ++ "' completed") t₅).1
  rw [saved] at first
  rw [logged] at second
  exact .whole measures (Law.trans first second)

/-! ## Consistency -/

/-- Results of stages that all succeeded. -/
structure Went (results : List StageResult) (done : List Stage) : Prop where
  names : results.map (·.name) = done.map Stage.name
  passed : ∀ r ∈ results, r.ok

/-- One more stage passed behind those before. -/
theorem Went.told {results : List StageResult} {done : List Stage} {plan : Plan} {name : Stage}
    {action : Action α} {w v : World} {r : StageResult} {x : α} (went : Went results done)
    (told : Told plan name action w r (some x) v) : Went (results ++ [r]) (done ++ [name]) := by
  refine ⟨by simp [went.names, told.name_eq], fun other among => ?_⟩
  rcases List.mem_append.mp among with here | there
  · exact went.passed other here
  · rw [List.mem_singleton.mp there, told.ok_eq]
    rfl

/-- The preparation passed, and its key is not empty. -/
theorem Installs.went {plan : Plan} {w v : World} {env : Environment} {prepared : Prepared}
    {results : List StageResult} {r : StageResult} {value : Option Unit}
    (installs : Installs plan w env prepared results r value v) :
    Went results [.prepare] ∧ prepared.cacheKey ≠ "" := by
  obtain ⟨first, u, rfl, ⟨t, -, staged⟩, -⟩ := installs
  have told := stage_ok staged
  have start : Went [] [] := ⟨rfl, by simp⟩
  exact ⟨start.told told, prepare_key_ne_empty (Prod.ext told.concludes.1 rfl)⟩

/-- The installation passed behind it. -/
theorem Builds.went {plan : Plan} {w v : World} {env : Environment} {prepared : Prepared}
    {results : List StageResult} {r : StageResult} {value : Option Artifact.Built}
    (builds : Builds plan w env prepared results r value v) :
    Went results [.prepare, .install] ∧ prepared.cacheKey ≠ "" := by
  obtain ⟨before, last, u, rfl, installs, -⟩ := builds
  obtain ⟨_, _, _, _, staged⟩ := id installs
  exact ⟨installs.went.1.told (stage_ok staged), installs.went.2⟩

/-- The build passed behind that. -/
theorem Measures.went {plan : Plan} {w v : World} {env : Environment} {prepared : Prepared}
    {product : Artifact.Built} {results : List StageResult} {r : StageResult}
    {value : Option Measurement}
    (measures : Measures plan w env prepared product results r value v) :
    Went results [.prepare, .install, .build] ∧ prepared.cacheKey ≠ "" := by
  obtain ⟨before, last, u, rfl, builds, -⟩ := measures
  obtain ⟨_, _, _, _, _, staged⟩ := id builds
  exact ⟨builds.went.1.told (stage_ok staged), builds.went.2⟩

/-- A stage that fails is the last one, and all before it are in their order. -/
theorem Told.consistent {plan : Plan} {name : Stage} {action : Action α} {w v : World}
    {r : StageResult} {done : List Stage} {results : List StageResult} {report : Report}
    (told : Told plan name action w r none v) (order : done ++ [name] <+: Stage.all)
    (stages : report.stages = results ++ [r])
    (reaches : Report.Reaches { report with stages := results } done) : report.Consistent :=
  reaches.consistent_of_failed stages order told.name_eq told.ok_eq

/-- The parts of the report of a run agree with each other. -/
theorem Course.consistent {plan : Plan} {w v : World} {report : Report}
    (course : Course plan w report v) : report.Consistent := by
  cases course with
  | prepare failed =>
    obtain ⟨u, -, staged⟩ := failed
    have order : [] ++ [Stage.prepare] <+: Stage.all := by decide
    exact (stage_ok staged).consistent order (List.nil_append _).symm
      ⟨rfl, by simp, by simp, by simp, by simp⟩
  | install failed =>
    obtain ⟨went, key⟩ := failed.went
    obtain ⟨_, u, -, -, staged⟩ := failed
    exact (stage_ok staged).consistent (by decide) rfl
      ⟨went.names, went.passed, by simpa [preparedReport] using key, by simp [preparedReport],
        by simp [preparedReport]⟩
  | build failed =>
    obtain ⟨went, key⟩ := failed.went
    obtain ⟨_, _, u, -, -, staged⟩ := failed
    exact (stage_ok staged).consistent (by decide) rfl
      ⟨went.names, went.passed, by simpa [preparedReport] using key, by simp [preparedReport],
        by simp [preparedReport]⟩
  | measure failed =>
    obtain ⟨went, key⟩ := failed.went
    obtain ⟨_, _, u, -, -, staged⟩ := failed
    exact (stage_ok staged).consistent (by decide) rfl
      ⟨went.names, went.passed, by simpa [preparedReport] using key, by simp,
        by simp [preparedReport]⟩
  | whole passed saved =>
    obtain ⟨went, key⟩ := passed.went
    obtain ⟨_, _, u, -, -, staged⟩ := passed
    have went := went.told (stage_ok staged)
    exact Report.Reaches.consistent ⟨went.names, went.passed,
      by simpa [preparedReport, Stage.all] using key, by simp [Stage.all], by simp [Stage.all]⟩

/-! ## Kinds of failure -/

/-- How a stage that failed is reported. Measurement fails for another reason when the fixture could
be retrieved; `fetch` is followed in the world in which the stage began. -/
structure FailsAs (plan : Plan) (w : World) (failed : StageResult) : Prop where
  setup : failed.name = Stage.prepare.name ∨ failed.name = Stage.install.name →
    failed.failed = some FailureKind.setup.name
  build : failed.name = Stage.build.name → failed.failed = some FailureKind.build.name
  measure : failed.name = Stage.measure.name →
    ∃ env prepared product results r u fixture,
      Builds plan w env prepared results r (some product) u ∧
      plan.settings.fixture.given = .ok fixture ∧
      failed.failed = some (if (Fixture.fetch fixture.url prepared.workdir fixture.timeout
        fixture.sha256 (begun .measure u)).1.isOk then FailureKind.measure else .fixture).name

/-- The kind that the failure of an action is reported as. -/
theorem Told.failed_eq {plan : Plan} {name : Stage} {action : Action α} {w v : World}
    {r : StageResult} {kinds : FailureKind → Prop} (told : Told plan name action w r none v)
    (orderly : action.Tells (Orderly .null kinds)) :
    ∃ kind, kinds kind ∧ r.failed = some kind.name := by
  obtain ⟨s, seconds, failed, rfl⟩ := told.concludes
  obtain ⟨ds, -, reports⟩ := orderly (begun name w)
  exact ⟨s.kind, (reports.reports s failed).1, rfl⟩

/-- A download that fails is the failure of the fixture. Once there is a file only the timing can
fail. -/
theorem take_kind {artifact workdir : PathName} {fixture : FixtureSettings}
    {sec : Section BenchmarkSettings} {env : Environment} {w : World} {s : StageFailure}
    (failed : (Measurement.take artifact fixture sec workdir env w).1 = .error (.stage s)) :
    s.kind = if (Fixture.fetch fixture.url workdir fixture.timeout fixture.sha256 w).1.isOk
      then .measure else .fixture := by
  obtain ⟨_, -, fetched⟩ := fetch_orderly fixture.url workdir fixture.timeout fixture.sha256 w
  rw [Measurement.take, bind_run] at failed
  rcases ran : Fixture.fetch fixture.url workdir fixture.timeout fixture.sha256 w
    with ⟨f | file, u⟩ <;> rw [ran] at failed fetched <;> dsimp only at failed fetched
  · cases failed
    exact (fetched.reports s rfl).1
  · have orderly : (Measurement.takeOn file artifact sec workdir env).Tells
        (Orderly .null (· = .measure)) := Measurement.takeOn_orderly _ _ _ _ _
    obtain ⟨_, -, taken⟩ := orderly u
    exact (taken.reports s failed).1

/-- All stages before this one passed, so it is the first one that did not. -/
theorem Told.eq_of_failed {plan : Plan} {name : Stage} {action : Action α} {w v : World}
    {r failed : StageResult} {results : List StageResult} {report : Report}
    (told : Told plan name action w r none v) (passed : ∀ other ∈ results, other.ok)
    (stages : report.stages = results ++ [r]) (found : report.failedStage = some failed) :
    failed = r :=
  Option.some.inj (found.symm.trans (failedStage_of_failed stages passed told.ok_eq))

/-- By where the run ended: the failed stage is the last one, and its action fails as stages of this
kind do. -/
theorem Course.failsAs {plan : Plan} {w v : World} {report : Report}
    (course : Course plan w report v) {failed : StageResult}
    (found : report.failedStage = some failed) : FailsAs plan w failed := by
  cases course with
  | prepare ended =>
    obtain ⟨u, -, staged⟩ := ended
    have told := stage_ok staged
    have none : ∀ other ∈ ([] : List StageResult), other.ok := by simp
    obtain rfl := told.eq_of_failed none rfl found
    obtain ⟨kind, rfl, reported⟩ := told.failed_eq (prepare_orderly _ _)
    exact ⟨fun _ => reported, by simp [told.name_eq, Stage.name], by simp [told.name_eq, Stage.name]⟩
  | install ended =>
    have passed := ended.went.1.passed
    obtain ⟨_, u, -, -, staged⟩ := ended
    have told := stage_ok staged
    obtain rfl := told.eq_of_failed passed rfl found
    obtain ⟨kind, rfl, reported⟩ := told.failed_eq (installStage_orderly .null _ _)
    exact ⟨fun _ => reported, by simp [told.name_eq, Stage.name], by simp [told.name_eq, Stage.name]⟩
  | build ended =>
    have passed := ended.went.1.passed
    obtain ⟨_, _, u, -, -, staged⟩ := ended
    have told := stage_ok staged
    obtain rfl := told.eq_of_failed passed rfl found
    obtain ⟨kind, rfl, reported⟩ := told.failed_eq (buildStage_orderly .null _ _ _)
    exact ⟨by simp [told.name_eq, Stage.name], fun _ => reported, by simp [told.name_eq, Stage.name]⟩
  | measure ended =>
    have passed := ended.went.1.passed
    obtain ⟨_, r, u, -, builds, staged⟩ := ended
    have told := stage_ok staged
    obtain rfl := told.eq_of_failed passed rfl found
    refine ⟨by simp [told.name_eq, Stage.name], by simp [told.name_eq, Stage.name], fun _ => ?_⟩
    obtain ⟨s, seconds, stopped, rfl⟩ := told.concludes
    rw [measureStage, bind_run, ofResult_run] at stopped
    rcases given : plan.settings.fixture.given with f | fixture <;> rw [given] at stopped <;>
      dsimp only at stopped
    · have other := Section.given_plain _ f given
      cases stopped
      cases other
    · exact ⟨_, _, _, _, _, u, fixture, builds, rfl,
        congrArg (fun kind : FailureKind => some kind.name) (take_kind stopped)⟩
  | whole passed saved =>
    obtain ⟨went, -⟩ := passed.went
    obtain ⟨_, _, u, -, -, staged⟩ := passed
    have ok := (went.told (stage_ok staged)).passed failed (List.mem_of_find?_eq_some found)
    have refused := List.find?_some found
    exact absurd ok (by simpa using refused)

/-! ## Who is told the results -/

/-- Whoever is told a result returns, and notes it in the variables; what else is done with it is
left open. -/
def Plan.Notes (plan : Plan) (note : StageResult → Variables) : Prop :=
  ∀ r w, ∃ v, plan.notify r w = (.ok (), v) ∧ v.environment = w.environment ++ note r

section Notes

variable {plan : Plan} {note : StageResult → Variables} {w v : World} {env : Environment}
  {prepared : Prepared} {product : Artifact.Built} {results : List StageResult} {r : StageResult}

/-- A stage tells one result, and leaves the variables alone otherwise. -/
theorem Plan.Notes.stage {name : Stage} {action : Action α} {value : Option α}
    {Q : List Deed → Except Fault α → Prop} (notes : plan.Notes note) (told : action.Tells Q)
    (ended : Run.stage plan name action w = (.ok (r, value), v)) :
    v.environment = w.environment ++ note r := by
  obtain ⟨-, u, logged, notified⟩ := stage_ok ended
  have begins : (begun name w).environment = w.environment :=
    (log_onlyLogs .info "pipeline" ("==> " ++ name.name) w).1.environment
  obtain ⟨ds, enacted, -⟩ := told (begun name w)
  obtain ⟨t, returned, noted⟩ := notes r u
  cases returned.symm.trans notified
  rw [noted, logged.environment]
  exact congrArg (· ++ note r) (enacted.environment.trans begins)

/-- The settings are checked and the environment is made without a note. -/
theorem Plan.Notes.prepares {value : Option Prepared} (notes : plan.Notes note)
    (prepares : Prepares plan w env r value v) : v.environment = w.environment ++ note r := by
  obtain ⟨t, ⟨u, checked, merged⟩, staged⟩ := prepares
  have first := (checkSettings_untouched plan.settings w).1.environment
  have second := (environment_untouched plan.settings u).1.environment
  rw [checked] at first
  rw [merged] at second
  have told : (prepare plan.settings plan.store).Tells (Orderly .null (· = .setup)) :=
    prepare_orderly _ _
  rw [notes.stage told staged, second, first]

/-- One result more is told behind that of the preparation. -/
theorem Plan.Notes.installs {value : Option Unit} (notes : plan.Notes note)
    (installs : Installs plan w env prepared results r value v) :
    v.environment = w.environment ++ (results ++ [r]).flatMap note := by
  obtain ⟨first, u, rfl, prepares, staged⟩ := installs
  rw [notes.stage (installStage_orderly .null _ _) staged, notes.prepares prepares]
  simp

/-- One result more. -/
theorem Plan.Notes.builds {value : Option Artifact.Built} (notes : plan.Notes note)
    (builds : Builds plan w env prepared results r value v) :
    v.environment = w.environment ++ (results ++ [r]).flatMap note := by
  obtain ⟨before, last, u, rfl, installs, staged⟩ := builds
  rw [notes.stage (buildStage_orderly .null _ _ _) staged, notes.installs installs]
  simp

/-- One result more. -/
theorem Plan.Notes.measures {value : Option Measurement} (notes : plan.Notes note)
    (measures : Measures plan w env prepared product results r value v) :
    v.environment = w.environment ++ (results ++ [r]).flatMap note := by
  obtain ⟨before, last, u, rfl, builds, staged⟩ := measures
  rw [notes.stage (measureStage_orderly plan _ _ _) staged, notes.builds builds]
  simp

/-- Every result in the report was told once, in order, and nothing else was. -/
theorem Course.noted {report : Report} (course : Course plan w report v)
    (notes : plan.Notes note) :
    v.environment = w.environment ++ report.stages.flatMap note := by
  cases course with
  | prepare failed => simpa using notes.prepares failed
  | install failed => exact notes.installs failed
  | build failed => exact notes.builds failed
  | measure failed => exact notes.measures failed
  | whole passed saved => exact saved.environment.trans (notes.measures passed)

end Notes

/-! ## Settings that are refused -/

/-- Findings are computed, warnings are records, and an error is a fault. -/
theorem checkSettings_keeps {R : World → World → Prop} [Law R] (s : Settings)
    (records : ∀ r, Keeps R (fun _ => True) (record r)) :
    Keeps R (fun _ => True) (checkSettings s) := by
  refine .bind (.ofResult fun _ _ => trivial) fun findings =>
    .bind (.forM fun _ => records _) fun _ => ?_
  dsimp only
  split
  · exact .pure _
  · exact .throw trivial

/-- A finding that is an error stands on the list of errors, which is then not empty. -/
theorem checkSettings_refuses {s : Settings} {findings : List Finding} (w : World)
    (found : s.findings = .ok findings) (error : ∃ f ∈ findings, f.severity = .error) :
    ∃ reason, (checkSettings s w).1 = .error (.invalid reason) := by
  have errors : ¬ (findings.filter (·.severity = .error)).isEmpty := by
    obtain ⟨f, among, severe⟩ := error
    simpa using ⟨f, among, severe⟩
  have recorded : Keeps Logged (fun _ => False)
      ((findings.filter (·.severity = .warning)).forM fun f =>
        log .warning "pipeline" ("Config warning: " ++ f.setting ++ ": " ++ f.message)) :=
    .forM fun _ => record_logged _
  rw [checkSettings, bind_run, ofResult_run, found]
  dsimp only
  rw [bind_run]
  have recorded := (recorded w).2
  split
  · rw [if_neg errors]
    exact ⟨_, rfl⟩
  · next f v ran =>
    rw [ran] at recorded
    exact (recorded f rfl).elim

/-- The sample run without a name for what it builds, for which its settings are refused. -/
def namelessPlan : Plan :=
  { samplePlan with
    settings := { samplePlan.settings with
      build := .settings { command := .text "make", artifact := .text "" } } }

/-- The sample run, with every result noted in the variables. -/
def notedPlan : Plan :=
  { samplePlan with
    notify := fun r => modify fun w =>
      { w with environment := w.environment ++ [(r.name, r.detail)] } }

end Run

end BuildBench
