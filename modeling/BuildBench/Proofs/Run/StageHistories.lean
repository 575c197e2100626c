import BuildBench.Proofs.History.Outside

/-!
# Stages in a history

A stage passes its bounds before and after its action, and makes a result for the report out of what
the action gave. So the history of a stage is that of its action between two bounds, which keep how
the files were. What a run does between its stages leaves the outside alone.
-/

namespace BuildBench.Run

open BuildBench.Action

variable {α : Type}

/-- Whoever is told the results of stages does nothing to the outside. -/
def Plan.Listening (plan : Plan) : Prop :=
  ∀ r, Keeps Untouched (fun _ => True) (plan.notify r)

/-- What a stage makes of the result of its action. A fault that is no failure of a stage goes
through; if the action gave anything else, only who is told of it can fail. -/
def Concludes (name : Stage) (result : Except Fault α) :
    Except Fault (StageResult × Option α) → Prop
  | .ok (reported, some x) => result = .ok x ∧ ∃ seconds, reported = succeeded name seconds
  | .ok (reported, none) =>
    ∃ s seconds, result = .error (.stage s) ∧ reported = failedAs name seconds s
  | .error f => ∀ g, result = .error g → g.isStage = false → f = g

/-- Both endings of a stage are reported under its name. -/
theorem Concludes.name_eq {name : Stage} {result : Except Fault α} {reported : StageResult}
    {value : Option α} (concludes : Concludes name result (.ok (reported, value))) :
    reported.name = name.name := by
  cases value with
  | none =>
    obtain ⟨s, seconds, -, rfl⟩ := concludes
    rfl
  | some x =>
    obtain ⟨-, seconds, rfl⟩ := concludes
    rfl

/-- By how the action came out: the report is made of a result that is there, and the callback and
the clock add no deed. -/
theorem conclude_tells {plan : Plan} (listening : plan.Listening) (name : Stage) (start : Float)
    (result : Except Fault α) :
    (conclude plan name start result).Tells fun ds r => ds = [] ∧ Concludes name result r := by
  have idle : ∀ {α : Type} {a : Action α}, Keeps Untouched (fun _ => True) a →
      Keeps Idle (fun _ => True) a := fun kept => kept.weaken fun _ _ => Untouched.enacted
  have stopped (reported : ∀ g, result = .error g → g.isStage = true) :
      ∀ f : Fault, True → ([] : List Deed) = [] ∧ Concludes name result (.error f) :=
    fun _ _ => ⟨rfl, fun g failed other => by simp [reported g failed] at other⟩
  rcases result with f | x
  · cases f with
    | stage s =>
      have stopped := stopped fun g failed => Except.error.inj failed ▸ rfl
      refine Tells.after (F := fun _ => True) .get stopped fun u => ?_
      refine Tells.after (idle ((logOutput_quiet _ _ _).mono fun _ _ => trivial)) stopped fun _ => ?_
      refine Tells.after (idle (record_untouched _)) stopped fun _ => ?_
      refine Tells.after (idle (listening _)) stopped fun _ => ?_
      exact fun w => ⟨[], Law.refl (R := Idle) w, rfl, s, _, rfl, rfl⟩
    | _ =>
      exact fun w => ⟨[], Law.refl (R := Idle) w, rfl, fun g failed _ => Except.error.inj failed⟩
  · have stopped := stopped nofun
    refine Tells.after (F := fun _ => True) .get stopped fun u => ?_
    refine Tells.after (idle (record_untouched _)) stopped fun _ => ?_
    refine Tells.after (idle (listening _)) stopped fun _ => ?_
    exact fun w => ⟨[], Law.refl (R := Idle) w, rfl, rfl, _, rfl⟩

/-- What a stage does lies between its bounds, and its result is that of its action. -/
structure Bounded (name : Stage) (P : World → List Deed → Except Fault α → World → Prop)
    (w : World) (ds : List Deed) (r : Except Fault (StageResult × Option α)) : Prop where
  between : ∃ u inner result v, P u inner result v ∧ SameHost w u ∧ Concludes name result r ∧
    ds = .begins name.name u.files :: inner ++ [.ends name.name v.files]

/-- The record and the callback before the action add nothing, so its deeds stand right between the
two bounds. -/
theorem stage_bounded {plan : Plan} (listening : plan.Listening) (name : Stage)
    {action : Action α} {P : World → List Deed → Except Fault α → World → Prop}
    (enacts : action.Enacts P) :
    (stage plan name action).Enacts fun w ds r _ => Bounded name P w ds r := by
  intro w
  have logged := record_untouched (F := fun _ => False)
    ⟨.info, sourceName "pipeline", "==> " ++ name.name⟩ w
  unfold stage
  rcases announced : log .info "pipeline" ("==> " ++ name.name) w with ⟨f | x, u⟩ <;>
    rw [log] at announced <;> rw [announced] at logged
  · exact (logged.2 f rfl).elim
  have begun := begins_enacted name.name u
  obtain ⟨inner, enacted, holds⟩ := enacts (passed (.begins name.name) u)
  generalize ended : action (passed (.begins name.name) u) = result at enacted holds
  obtain ⟨_, concluded, rfl, concludes⟩ := conclude_tells listening name
    (passed (.begins name.name) u).clock result.1 (passed (.ends name.name) result.2)
  refine ⟨_, ?_, ⟨passed (.begins name.name) u, inner, result.1, result.2, holds,
    logged.1.toSameHost.trans begun.toSameHost, ?_, rfl⟩⟩
  · simp only [bind_run, log, announced, pass_run, get_run, attempt_run, ended]
    exact logged.1.enacted.trans (begun.trans (enacted.trans
      ((ends_enacted name.name result.2).trans concluded)))
  · simp only [bind_run, log, announced, pass_run, get_run, attempt_run, ended]
    exact concludes

/-! ## Between the stages -/

/-- Saving changes files only, and what goes wrong with it is caught and logged. -/
theorem saveCache_untouched (plan : Plan) (prepared : Prepared) :
    Keeps Untouched (fun _ => True) (saveCache plan prepared) := by
  unfold saveCache
  split
  · exact .pure _
  · next store found =>
    split
    · exact .pure _
    · refine .bind (.attempt (store.save_quiet _ _)) fun result => ?_
      split
      · exact .pure _
      · exact record_untouched _
      · exact .throw trivial

/-- The findings are computed and logged; settings that cannot be used end the run right there. -/
theorem checkSettings_untouched (s : Settings) :
    Keeps Untouched (fun _ => True) (checkSettings s) := by
  refine .bind (.ofResult fun _ _ => trivial) fun findings => ?_
  refine .bind (.forM fun _ => record_untouched _) fun _ => ?_
  dsimp only
  split
  · exact .pure _
  · exact .throw trivial

/-- The variables are computed from the settings and from those of the program. -/
theorem environment_untouched (s : Settings) :
    Keeps Untouched (fun _ => True) (environment s) :=
  .bind .get fun _ => .bind (.ofResult fun _ _ => trivial) fun _ =>
    .bind (Disk.homes_asks.quiet.mono fun _ _ => trivial) fun _ =>
    .bind (.ofResult fun _ _ => trivial) fun _ => .ofResult fun _ _ => trivial

end BuildBench.Run
