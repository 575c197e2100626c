import Mathlib.Data.List.Forall2
import BuildBench.Proofs.Run.FailFast
import BuildBench.Proofs.Timing.ReapedRepetition

/-!
# Repeated runs

Repetitions go on as long as each ends by itself with exit code zero. What is summarised are the
times between the readings of the clock and the counters right before and after each repetition that
is no warm-up. The first repetition that does not succeed is the last one, and its failure is told.
-/

namespace BuildBench

open BuildBench.Action

/-- The next outcomes, in order. -/
def Supply.first {α : Type} (s : Supply α) : Nat → List α
  | 0 => []
  | count + 1 => s.next.1 :: s.next.2.first count

/-- By induction on the count. -/
theorem Supply.length_first {α : Type} (s : Supply α) (count : Nat) :
    (s.first count).length = count := by
  induction count generalizing s with
  | zero => rfl
  | succ count ih => exact congrArg (· + 1) (ih _)

/-! ## Samples -/

namespace Timing

/-- The meters after a process that ended by itself. -/
def Meters.after (m : Meters) (o : Outcome) : Meters :=
  ⟨m.clock + o.wall, m.user + o.user, m.system + o.system⟩

/-- Times that were taken of a process, in seconds with six decimal places. -/
structure Sample where
  wall : Float
  user : Float
  system : Float

/-- What is taken of a process that ends by itself. -/
def Meters.sample (m : Meters) (o : Outcome) : Sample where
  wall := Decimal.roundPlaces 6 ((m.after o).clock - m.clock)
  user := Decimal.roundPlaces 6 (notNegative ((m.after o).user - m.user))
  system := Decimal.roundPlaces 6 (notNegative ((m.after o).system - m.system))

/-- What is taken of processes that end by themselves one after the other. -/
def Meters.samples : Meters → List Outcome → List Sample
  | _, [] => []
  | m, o :: rest => m.sample o :: (m.after o).samples rest

/-- As long as processes succeed, the clock goes on by finite times and never back. -/
def Meters.Steady (limit : Value) : Meters → List Outcome → Prop
  | _, [] => True
  | m, o :: rest => o.exit? limit = some 0 →
    Statistics.IsDuration ((m.after o).clock - m.clock) ∧ (m.after o).Steady limit rest

def Repetition.sample (r : Repetition) : Sample := ⟨r.wall, r.user, r.system⟩

/-- Both are the differences of the same two readings. -/
theorem sample_between {w v : World} {o : Outcome} (p : Program.Completed)
    (passed : metersOf v = (metersOf w).after o) :
    (Repetition.between w v p false).sample = (metersOf w).sample o := by
  unfold Repetition.sample Repetition.between Meters.sample
  rw [← passed]
  rfl

/-- By the handler: none of them turns a meter. -/
theorem log_sameMeters {F : Fault → Prop} (level : Level) (part text : String) :
    Keeps SameMeters F (log level part text) := by
  refine record_keeps _ fun w handler _ => ?_
  cases handler with
  | journal => exact ⟨rfl, rfl, rfl⟩
  | console least =>
    simp only [emit]
    split <;> exact ⟨rfl, rfl, rfl⟩
  | file location => exact ⟨rfl, rfl, rfl⟩

/-- Writing a record cannot fail, and moves nothing. -/
theorem log_passes (level : Level) (part text : String) (w : World) :
    ∃ v, log level part text w = (.ok (), v) ∧ SameMeters w v ∧ Idle w v :=
  ⟨_, rfl, (log_sameMeters (F := fun _ => False) level part text w).1,
    (log_quiet level part text w).1.enacted⟩

/-! ## Repetitions that have to succeed -/

/-- How the failure of a repetition is told. Only one that ended by itself has an exit code of its
own; a program that is not found is told without the number of the repetition. -/
inductive FailsWith (argv : List String) (limit : Value) (number : Nat) (o : Outcome) : Fault → Prop
  | exited {p : Program.Completed} (ended : o.end? limit = some p) (failed : p.exitCode ≠ 0) :
      FailsWith argv limit number o
        (measureFailure ("Command terminated with non-zero exit code " ++ intText p.exitCode ++
          " on repetition " ++ toString number) p.exitCode (p.stdout ++ p.stderr))
  | timedOut {p : Program.Completed} (started : o.launch = .started)
      (late : Program.runsOut limit o.wall = .ok true) (read : Program.completed o = .ok p) :
      FailsWith argv limit number o
        (measureFailure ("Command timed out after " ++ limit.display ++ "s on repetition " ++
          toString number) 1 p.stderr)
  | notFound (missing : o.launch = .notFound) : FailsWith argv limit number o
      (measureFailure ("Benchmarked command not found: " ++ argv.headD ""))

section Successful

variable {command : Value} {argv : List String} {folder : PathName} {env : Environment}
  {limit : Value} {w : World}

/-- What one repetition that has to succeed does: one process, and either its times are taken or
its failure is told. -/
inductive Succeeds (argv : List String) (limit : Value) (number : Nat) (w : World) :
    Except Fault Repetition → World → Prop
  | sampled {r : Repetition} {v : World} (success : w.processes.next.1.exit? limit = some 0)
      (taken : r.sample = (metersOf w).sample w.processes.next.1)
      (moved : metersOf v = (metersOf w).after w.processes.next.1)
      (left : v.processes = w.processes.next.2) : Succeeds argv limit number w (.ok r) v
  | failed {f : Fault} {v : World} (failure : w.processes.next.1.exit? limit ≠ some 0)
      (told : FailsWith argv limit number w.processes.next.1 f) :
      Succeeds argv limit number w (.error f) v

/-- The repetition has not timed out, so its exit code decides. -/
theorem check_between (w v : World) (p : Program.Completed) (limit : Value) (number : Nat) :
    checkRepetition (Repetition.between w v p false) limit number =
      if p.exitCode ≠ 0 then
        .error (measureFailure ("Command terminated with non-zero exit code " ++
          intText p.exitCode ++ " on repetition " ++ toString number) p.exitCode
          (p.stdout ++ p.stderr))
      else .ok () := rfl

/-- One repetition, by the three ways in which its process can come out. -/
theorem successful_succeeds (read : Command.words command = .ok argv) (limited : IsLimit limit)
    (ordinary : w.processes.next.1.IsOrdinary) (isWarmup : Bool) (number : Nat) :
    ∃ d, IsRun (startOf argv (some folder.display) (some env)) limit w.processes.next.1 d ∧
      Enacted w [d] (successful command folder env limit isWarmup number w).2 ∧
      Succeeds argv limit number w (successful command folder env limit isWarmup number w).1
        (successful command folder env limit isWarmup number w).2 := by
  unfold successful
  obtain launches | ⟨launches, p, passed⟩ := ordinary
  · obtain ⟨ran, d, runs, enacted⟩ := @repetition_notFound command argv (some folder.display)
      (some env) limit w read launches
    refine ⟨d, runs, ?_⟩
    rw [bind_run, tryCatch_run, ran]
    exact ⟨enacted, .failed (by simp [Outcome.exit?, Outcome.end?, launches]) (.notFound launches)⟩
  obtain ⟨late, known⟩ := limited.tells w.processes.next.1.wall
  have ended := Outcome.end_of_started limit launches
  rw [known] at ended
  obtain ⟨v, waited, -, moved, left⟩ := waitOrEnd_handles known argv
    (Program.launched (startOf argv (some folder.display) (some env)) w)
  obtain ⟨ran, d, runs, enacted⟩ := repetition_waited read launches waited
  rw [passed] at ran
  refine ⟨d, runs, ?_⟩
  rw [bind_run, tryCatch_run, ran]
  cases late with
  | true => exact ⟨enacted, .failed (by simp [Outcome.exit?, ended]) (.timedOut launches known passed)⟩
  | false =>
    have ended : w.processes.next.1.end? limit = some p := by
      rw [ended, passed]
      rfl
    dsimp only [Except.map]
    rw [bind_run, ofResult_run, check_between]
    by_cases zero : p.exitCode = 0
    · rw [if_neg (not_not.mpr zero)]
      dsimp only
      obtain ⟨u, logged, same, idle⟩ := log_passes .debug "bench.builtin"
        ((if isWarmup then "warmup" else "run") ++ " " ++ toString number ++ ": " ++
          Decimal.fixed 6 (Repetition.between w v p false).wall ++ "s") v
      rw [bind_run, logged]
      exact ⟨enacted.trans idle, .sampled (by simp [Outcome.exit?, ended, zero])
        (sample_between p moved) (same.meters.trans moved) (same.processes.trans left)⟩
    · rw [if_pos zero]
      exact ⟨enacted, .failed (by simp [Outcome.exit?, ended, zero]) (.exited ended zero)⟩

end Successful

/-! ## The whole series -/

/-- What came of repetitions for which these outcomes were to come, after `done` others: either all
of them succeeded, or the first that did not was the last one. -/
inductive Series {α : Type} (c : Program.Command) (limit : Value) (done : Nat)
    (outcomes : List Outcome) (P : α → Prop) : List Deed → Except Fault α → Prop
  | finished {ds : List Deed} {x : α} (all : ∀ o ∈ outcomes, o.exit? limit = some 0)
      (runs : List.Forall₂ (IsRun c limit) outcomes ds) (holds : P x) :
      Series c limit done outcomes P ds (.ok x)
  | stopped {before after : List Outcome} {o : Outcome} {ds : List Deed} {f : Fault}
      (parts : outcomes = before ++ o :: after)
      (succeeded : ∀ p ∈ before, p.exit? limit = some 0) (failed : o.exit? limit ≠ some 0)
      (runs : List.Forall₂ (IsRun c limit) (before ++ [o]) ds)
      (told : FailsWith c.argv limit (done + before.length + 1) o f) :
      Series c limit done outcomes P ds (.error f)

section Series

variable {α β : Type} {c : Program.Command} {limit : Value} {done : Nat} {outcomes : List Outcome}
  {P : α → Prop} {Q : β → Prop} {o : Outcome} {d : Deed} {ds : List Deed} {r : Except Fault α}

/-- A success in front of a series. -/
theorem Series.cons (success : o.exit? limit = some 0) (run : IsRun c limit o d)
    (series : Series c limit (done + 1) outcomes P ds r) :
    Series c limit done (o :: outcomes) P (d :: ds) r := by
  cases series with
  | finished all runs holds =>
    exact .finished (List.forall_mem_cons.mpr ⟨success, all⟩) (.cons run runs) holds
  | @stopped before after p _ f parts succeeded failed runs told =>
    subst parts
    have number : done + 1 + before.length + 1 = done + (o :: before).length + 1 := by
      simp only [List.length_cons]
      omega
    exact .stopped (List.cons_append ..).symm (List.forall_mem_cons.mpr ⟨success, succeeded⟩) failed
      (.cons run runs) (number ▸ told)

/-- What is done with the results of a series that is finished. -/
theorem Series.bind (series : Series c limit done outcomes P ds r) (next : α → Except Fault β)
    (holds : (∀ o ∈ outcomes, o.exit? limit = some 0) → ∀ x, P x → ∃ y, next x = .ok y ∧ Q y) :
    Series c limit done outcomes Q ds (r >>= next) := by
  cases series with
  | finished all runs given =>
    obtain ⟨y, same, holds⟩ := holds all _ given
    change Series _ _ _ _ _ _ (next _)
    rw [same]
    exact .finished all runs holds
  | stopped parts succeeded failed runs told =>
    exact .stopped parts succeeded failed runs told

end Series

/-- After a success come the others, and a warm-up is left out of what was measured. -/
theorem repetitions_run {command : Value} {folder : PathName} {env : Environment} {limit : Value}
    {left warmup done : Nat} {w v : World} {r : Repetition}
    (first : successful command folder env limit (0 < warmup) (done + 1) w = (.ok r, v)) :
    repetitions command folder env limit (left + 1) warmup done w =
      ((repetitions command folder env limit left (warmup - 1) (done + 1) v).1 >>= fun rest =>
          .ok (if 0 < warmup then rest else r :: rest),
        (repetitions command folder env limit left (warmup - 1) (done + 1) v).2) := by
  rw [repetitions, bind_run, first]
  dsimp only
  rw [bind_run]
  rcases repetitions command folder env limit left (warmup - 1) (done + 1) v with ⟨f | rest, u⟩ <;>
    rfl

/-- However many repetitions are left, what comes of them is a series of the outcomes to come. -/
theorem repetitions_series {command : Value} {argv : List String} (folder : PathName)
    (env : Environment) {limit : Value} (read : Command.words command = .ok argv)
    (limited : IsLimit limit) (left warmup done : Nat) (w : World)
    (ordinary : ∀ o ∈ w.processes.first left, o.IsOrdinary) :
    ∃ ds, Enacted w ds (repetitions command folder env limit left warmup done w).2 ∧
      Series (startOf argv (some folder.display) (some env)) limit done (w.processes.first left)
        (fun rs => rs.map Repetition.sample =
          ((metersOf w).samples (w.processes.first left)).drop warmup)
        ds (repetitions command folder env limit left warmup done w).1 := by
  induction left generalizing warmup done w with
  | zero =>
    refine ⟨[], (Law.refl w : Idle w w), .finished (List.forall_mem_nil _) .nil ?_⟩
    simp [Supply.first, Meters.samples]
  | succ left ih =>
    obtain ⟨first, others⟩ := List.forall_mem_cons.mp ordinary
    obtain ⟨d, run, enacted, came⟩ := @successful_succeeds command argv folder env limit w read
      limited first (0 < warmup) (done + 1)
    rcases ran : successful command folder env limit (0 < warmup) (done + 1) w with ⟨f | r, v⟩ <;>
      rw [ran] at enacted came <;> dsimp only at enacted came
    · cases came with
      | failed failure told =>
        rw [repetitions, bind_run, ran]
        exact ⟨[d], enacted,
          .stopped (List.nil_append _).symm (List.forall_mem_nil _) failure (.cons run .nil) told⟩
    · cases came with
      | sampled success taken moved next =>
        obtain ⟨ds, later, series⟩ := ih (warmup - 1) (done + 1) v (next.symm ▸ others)
        rw [moved, next] at series
        rw [repetitions_run ran]
        refine ⟨d :: ds, enacted.trans later, (Series.cons success run series).bind _ ?_⟩
        intro _ rs same
        refine ⟨_, rfl, ?_⟩
        cases warmup with
        | zero => exact congrArg₂ List.cons taken same
        | succ warmup => exact same

/-! ## What is told of the measured repetitions -/

/-- A summary of samples that the program has taken itself: their wall times in order, what
describes these, and the means of the CPU times. -/
structure Summarises (command : Value) (samples : List Sample) (s : TimingSummary) : Prop where
  command : s.command = command
  times : s.times = samples.map (·.wall)
  described : ∃ d, Statistics.describe s.times = .ok d ∧ s.mean = d.summary.mean ∧
    s.median = d.summary.median ∧ s.least = d.summary.least ∧ s.greatest = d.summary.greatest ∧
    s.stddev = d.deviation
  user : s.user = (samples.map (·.user)).foldl (· + ·) 0.0 / Float.ofNat samples.length
  system : s.system = (samples.map (·.system)).foldl (· + ·) 0.0 / Float.ofNat samples.length
  tool : s.tool = "builtin"

/-- The list is not empty. -/
theorem plainMean_eq {xs : List Float} (some : xs ≠ []) :
    TimingSummary.plainMean xs = xs.foldl (· + ·) 0.0 / Float.ofNat xs.length := by
  unfold TimingSummary.plainMean
  rw [List.isEmpty_eq_false_iff.mpr some]
  rfl

/-- By induction on the outcomes: each success has a duration, and the meters stay steady behind it.
-/
theorem Meters.Steady.durations {limit : Value} {m : Meters} {outcomes : List Outcome}
    (steady : m.Steady limit outcomes) (all : ∀ o ∈ outcomes, o.exit? limit = some 0) :
    ∀ x ∈ m.samples outcomes, Statistics.IsDuration x.wall := by
  induction outcomes generalizing m with
  | nil => exact List.forall_mem_nil _
  | cons o rest ih =>
    obtain ⟨success, others⟩ := List.forall_mem_cons.mp all
    obtain ⟨duration, later⟩ := steady success
    exact List.forall_mem_cons.mpr ⟨duration.roundPlaces 6, ih later others⟩

/-- By induction on the outcomes: each gives one sample. -/
theorem Meters.length_samples (m : Meters) (outcomes : List Outcome) :
    (m.samples outcomes).length = outcomes.length := by
  induction outcomes generalizing m with
  | nil => rfl
  | cons o rest ih => exact congrArg (· + 1) (ih _)

/-- Measured repetitions can be summarised and laid out. -/
theorem summaryOf_summarises (command : Value) {measured : List Repetition}
    (several : measured ≠ [])
    (durations : ∀ x ∈ measured.map Repetition.sample, Statistics.IsDuration x.wall)
    (countable : (Decimal.ofInt? ((measured.length : Int) - 1)).isSome) :
    ∃ s text, summaryOf command measured = .ok s ∧ layOut s 1 = .ok text ∧
      Summarises command (measured.map Repetition.sample) s := by
  have walls : ∀ x ∈ measured.map (·.wall), Statistics.IsDuration x :=
    List.forall_mem_map.mpr fun r inside => durations _ (List.mem_map_of_mem inside)
  have counted : Statistics.Countable (measured.map (·.wall)) := by
    rwa [Statistics.Countable, List.length_map]
  obtain ⟨d, described⟩ := Statistics.describe_ok walls counted
  have summary : ∃ s, summaryOf command measured = .ok s ∧ s.times = measured.map (·.wall) ∧
      Summarises command (measured.map Repetition.sample) s := by
    unfold summaryOf TimingSummary.ofSamples
    rw [described]
    refine ⟨_, rfl, rfl, rfl, by rw [List.map_map]; rfl, ⟨d, described, rfl, rfl, rfl, rfl, rfl⟩,
      ?_, ?_, rfl⟩
    · rw [List.map_map, List.length_map, ← List.length_map (·.user)]
      exact plainMean_eq (by simpa)
    · rw [List.map_map, List.length_map, ← List.length_map (·.system)]
      exact plainMean_eq (by simpa)
  obtain ⟨s, told, times, summarises⟩ := summary
  obtain ⟨text, laidOut⟩ := layOut_ok 1 (times.symm ▸ walls) (times.symm ▸ counted)
  exact ⟨s, text, told, laidOut, summarises⟩

/-- The two counts are read first, then the repetitions are run and the samples summarised. -/
theorem measureRepeatedly_run (command : Value) (folder : PathName) (env : Environment)
    {warmup runs : Value} (limit : Value) {warm n : Nat}
    (warmups : countOf defaultWarmup warmup = .ok (warm : Int))
    (measured : countOf defaultRuns runs = .ok (n : Int)) (w : World) :
    measureRepeatedly command folder env warmup runs limit w =
      ((repetitions command folder env limit (warm + n) warm 0 w).1 >>= fun rs => do
          let s ← summaryOf command rs
          return (s, ← layOut s 1),
        (repetitions command folder env limit (warm + n) warm 0 w).2) := by
  have count : ((warm : Int) + n).toNat = warm + n := by omega
  unfold measureRepeatedly
  rw [warmups, ofResult_ok_bind, measured, ofResult_ok_bind, bind_run, count, Int.toNat_natCast]
  rcases repetitions command folder env limit (warm + n) warm 0 w with ⟨f | rs, v⟩
  · rfl
  · dsimp only
    rw [bind_run, ofResult_run]
    change _ = (summaryOf command rs >>= _, v)
    rcases summaryOf command rs with f | s
    · rfl
    · dsimp only
      rw [bind_run, ofResult_run]
      change _ = (layOut s 1 >>= _, v)
      rcases layOut s 1 with f | text <;> rfl

/-- A world in which each process takes half a second, apart from the first, which takes five. -/
def slowStart : World where
  files := { root := [("w", .folder [])] }
  processes := ⟨[{ wall := 5.0, user := 4.0, system := 0.5 }],
    { wall := 0.5, user := 0.25, system := 0.125 }⟩
  replies := ⟨[], .refused .connection ""⟩

end Timing

end BuildBench
