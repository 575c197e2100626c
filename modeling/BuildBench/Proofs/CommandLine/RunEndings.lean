import BuildBench.Proofs.Cache.GlobPatterns
import BuildBench.Proofs.CommandLine.Printing
import BuildBench.Proofs.Run.Interruptions
import BuildBench.Proofs.Run.LastProcess
import BuildBench.Proofs.Run.LawsOfRuns

/-!
# How the command for runs ends

The exit code of the command `run` and what it prints follow from the report of its run. Nothing is
printed before the run has ended, so that the output holds the report and nothing else: the timing and
the size only if every stage succeeded.
-/

namespace BuildBench

open BuildBench.Action

variable {α : Type} {w v : World}

/-! ## Reports -/

/-- A result of a stage with the time that it took. -/
def StageResult.Timed (r : StageResult) : Prop := ∃ seconds, r.seconds = .float seconds

/-- Only the duration of a stage can fail to be written. -/
theorem StageResult.Timed.toValue_isOk {r : StageResult} (timed : r.Timed) :
    ∃ value, r.toValue = .ok value := by
  obtain ⟨seconds, same⟩ := timed
  rw [StageResult.toValue, same]
  exact ⟨_, rfl⟩

/-- A report whose stages took some time can be written as a document. -/
theorem Report.exists_toValue {report : Report} (timed : ∀ r ∈ report.stages, r.Timed) :
    ∃ value, report.toValue = .ok value := by
  rcases written : report.stages.mapM StageResult.toValue with f | stages
  · obtain ⟨r, among, failed⟩ := mapM_error written
    obtain ⟨value, done⟩ := (timed r among).toValue_isOk
    cases failed.symm.trans done
  · rw [Report.toValue, written]
    exact ⟨_, rfl⟩

namespace Run

variable {plan : Plan} {env : Environment} {prepared : Prepared} {product : Artifact.Built}
  {results : List StageResult} {r : StageResult} {report : Report}

/-- By whether the stage gave a value: each end gives the stage a duration. -/
theorem Told.timed {name : Stage} {action : Action α} {value : Option α}
    (told : Told plan name action w r value v) : r.Timed := by
  cases value with
  | none =>
    obtain ⟨s, seconds, -, rfl⟩ := told.concludes
    exact ⟨seconds, rfl⟩
  | some x =>
    obtain ⟨-, seconds, rfl⟩ := told.concludes
    exact ⟨seconds, rfl⟩

/-- The stages before and the last one each have a duration. -/
theorem timed_append (first : ∀ s ∈ results, s.Timed) (last : r.Timed) :
    ∀ s ∈ results ++ [r], s.Timed :=
  List.forall_mem_append.mpr ⟨first, by simpa using last⟩

/-- It is a stage that was run. -/
theorem Prepares.timed {value : Option Prepared} (prepares : Prepares plan w env r value v) :
    r.Timed := by
  obtain ⟨u, -, staged⟩ := prepares
  exact (stage_ok staged).timed

/-- The preparation and the installation were both run as stages. -/
theorem Installs.timed {value : Option Unit}
    (installs : Installs plan w env prepared results r value v) :
    ∀ s ∈ results ++ [r], s.Timed := by
  obtain ⟨first, u, rfl, prepares, staged⟩ := installs
  exact timed_append (by simpa using prepares.timed) (stage_ok staged).timed

/-- The stages before and the build were run as stages. -/
theorem Builds.timed {value : Option Artifact.Built}
    (builds : Builds plan w env prepared results r value v) : ∀ s ∈ results ++ [r], s.Timed := by
  obtain ⟨before, last, u, rfl, installs, staged⟩ := builds
  exact timed_append installs.timed (stage_ok staged).timed

/-- The stages before and the measurement were run as stages. -/
theorem Measures.timed {value : Option Measurement}
    (measures : Measures plan w env prepared product results r value v) :
    ∀ s ∈ results ++ [r], s.Timed := by
  obtain ⟨before, last, u, rfl, builds, staged⟩ := measures
  exact timed_append builds.timed (stage_ok staged).timed

/-- By where the run ended. -/
theorem Course.timed (course : Course plan w report v) : ∀ s ∈ report.stages, s.Timed := by
  cases course with
  | prepare failed => simpa using failed.timed
  | install failed => exact failed.timed
  | build failed => exact failed.timed
  | measure failed => exact failed.timed
  | whole passed saved => exact passed.timed

/-- A run only starts with settings about which nothing is found that is an error. -/
theorem checkSettings_ok {s : Settings} (checked : checkSettings s w = (.ok (), v)) :
    ∃ found, s.findings = .ok found ∧ Sound found := by
  rcases listed : s.findings with f | found
  · rw [checkSettings, listed] at checked
    exact absurd checked throw_not_ok
  · refine ⟨found, rfl, fun f among severe => ?_⟩
    obtain ⟨reason, refused⟩ := checkSettings_refuses w listed ⟨f, among, severe⟩
    rw [checked] at refused
    cases refused

/-- The report of a run in which every stage succeeded says what its last process has shown and
left. -/
theorem run_measures (listening : plan.Listening) (ended : run plan w = (.ok report, v))
    (passed : report.ok) :
    ∃ benchmark, plan.settings.benchmark.given = .ok benchmark ∧
      report.Takes benchmark w (w.deedsUntil v) := by
  obtain ⟨_, u, checked, -⟩ := ok_of_bind_ok ended
  obtain ⟨found, listed, sound⟩ := checkSettings_ok checked
  obtain ⟨benchmark, _, _, _, given, -⟩ := Settings.sound_of_findings listed sound
  have repeats := Timing.repeats_of_sound listed sound given
  obtain ⟨ds, enacted, holds⟩ := run_takes listening given repeats w
  rw [ended] at enacted holds
  have measured : report.measurement.isSome :=
    (run_course ended).consistent.measurement_iff.mpr passed
  rw [enacted.deedsUntil_eq]
  exact ⟨benchmark, given, holds report rfl (Option.isSome_iff_ne_none.mp measured)⟩

/-- A run with a process that was interrupted gives no report. -/
theorem run_interrupted {result : Except Fault Report} (listening : plan.Listening)
    (ended : run plan w = (result, v)) (interrupted : ∃ d ∈ w.deedsUntil v, d.IsInterruption) :
    ∃ f, result = .error f ∧ f.EndsRun := by
  obtain ⟨ds, enacted, breaks⟩ := run_breaks listening w
  rw [ended] at enacted breaks
  rw [enacted.deedsUntil_eq] at interrupted
  exact breaks interrupted

end Run

namespace CommandLine

open Text Guarded

/-! ## What is printed -/

/-- A natural number has no sign. -/
theorem intText_natCast (n : Nat) : intText n = toString n := by
  simp [intText, Decimal.signed]
  rfl

/-- The size is a natural number. -/
theorem sizeLine_eq {m : Measurement} {size : Nat} (counted : m.binarySize = size) :
    m.sizeLine = "Binary is " ++ toString size ++ " bytes" := by
  rw [Measurement.sizeLine, Timing.sizeLine, counted, intText_natCast]

/-- Digits and the words around them are legible. -/
theorem sizeLine_legible (m : Measurement) : Legible m.sizeLine.toList :=
  legible_around (by decide) (legible_intText _) (by decide)

/-- The world after a text about errors was printed. -/
def complained (text : String) (w : World) : World :=
  { w with stderr := w.stderr ++ withEscapedHalves (plain text) }

/-- What is printed about errors after a run: the stage that failed, if one did. -/
structure Complains (report : Report) (x v : World) : Prop where
  nothing : report.ok → v.stderr = x.stderr
  failure : ∀ failed, report.failedStage = some failed →
    v.stderr = x.stderr ++ "Error: stage '" ++ failed.name ++ "' failed: " ++
      withEscapedHalves (plain failed.detail) ++ "\n"

/-- How the command ends after a run that gave a report. It began in the world `w`, and the run ended
in `x`. Control sequences are left out of a timing output, which cannot be printed if it holds half a
pair. -/
inductive Ends (w x : World) (report : Report) : Bool → Except Fault Int × World → Prop
  | document {value : Value} {v : World} (made : report.toValue = .ok value)
    (stdout : v.stdout = w.stdout ++ Json.document value ++ "\n") (complains : Complains report x v) :
    Ends w x report true (.ok report.exitCode, v)
  | lines {m : Measurement} {size : Nat} {v : World} (passed : report.ok)
    (measured : report.measurement = some m) (counted : m.binarySize = size)
    (whole : Whole (plain (stripFinalNewlines m.timingOutput)))
    (stdout : v.stdout = w.stdout ++ plain (stripFinalNewlines m.timingOutput) ++ "\n" ++
      "Binary is " ++ toString size ++ " bytes" ++ "\n") (complains : Complains report x v) :
    Ends w x report false (.ok 0, v)
  | unprintable {m : Measurement} {reason : String} {v : World} (passed : report.ok)
    (measured : report.measurement = some m)
    (broken : ¬ Whole (plain (stripFinalNewlines m.timingOutput))) (stdout : v.stdout = w.stdout) :
    Ends w x report false (.error (.unencodable reason), v)
  | failed {failed : StageResult} {v : World} (refused : report.failedStage = some failed)
    (stdout : v.stdout = w.stdout) (complains : Complains report x v) :
    Ends w x report false (.ok report.exitCode, v)

section Showing

variable {report : Report} {w x : World}

/-- The name of a stage is legible. -/
theorem failed_name_legible (consistent : report.Consistent) {failed : StageResult}
    (found : report.failedStage = some failed) : Legible failed.name.toList := by
  have all : ∀ name ∈ Stage.all.map Stage.name, Legible name.toList := by decide
  have among := List.mem_map_of_mem (f := StageResult.name) (List.mem_of_find?_eq_some found)
  exact all _ (consistent.ordered.subset among)

/-- The words before the detail are legible, so only the detail can change when it is printed. -/
theorem complained_failure (consistent : report.Consistent) {failed : StageResult}
    (found : report.failedStage = some failed) (v : World) :
    (complained (failureText report) v).stderr =
      v.stderr ++ "Error: stage '" ++ failed.name ++ "' failed: " ++
        withEscapedHalves (plain failed.detail) ++ "\n" := by
  have opening : Legible ("Error: stage '" ++ failed.name ++ "' failed: ").toList :=
    legible_around (by decide) (failed_name_legible consistent found) (by decide)
  rw [failureText, found]
  dsimp only [complained]
  rw [escaped_line opening]
  simp only [String.append_assoc]

/-- The text is printed, and only then the failure is complained about. -/
theorem showReport_run (asJson : Bool) {text : String}
    (made : reportText asJson report = .ok text) (x : World) :
    showReport asJson report x = match stdout text x with
      | (.ok (), v) =>
        if report.ok then (.ok 0, v) else (.ok report.exitCode, complained (failureText report) v)
      | (.error f, v) => (.error f, v) := by
  rw [showReport, made, ofResult_ok_bind, bind_run]
  rcases stdout text x with ⟨f | _, v⟩
  · rfl
  · dsimp only
    split <;> rfl

/-- A report that is right has no failed stage. -/
theorem Complains.of_ok (consistent : report.Consistent) (passed : report.ok) {v : World}
    (same : v.stderr = x.stderr) : Complains report x v := by
  refine ⟨fun _ => same, fun failed found => ?_⟩
  have none := consistent.failedStage_iff.mpr passed
  cases none.symm.trans found

/-- A report with a failed stage is not right, and it has only one such stage. -/
theorem Complains.of_failed (consistent : report.Consistent) {failed : StageResult}
    (found : report.failedStage = some failed) {v : World} (same : v.stderr = x.stderr) :
    Complains report x (complained (failureText report) v) := by
  refine ⟨fun passed => ?_, fun other foundOther => ?_⟩
  · have none := consistent.failedStage_iff.mpr passed
    cases none.symm.trans found
  · cases found.symm.trans foundOther
    rw [complained_failure consistent found, same]

/-- A document is legible, so it is printed as it is. -/
theorem document_printed (value : Value) (x : World) :
    stdout (Json.document value ++ "\n") x =
      (.ok (), { x with stdout := x.stdout ++ (Json.document value ++ "\n") }) := by
  have legible : Legible (Json.document value ++ "\n").toList := by
    rw [String.toList_append]
    exact legible_append.mpr ⟨Json.legible_document value, by decide⟩
  have shown := plain_eq_self legible.escapeCode_not_mem
  have none : printingDefect? (Json.document value ++ "\n") = none := by
    rw [printingDefect?_eq_none_iff, shown]
    exact legible.whole
  rw [stdout_run, none]
  dsimp only [printed]
  rw [shown]

/-- The report has a measurement. -/
theorem lines_of_measured {m : Measurement} (measured : report.measurement = some m) :
    reportText false report =
      .ok (stripFinalNewlines m.timingOutput ++ "\n" ++ m.sizeLine ++ "\n") := by
  rw [reportText, if_neg (by simp), measured]
  rfl

/-- A timing output without halves of pairs is printed, and the size in a line of its own. -/
theorem lines_printed (m : Measurement) (x : World) :
    (Whole (plain (stripFinalNewlines m.timingOutput)) ∧
      stdout (stripFinalNewlines m.timingOutput ++ "\n" ++ m.sizeLine ++ "\n") x =
        (.ok (), { x with stdout := x.stdout ++
          (plain (stripFinalNewlines m.timingOutput) ++ "\n" ++ m.sizeLine ++ "\n") })) ∨
    (¬ Whole (plain (stripFinalNewlines m.timingOutput)) ∧ ∃ reason,
      stdout (stripFinalNewlines m.timingOutput ++ "\n" ++ m.sizeLine ++ "\n") x =
        (.error (.unencodable reason), x)) := by
  have shown := plain_legible_line (sizeLine_legible m) (stripFinalNewlines m.timingOutput)
  have newline : Whole "\n" := by decide
  have whole_iff : Whole (plain (stripFinalNewlines m.timingOutput ++ "\n" ++ m.sizeLine ++ "\n")) ↔
      Whole (plain (stripFinalNewlines m.timingOutput)) := by
    simp [shown, newline, (sizeLine_legible m).whole]
  rcases stdout_cases (stripFinalNewlines m.timingOutput ++ "\n" ++ m.sizeLine ++ "\n") x with
    ⟨whole, done⟩ | ⟨broken, refused⟩
  · refine .inl ⟨whole_iff.mp whole, ?_⟩
    rw [done, printed, shown]
  · exact .inr ⟨mt whole_iff.mpr broken, refused⟩

/-- The document can always be printed. -/
theorem showReport_document (consistent : report.Consistent) {value : Value}
    (made : report.toValue = .ok value) (same : SameOutput w x) :
    Ends w x report true (showReport true report x) := by
  have document : reportText true report = .ok (Json.document value ++ "\n") := by
    rw [reportText, if_pos rfl, made]
    rfl
  rw [showReport_run true document, document_printed]
  dsimp only
  by_cases passed : report.ok
  · have zero : report.exitCode = 0 := consistent.exitCode_iff.mpr passed
    rw [if_pos passed, ← zero]
    exact .document made (by rw [same, String.append_assoc]) (.of_ok consistent passed rfl)
  · obtain ⟨failed, found⟩ :=
      Option.ne_none_iff_exists'.mp (mt consistent.failedStage_iff.mp passed)
    rw [if_neg passed]
    refine .document made ?_ (.of_failed consistent found rfl)
    rw [complained, same, String.append_assoc]

/-- The lines are printed as a whole or refused as a whole. -/
theorem showReport_lines (consistent : report.Consistent) (passed : report.ok)
    (sized : ∀ m, report.measurement = some m → ∃ size : Nat, m.binarySize = size)
    (same : SameOutput w x) : Ends w x report false (showReport false report x) := by
  obtain ⟨m, measured⟩ := Option.isSome_iff_exists.mp (consistent.measurement_iff.mpr passed)
  obtain ⟨size, counted⟩ := sized m measured
  rw [showReport_run false (lines_of_measured measured)]
  rcases lines_printed m x with ⟨whole, done⟩ | ⟨broken, reason, refused⟩
  · rw [done]
    dsimp only
    rw [if_pos passed]
    refine .lines passed measured counted whole ?_ (.of_ok consistent passed rfl)
    rw [sizeLine_eq counted, same]
    simp only [String.append_assoc]
  · rw [refused]
    exact .unprintable passed measured broken same

/-- Of a run that failed no line is printed. -/
theorem showReport_failed (consistent : report.Consistent) (refused : ¬ report.ok)
    (same : SameOutput w x) : Ends w x report false (showReport false report x) := by
  obtain ⟨failed, found⟩ :=
    Option.ne_none_iff_exists'.mp (mt consistent.failedStage_iff.mp refused)
  have nothing : reportText false report = .ok "" := by
    have none : report.measurement = none := by
      simpa using mt consistent.measurement_iff.mp refused
    rw [reportText, if_neg (by simp), none]
    rfl
  have empty : stdout "" x = (.ok (), { x with stdout := x.stdout ++ "" }) := rfl
  rw [showReport_run false nothing, empty]
  dsimp only
  rw [if_neg refused]
  refine .failed found ?_ (.of_failed consistent found rfl)
  rw [complained, String.append_empty, same]

/-- A report is shown as a document, or as lines if there was a measurement. -/
theorem showReport_ends (consistent : report.Consistent)
    (written : ∃ value, report.toValue = .ok value)
    (sized : ∀ m, report.measurement = some m → ∃ size : Nat, m.binarySize = size)
    (same : SameOutput w x) (asJson : Bool) :
    Ends w x report asJson (showReport asJson report x) := by
  cases asJson with
  | true =>
    obtain ⟨value, made⟩ := written
    exact showReport_document consistent made same
  | false =>
    by_cases passed : report.ok
    · exact showReport_lines consistent passed sized same
    · exact showReport_failed consistent passed same

end Showing

/-! ## The command -/

variable {words : List String} {sep : Separated} {r : RunRequest} {s : Settings}

/-- By whether there is a log: opening one prints nothing. -/
theorem setupLogging_sameOutput {verbose quiet : Bool} {logFile : Option PathName}
    (done : setupLogging verbose quiet logFile w = (.ok (), v)) : SameOutput w v := by
  cases logFile with
  | none =>
    cases done
    rfl
  | some path =>
    obtain ⟨_, t, first, done⟩ := ok_of_bind_ok done
    cases first
    obtain ⟨location, t, opened, done⟩ := ok_of_bind_ok done
    cases done
    obtain ⟨-, rfl | ⟨-, rfl⟩⟩ := openLogFile_ok opened <;> rfl

/-- Nothing is printed before the event is checked. -/
theorem Prepares.sameOutput (prepares : Prepares words w sep r s v) : SameOutput w v := by
  obtain ⟨u, opened, accepted⟩ := prepares.opened
  have kept : Guarded.Keeps SameOutput r.settings := by
    refine .bind (settingsOf_keeps SameOutput.record _ _) fun s => ?_
    split <;> exact .pure _
  have same := kept u
  rw [accepted] at same
  exact Law.trans (setupLogging_sameOutput opened) same

/-- The triggers of a run that was prepared are there. -/
theorem Prepares.triggers (prepares : Prepares words w sep r s v) :
    ∃ t, s.triggers.given = .ok t := by
  obtain ⟨g, -, rfl⟩ := prepares.given
  obtain ⟨u, -, accepted⟩ := prepares.opened
  obtain ⟨s0, u', settled, ended⟩ := ran_of_bind accepted
  have cacheOnly : s.triggers = s0.triggers := by
    split at ended <;> cases ended <;> rfl
  obtain ⟨p, homes, given, -⟩ := settingsOf_ok settled
  obtain ⟨s1, t, -, same, held⟩ := Settings.ofProfile_triggers (overrides_spare g) given
  exact ⟨t, by rw [cacheOnly, same, held]⟩

/-- Every step asks for a folder or only computes. -/
theorem storeFor_obeys {R : World → World → Prop} [Law R] (s : Settings) : (storeFor s).Obeys R := by
  refine .bind (.given _) fun cache => ?_
  split
  · exact .bind Disk.homes_asks.obeys fun _ => .bind (.given _) fun _ =>
      .bind (.bind (.bind Disk.homes_asks.obeys fun _ => .given _) fun _ => .pure _) fun _ => .pure _
  · exact .pure _

/-- What the command makes a run with. -/
def RunRequest.plan (r : RunRequest) (s : Settings) (store : Option CacheStore) : Run.Plan :=
  { settings := s, store := store, skipInstall := r.skipInstall }

/-- Nothing is called back. -/
theorem RunRequest.plan_listening (store : Option CacheStore) : (r.plan s store).Listening :=
  fun _ => .pure _

/-- The command goes on with the result of its run. -/
theorem makeRun_run {store : Option CacheStore} {u x : World} {result : Except Fault Report}
    (opened : storeFor s v = (.ok store, u))
    (ran : Run.run (r.plan s store) u = (result, x)) :
    (makeRun r s).run v = match result with
      | .ok report =>
        ((showReport r.asJson report x).1.map .ok, (showReport r.asJson report x).2)
      | .error .interrupted => (.ok (.ok interruptedCode), complained "\nPipeline interrupted.\n" x)
      | .error f =>
        (if f.isInvalidValue then .ok (.error (.unacceptable f.message)) else .error f, x) := by
  rw [makeRun, guarded_bind_run, lifted_run, opened]
  dsimp only [Except.map]
  rw [guarded_bind_run, lifted_run, attempt_run]
  change Run.run { settings := s, store := store, skipInstall := r.skipInstall } u = _ at ran
  rw [ran]
  rcases result with f | report
  · cases f <;> rfl
  · exact lifted_run _ _

/-- How the command `run` ends, once its words and settings were accepted. An event that starts no run
is only spoken of. A run that is interrupted, whichever process is running, gives no report: unless
taking away the temporary file of a measurement fails then, the exit code is 130, and nothing is
printed but that the run was interrupted. After any other run the exit code is that of its report, and
the report is printed. The timing and the size in it are what the last process has shown and left. -/
theorem act_ends (prepares : Prepares words w sep r s v) :
    ∃ t, s.triggers.given = .ok t ∧
      (r.event.admits t = false →
        Skipped w r (skipText r.event s) (act ("run" :: words) w)) ∧
      (r.event.admits t = true → ∀ store u result x, storeFor s v = (.ok store, u) →
        Run.run (r.plan s store) u = (result, x) →
          ((∃ d ∈ u.deedsUntil x, d.IsInterruption) → ∃ f, result = .error f ∧ f.EndsRun) ∧
          (result = .error .interrupted → ∃ y, act ("run" :: words) w = (.ok 130, y) ∧
            y.stdout = w.stdout ∧ y.stderr = x.stderr ++ "\nPipeline interrupted.\n") ∧
          ∀ report, result = .ok report →
            (report.exitCode = 0 ↔ report.ok) ∧ (report.failedStage = none ↔ report.ok) ∧
            (report.ok → ∃ benchmark, s.benchmark.given = .ok benchmark ∧
              report.Takes benchmark u (u.deedsUntil x)) ∧
            Ends w x report r.asJson (act ("run" :: words) w)) := by
  obtain ⟨t, known⟩ := prepares.triggers
  refine ⟨t, known, skipped_of_prepared prepares known, fun admitted store u result x opened ran => ?_⟩
  have performed := act_prepared prepares known
  rw [admitted, if_pos rfl] at performed
  have listening : (r.plan s store).Listening := r.plan_listening store
  have same : SameOutput w x := by
    have asked := (storeFor_obeys (R := SameOutput) s v).1
    have quiet : (Run.run (r.plan s store)).Obeys SameOutput :=
      SameOutput.throughout.run fun _ => .pure _
    have went := (quiet u).1
    rw [opened] at asked
    rw [ran] at went
    exact Law.trans (Law.trans prepares.sameOutput asked) went
  have made := makeRun_run opened ran
  refine ⟨fun interrupted => ?_, ?_, ?_⟩
  · exact Run.run_interrupted listening ran interrupted
  · rintro rfl
    exact ⟨_, performed.trans (stoppable_of_ok made), same, rfl⟩
  · rintro report rfl
    have consistent := (Run.run_course ran).consistent
    have takes := Run.run_measures listening ran
    have sized (m : Measurement) (measured : report.measurement = some m) :
        ∃ size : Nat, m.binarySize = size := by
      obtain ⟨_, -, m', _, _, _, _, _, measured', -, -, _, _, _, _, _, size, -, -, counted, -⟩ :=
        takes (consistent.measurement_iff.mp (measured ▸ rfl))
      cases measured.symm.trans measured'
      exact ⟨size, counted⟩
    have ends := showReport_ends consistent (Report.exists_toValue (Run.run_course ran).timed) sized
      same r.asJson
    refine ⟨consistent.exitCode_iff, consistent.failedStage_iff, takes, ?_⟩
    rw [performed]
    dsimp only at made
    rcases shown : showReport r.asJson report x with ⟨f | code, y⟩ <;> rw [shown] at made ends
    · have other : f ≠ .interrupted := by
        rintro rfl
        generalize r.asJson = asJson at ends
        cases ends
      rw [stoppable_of_error other made]
      exact ends
    · rw [stoppable_of_ok made]
      exact ends

/-- A world in which the build makes a file of one byte, and the external program shows its output in
bold type. -/
def boldTiming : World where
  files := { root := [("tmp", .folder [])], current := [] }
  processes := ⟨[{}, { edits := [.write (.parse "/tool") "x".toUTF8 true] },
    { stdout := "\x1b[1mBenchmark\x1b[0m\n\n" }], { launch := .notFound }⟩
  replies := ⟨[], .answer 200 ["abc\n".toUTF8] none⟩

/-- The words for a run that makes no use of what was installed or cached. -/
def boldWords : List String := ["--artifact", "tool", "--skip-install", "--no-cache"]

/-- The words are understood, and the run that they ask for succeeds. -/
theorem boldTiming_succeeds :
    (match prepared? boldWords boldTiming with
    | some (_, r, s, v) =>
      match storeFor s v with
      | (.ok none, u) =>
        match Run.run (r.plan s none) u with
        | (.ok report, _) => report.ok && !r.asJson && (Trigger.given r.event.name).isNone
        | _ => false
      | _ => false
    | none => false) = true := by
  decide +kernel

/-- By evaluation of the run, whose escape sequences are taken out when it is printed. -/
theorem act_ends_boldTiming :
    ∃ sep r s v u report x, Prepares boldWords boldTiming sep r s v ∧
      storeFor s v = (.ok none, u) ∧ Run.run (r.plan s none) u = (.ok report, x) ∧
      report.exitCode = 0 ∧
      (∃ benchmark, s.benchmark.given = .ok benchmark ∧
        report.Takes benchmark u (u.deedsUntil x)) ∧
      Ends boldTiming x report false (act ("run" :: boldWords) boldTiming) := by
  have evaluated := boldTiming_succeeds
  split at evaluated
  · next sep r s v found =>
    split at evaluated
    · next u opened =>
      split at evaluated
      · next report x ran =>
        simp only [Bool.and_eq_true, Bool.not_eq_true', Option.isNone_iff_eq_none] at evaluated
        obtain ⟨⟨passed, lines⟩, unnamed⟩ := evaluated
        have prepares := prepares_of_prepared? found
        obtain ⟨t, -, -, goesOn⟩ := act_ends prepares
        have admitted : r.event.admits t = true := by simp [TriggerEvent.admits, unnamed]
        obtain ⟨-, -, reported⟩ := goesOn admitted none u _ x opened ran
        obtain ⟨zero, -, takes, ends⟩ := reported report rfl
        rw [lines] at ends
        exact ⟨sep, r, s, v, u, report, x, prepares, opened, ran, zero.mpr passed, takes passed, ends⟩
      · cases evaluated
    · cases evaluated
  · cases evaluated

/-- The external program has printed control sequences, and the command prints the same output without
them. -/
theorem act_run_unbolded :
    let ended := act ("run" :: boldWords) boldTiming
    let shown := (boldTiming.deedsUntil ended.2).filterMap fun
      | .process c _ o _ => some (c.argv.headD "", o.stdout.read.toOption)
      | _ => none
    (ended.1 matches .ok 0) = true ∧
      shown = [("git", some ""), ("cargo", some ""),
        ("hyperfine", some "\x1b[1mBenchmark\x1b[0m\n\n")] ∧
      ended.2.stdout = "Benchmark\nBinary is 1 bytes\n" ∧
      ended.2.stdout ≠ "\x1b[1mBenchmark\x1b[0m\nBinary is 1 bytes\n" := by
  decide +kernel

end CommandLine

end BuildBench
