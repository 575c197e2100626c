import BuildBench.Proofs.History.Outside

/-!
# The order of deeds

A deed fails when its process cannot be started, does not end in time or exits with a code other
than zero, or when its download does not give the whole fixture. The one exception is the question
for the revision that is checked out: nothing depends on its answer.

`Orderly` is the law that the parts of a stage keep. It says mainly three things: nothing is done
after a failed deed, an action that gives a value had no failed deed, and an action that fails as a
stage reports the code of the deed that failed. A second law is about the question for the revision alone,
and what a stage can still fail of once it was asked.
-/

namespace BuildBench

open BuildBench.Action

variable {α β : Type}

/-! ## Failed deeds -/

/-- Whether a command is the question for the revision that is checked out. It is the only command
of version control that a run does not depend on. -/
def Program.Command.isProbe (c : Program.Command) : Bool :=
  c.argv == ["git", "rev-parse", "HEAD"] && c.env.isNone

/-- An exit code as a run reports it. -/
def shownCode (code : Int) : Int := if 0 < code then code else 1

namespace Deed

/-- Whether the outside took part in a deed. -/
def isAttempt : Deed → Bool
  | .process .. | .download .. => true
  | _ => false

def isProbe : Deed → Bool
  | .process c _ _ _ => c.isProbe
  | _ => false

/-- Whether a deed failed in such a manner that the run has to end, when the fixture has to have a
digest. -/
def fails (digest : Value) : Deed → Bool
  | .process c limit o _ => !c.isProbe && o.exit? limit != some 0
  | .download _ reply _ => !reply.received?.any (hasDigest digest)
  | _ => false

/-- The code that a failed deed is reported as: that of its process, if it exited with a positive
one, else one. -/
def code : Deed → Int
  | .process _ limit o _ => shownCode ((o.exit? limit).getD 1)
  | _ => 1

/-- Whether a deed may belong to a build or a measurement: a download, or a process in a folder and
an environment of its own. -/
def isWork : Deed → Bool
  | .process c _ _ _ => c.folder.isSome && c.env.isSome
  | .download .. => true
  | _ => false

end Deed

/-- The code of the first failed deed. A failure without one is reported as one. -/
def failureCode (digest : Value) (ds : List Deed) : Int :=
  ((ds.find? (·.fails digest)).map Deed.code).getD 1

/-! ## The law -/

/-- A part of a stage that keeps its order. -/
structure Orderly (digest : Value) (kinds : FailureKind → Prop) (ds : List Deed)
    (r : Except Fault α) : Prop where
  attempts : ∀ d ∈ ds, d.isAttempt
  /-- What only sets something up leaves the work to others. -/
  setsUp : (∀ kind, kinds kind → kind = .setup) → ∀ d ∈ ds, ¬ d.isWork
  stops : ds.Pairwise fun d e => d.fails digest → ¬ e.isAttempt
  goes : ∀ x, r = .ok x → ∀ d ∈ ds, ¬ d.fails digest
  reports : ∀ s, r = .error (.stage s) →
    kinds s.kind ∧ shownCode s.exitCode = failureCode digest ds

namespace Orderly

variable {digest : Value} {kinds : FailureKind → Prop}

/-- No deeds are in order, and the fault has the right kind if it is one of a stage. -/
theorem of_internal {f : Fault} (internal : f.IsInternal kinds) :
    Orderly digest kinds [] (.error f : Except Fault α) :=
  ⟨by simp, by simp, .nil, by simp, fun s same => by
    obtain ⟨kind, code⟩ := internal s (by simpa using same)
    exact ⟨kind, by rw [code]; rfl⟩⟩

/-- No deeds are in order, and there is no failure to report. -/
theorem of_value (x : α) : Orderly digest kinds [] (.ok x) :=
  ⟨by simp, by simp, .nil, by simp, by simp⟩

/-- Where nothing is done only the fault has to be looked at. -/
theorem of_idle {a : Action α} (idle : Keeps Idle (Fault.IsInternal kinds) a) :
    a.Tells (Orderly digest kinds) := by
  refine idle.enacts.mono ?_
  rintro w ds (f | x) v ⟨rfl, internal⟩
  · exact of_internal (internal f rfl)
  · exact of_value x

/-- A quiet action does nothing. -/
theorem of_quiet {a : Action α} (quiet : QuietStage kinds a) : a.Tells (Orderly digest kinds) :=
  of_idle quiet.idle

/-- None of the first deeds fails, since a value came out. So the first failure is one of the second
deeds, and is reported as such. -/
theorem append {first second : List Deed} {x : α} {r : Except Fault β}
    (before : Orderly digest kinds first (.ok x)) (after : Orderly digest kinds second r) :
    Orderly digest kinds (first ++ second) r := by
  have none : ∀ d ∈ first, ¬ d.fails digest := before.goes x rfl
  refine ⟨?_, ?_, ?_, ?_, ?_⟩
  · exact List.forall_mem_append.mpr ⟨before.attempts, after.attempts⟩
  · exact fun only => List.forall_mem_append.mpr ⟨before.setsUp only, after.setsUp only⟩
  · exact List.pairwise_append.mpr ⟨before.stops, after.stops,
      fun d among _ _ failed => absurd failed (none d among)⟩
  · intro y ended d among
    rcases List.mem_append.mp among with here | there
    · exact none d here
    · exact after.goes y ended d there
  · intro s failed
    obtain ⟨kind, code⟩ := after.reports s failed
    refine ⟨kind, code.trans ?_⟩
    rw [failureCode, failureCode, List.find?_append, List.find?_eq_none.mpr none, Option.none_or]

/-- The fault is the same for every type of value that was to be given. -/
theorem stopped {ds : List Deed} {f : Fault}
    (orderly : Orderly digest kinds ds (.error f : Except Fault α)) :
    Orderly digest kinds ds (.error f : Except Fault β) :=
  ⟨orderly.attempts, orderly.setsUp, orderly.stops, by simp,
    fun s same => orderly.reports s (by simpa using same)⟩

/-- Deeds that fail stop the run there and then, others are followed by those of the second action.
-/
theorem bind {a : Action α} {next : α → Action β} (first : a.Tells (Orderly digest kinds))
    (second : ∀ x, (next x).Tells (Orderly digest kinds)) :
    (a >>= next).Tells (Orderly digest kinds) :=
  Enacts.bind first second (fun _ _ _ _ => stopped) fun _ _ _ _ _ _ _ => append

/-- A quiet action contributes no deed. -/
theorem after {a : Action α} {next : α → Action β} (quiet : QuietStage kinds a)
    (second : ∀ x, (next x).Tells (Orderly digest kinds)) :
    (a >>= next).Tells (Orderly digest kinds) :=
  bind (of_quiet quiet) second

/-- What cannot be computed is a fault before any deed. -/
theorem given {r : Except Fault α} {next : α → Action β} (plain : Plain r)
    (second : ∀ x, r = .ok x → (next x).Tells (Orderly digest kinds)) :
    (ofResult r >>= next).Tells (Orderly digest kinds) :=
  Tells.given (fun f failed => of_internal (Fault.isInternal_of_other (plain f failed))) second

/-- Giving a value back is quiet. -/
theorem pure (x : α) : (Pure.pure x : Action α).Tells (Orderly digest kinds) :=
  of_quiet (.pure x)

/-- Failures of some kinds are failures of more kinds. -/
theorem mono {more : FailureKind → Prop} {ds : List Deed} {r : Except Fault α}
    (orderly : Orderly digest kinds ds r) (wider : ∀ kind, kinds kind → more kind) :
    Orderly digest more ds r :=
  ⟨orderly.attempts, fun only => orderly.setsUp fun kind among => only kind (wider kind among),
    orderly.stops, orderly.goes, fun s failed =>
    ⟨wider _ (orderly.reports s failed).1, (orderly.reports s failed).2⟩⟩

/-- What was done last may be put right quietly, whatever came of it. -/
theorem thenAlways {a : Action α} {last : Action Unit} (orderly : a.Tells (Orderly digest kinds))
    (quiet : Quiet last) : (thenAlways a last).Tells (Orderly digest kinds) := by
  refine Enacts.bind (Q := fun result _ ds r _ => ds = [] ∧
      (r = result ∨ ∃ f, r = .error f ∧ f.isStage = false))
    (Enacts.attempt orderly) (fun result => ?_) ?_ ?_
  · refine Tells.after quiet.idle (fun f other => ⟨rfl, .inr ⟨f, rfl, other⟩⟩) fun _ w => ?_
    rw [ofResult_run]
    exact ⟨[], Law.refl (R := Idle) w, rfl, .inl rfl⟩
  · rintro w ds f v ⟨result, failed, -⟩
    simp at failed
  · rintro w ds result u more r v ⟨_, ⟨⟩, holds⟩ ⟨rfl, rfl | ⟨f, rfl, other⟩⟩
    · simpa using holds
    · refine ⟨by simpa using holds.attempts, by simpa using holds.setsUp, by simpa using holds.stops,
        by simp, ?_⟩
      rintro s ⟨⟩
      simp [Fault.isStage] at other

/-- An action that refuses: it does nothing, and fails, as a stage with this code. -/
def Refuses (kinds : FailureKind → Prop) (code : Int) (ds : List Deed) (r : Except Fault α) :
    Prop :=
  ds = [] ∧ ∃ f, r = .error f ∧ ∀ s, f = .stage s → kinds s.kind ∧ shownCode s.exitCode = code

/-- The failure that is thrown is the one that is reported, with its exit code. -/
theorem refuses_throw {kinds : FailureKind → Prop} {s : StageFailure} (kind : kinds s.kind) :
    (throw (.stage s) : Action α).Tells (Refuses kinds (shownCode s.exitCode)) := by
  intro w
  refine ⟨[], Law.refl (R := Idle) w, rfl, _, rfl, ?_⟩
  rintro s ⟨⟩
  exact ⟨kind, rfl⟩

/-- A process other than the question for the revision, whose exit code is looked at. -/
theorem checked {known : World → Program.Command → Files → Prop} {exit : α → Option Int}
    {a : Action α} {next : α → Action β} (one : a.Starts known exit kinds)
    (needed : ∀ w c files, known w c files → ¬ c.isProbe)
    (idle : (∀ kind, kinds kind → kind = .setup) →
      ∀ w c files, known w c files → ¬ (c.folder.isSome ∧ c.env.isSome))
    (refused : ∀ x, exit x ≠ some 0 →
      (next x).Tells (Refuses kinds (shownCode ((exit x).getD 1))))
    (accepted : ∀ x, exit x = some 0 → (next x).Tells (Orderly digest kinds)) :
    (a >>= next).Tells (Orderly digest kinds) := by
  have setsUp : ∀ {w c limit o files}, known w c files → (∀ kind, kinds kind → kind = .setup) →
      ∀ d ∈ [Deed.process c limit o files], ¬ d.isWork := by
    intro w c limit o files command only d among
    obtain rfl := List.mem_singleton.mp among
    simpa [Deed.isWork] using idle only w c files command
  refine Enacts.chain one ?_ ?_
  · rintro w ds f v (⟨internal⟩ | - | ⟨command, untold, internal⟩)
    · exact of_internal internal
    · refine ⟨by simp [Deed.isAttempt], setsUp command, List.pairwise_singleton .., by simp,
        fun s same => ?_⟩
      obtain ⟨kind, code⟩ := internal s (by simpa using same)
      exact ⟨kind, by simp [failureCode, Deed.fails, needed _ _ _ command, untold, Deed.code, code]⟩
  · intro w ds x u ended
    cases ended with | ended command told => ?_
    by_cases success : exit x = some 0
    · obtain ⟨more, enacted, ordered⟩ := accepted x success u
      rw [told] at success
      refine ⟨more, enacted, append (x := x)
        ⟨by simp [Deed.isAttempt], setsUp command, List.pairwise_singleton .., ?_, by simp⟩ ordered⟩
      simp [Deed.fails, success]
    · obtain ⟨more, enacted, rfl, f, failed, reported⟩ := refused x success u
      rw [told] at success reported
      refine ⟨[], enacted, by simp [Deed.isAttempt], setsUp command, List.pairwise_singleton ..,
        by simp [failed], fun s same => ?_⟩
      obtain ⟨kind, code⟩ := reported s (by simpa [failed] using same)
      refine ⟨kind, code.trans ?_⟩
      simp [failureCode, Deed.fails, needed _ _ _ command, success, Deed.code]

/-- A process other than the question for the revision, which has to succeed. -/
theorem succeeds {known : World → Program.Command → Files → Prop} {a : Action Program.Completed}
    {next : Program.Completed → Action β} {refusal : Program.Completed → StageFailure}
    (one : a.Starts known (fun p => some p.exitCode) kinds)
    (needed : ∀ w c files, known w c files → ¬ c.isProbe)
    (idle : (∀ kind, kinds kind → kind = .setup) →
      ∀ w c files, known w c files → ¬ (c.folder.isSome ∧ c.env.isSome))
    (kind : ∀ p, kinds (refusal p).kind) (code : ∀ p, (refusal p).exitCode = p.exitCode)
    (accepted : ∀ p, (next p).Tells (Orderly digest kinds)) :
    (a >>= fun p => if p.exitCode = 0 then next p else throw (.stage (refusal p))).Tells
      (Orderly digest kinds) := by
  refine checked one needed idle (fun p refused => ?_) fun p success => ?_
  · have failed : ¬ p.exitCode = 0 := by simpa using refused
    rw [if_neg failed, Option.getD_some, ← code p]
    exact refuses_throw (kind p)
  · have succeeded : p.exitCode = 0 := by simpa using success
    rw [if_pos succeeded]
    exact accepted p

end Orderly

/-! ## After the question for the revision -/

/-- Failures of a stage are of this sort. -/
def FailsOnly (sort : StageFailure → Prop) (_ : List Deed) (r : Except Fault α) : Prop :=
  ∀ s, r = .error (.stage s) → sort s

/-- Once the question for the revision was asked, failures of the stage are of this sort. -/
def AfterProbe (sort : StageFailure → Prop) (ds : List Deed) (r : Except Fault α) : Prop :=
  (∃ d ∈ ds, d.isProbe) → FailsOnly sort ds r

section FailsOnly

variable {sort : StageFailure → Prop}

/-- A quiet action has no fault of a stage. -/
theorem FailsOnly.of_quiet {a : Action α} (quiet : Quiet a) : a.Tells (FailsOnly sort) := by
  refine Enacts.mono quiet.idle.enacts ?_
  rintro w ds r v ⟨-, other⟩ s rfl
  exact absurd (other _ rfl) (by simp [Fault.isStage])

/-- A fault of two actions is one of the first or one of the second. -/
theorem FailsOnly.bind {a : Action α} {next : α → Action β} (first : a.Tells (FailsOnly sort))
    (second : ∀ x, (next x).Tells (FailsOnly sort)) : (a >>= next).Tells (FailsOnly sort) := by
  refine Enacts.bind first second ?_ fun _ _ _ _ _ _ _ _ only => only
  rintro w ds f v only s ⟨⟩
  exact only s rfl

/-- A quiet action adds no fault of a stage. -/
theorem FailsOnly.after {a : Action α} {next : α → Action β} (quiet : Quiet a)
    (second : ∀ x, (next x).Tells (FailsOnly sort)) : (a >>= next).Tells (FailsOnly sort) :=
  bind (of_quiet quiet) second

/-- Nothing was asked before the second action. -/
theorem AfterProbe.after {a : Action α} {next : α → Action β} (quiet : Quiet a)
    (second : ∀ x, (next x).Tells (AfterProbe sort)) : (a >>= next).Tells (AfterProbe sort) :=
  Tells.after quiet.idle (fun _ _ asked => by simp at asked) second

/-- Where the probe was the last deed the fault is that of either action. -/
theorem AfterProbe.bind {a : Action α} {next : α → Action β} (first : a.Tells (AfterProbe sort))
    (second : ∀ x, (next x).Tells (FailsOnly sort)) : (a >>= next).Tells (AfterProbe sort) := by
  refine Enacts.bind first second ?_ fun _ _ _ _ _ _ _ _ only _ => only
  rintro w ds f v only asked s ⟨⟩
  exact only asked s rfl

/-- Before the question is asked, all failures may be of any sort. -/
theorem AfterProbe.of_does {a : Action α} (others : a.Does (¬ ·.isProbe)) :
    a.Tells (AfterProbe sort) := by
  refine Enacts.mono others ?_
  rintro w ds r v all ⟨d, among, asked⟩
  exact absurd asked (all d among)

end FailsOnly

end BuildBench
