import Mathlib.Data.List.Nodup
import BuildBench.Proofs.Stages.Build

/-!
# The protocol of a checkout

A checkout runs one of three scripts: it brings a checkout that is there up to date, or clones a
whole repository for the sake of one of its commits, or clones the newest revisions only. The first
command of the script that fails ends the checkout with its exit code and its output. After a script
without a failure the revision is asked for, and whatever the answer is, it fails nothing.

`Runs` says what comes of a script, command by command. `Protocol` says what that makes of the whole
checkout, the question included.
-/

namespace BuildBench.Checkout

open BuildBench.Action

/-! ## Commands that were run -/

/-- A command that was run, what came of it, and the files right before it. -/
structure Trial where
  command : Program.Command
  outcome : Outcome
  files : Files

def Trial.deed (t : Trial) : Deed := .process t.command .null t.outcome t.files

/-- What is said when a command of a script fails. -/
def complaint (repo : String) (c : Program.Command) (exitCode : Int) : String :=
  match c.argv with
  | _ :: "fetch" :: _ => "git fetch failed (exit " ++ intText exitCode ++ ")"
  | _ => "Checkout of " ++ repo ++ " failed (exit " ++ intText exitCode ++ ")"

/-- The fault with which a command of a script ends the checkout, if it does. -/
def Trial.fault? (repo : String) (t : Trial) : Option Fault :=
  match resultOf t.outcome with
  | .error f => some f
  | .ok p =>
    if p.exitCode = 0 then none
    else some (.stage {
      stage := "prepare"
      kind := .setup
      message := complaint repo t.command p.exitCode
      exitCode := p.exitCode
      output := p.output })

/-! ## Scripts -/

/-- Whether a name is that of a commit. -/
def NamesCommit (ref : String) : Prop :=
  7 ≤ ref.toList.length ∧ ref.toList.length ≤ 40 ∧ ∀ c ∈ ref.toList, c ∈ "0123456789abcdef".toList

/-- Both are intervals of character numbers, and the list holds just the characters in them. -/
theorem isHexDigit_iff (c : Char) :
    (c.isDigit || ('a' ≤ c && c ≤ 'f')) = true ↔ c ∈ "0123456789abcdef".toList := by
  have shape : (c.isDigit || ('a' ≤ c && c ≤ 'f')) = true ↔
      48 ≤ c.toNat ∧ c.toNat ≤ 57 ∨ 97 ≤ c.toNat ∧ c.toNat ≤ 102 := by
    simp [Char.isDigit, Char.le_def, UInt32.le_iff_toNat_le]
  have listed : ∀ n ∈ "0123456789abcdef".toList.map Char.toNat,
      48 ≤ n ∧ n ≤ 57 ∨ 97 ≤ n ∧ n ≤ 102 := by decide +kernel
  have table : ∀ n ∈ List.range' 48 10 ++ List.range' 97 6,
      Char.ofNat n ∈ "0123456789abcdef".toList := by decide +kernel
  rw [shape]
  refine ⟨fun bounds => ?_, fun among => listed c.toNat (List.mem_map_of_mem among)⟩
  rw [← Char.ofNat_toNat c]
  refine table c.toNat (List.mem_append.mpr ?_)
  rw [List.mem_range'_1, List.mem_range'_1]
  omega

/-- Length and digits, one to one. -/
theorem isCommit_iff (ref : String) : isCommit ref = true ↔ NamesCommit ref := by
  simp only [isCommit, NamesCommit, Bool.and_eq_true, decide_eq_true_eq, List.all_eq_true,
    isHexDigit_iff, and_assoc]

instance (ref : String) : Decidable (NamesCommit ref) := decidable_of_iff _ (isCommit_iff ref)

/-- The commands for a repository, by whether there is a checkout in the folder. Without a
repository there are none. -/
def commands (repo ref : String) (depth : Int) (folder : PathName) (isCheckout : Bool) :
    List Program.Command :=
  if repo.isEmpty then []
  else if isCheckout then [
    command ["fetch", "--depth=" ++ intText depth, "origin", if ref.isEmpty then "HEAD" else ref]
      (some folder),
    command ["checkout", "--force", "FETCH_HEAD"] (some folder)]
  else if NamesCommit ref then [
    command ["clone", repo, folder.display] none,
    command ["checkout", ref] (some folder)]
  else [
    command (["clone", "--depth=" ++ intText depth] ++
      (if ref.isEmpty then [] else ["--branch", ref]) ++ [repo, folder.display]) none]

/-- The commands of a script and the question for the revision have different names. -/
theorem commands_nodup (repo ref : String) (depth : Int) (folder : PathName) (isCheckout : Bool) :
    (commands repo ref depth folder isCheckout ++ [probe folder]).Nodup := by
  refine List.Nodup.of_map (·.argv[1]?) ?_
  unfold commands
  split
  · simp [probe]
  · split
    · simp [probe, command]
    · split <;> simp [probe, command]

/-! ## One command -/

/-- A command of version control is run once, after a record. -/
theorem git_ends {args : List Value} {words : List String} (read : arguments args = .ok words)
    (folder : Option PathName) (w : World) :
    ∃ t : Trial, t.command = command words folder ∧ Enacted w [t.deed] (git args folder w).2 ∧
      (git args folder w).1 = resultOf t.outcome := by
  obtain ⟨ds, enacted, o, files, rfl, ends⟩ := git_tells read folder w
  exact ⟨⟨_, o, files⟩, rfl, enacted, ends⟩

/-- The question for the revision is asked once. -/
theorem headRevision_ends (folder : PathName) (w : World) :
    ∃ t : Trial, t.command = probe folder ∧ Enacted w [t.deed] (headRevision folder w).2 ∧
      (headRevision folder w).1 = revisionOf t.outcome := by
  obtain ⟨ds, enacted, o, files, rfl, ends⟩ := headRevision_tells folder w
  exact ⟨⟨_, o, files⟩, rfl, enacted, ends⟩

/-! ## A whole script -/

/-- What comes of some commands that are run one after the other: the ones that were run, and the
fault that ended them. -/
inductive Runs (repo : String) : List Program.Command → List Trial → Option Fault → Prop
  | done : Runs repo [] [] none
  | next {t : Trial} {cs : List Program.Command} {run : List Trial} {fault : Option Fault}
    (success : t.fault? repo = none) (others : Runs repo cs run fault) :
    Runs repo (t.command :: cs) (t :: run) fault
  | stopped {t : Trial} {cs : List Program.Command} {f : Fault} (fails : t.fault? repo = some f) :
    Runs repo (t.command :: cs) [t] (some f)

namespace Runs

variable {repo : String} {cs : List Program.Command} {run : List Trial} {fault : Option Fault}

/-- By induction on the run: each trial is of the next command, and a run that stops is a beginning.
-/
theorem ordered (runs : Runs repo cs run fault) : run.map Trial.command <+: cs := by
  induction runs with
  | done => exact List.prefix_rfl
  | next success others ih => exact (List.prefix_cons_inj _).mpr ih
  | stopped fails => exact (List.prefix_cons_inj _).mpr List.nil_prefix

/-- A script that is run to its end had no failure. -/
theorem through (runs : Runs repo cs run fault) (ended : fault = none) :
    run.map Trial.command = cs ∧ ∀ t ∈ run, t.fault? repo = none := by
  induction runs with
  | done => exact ⟨rfl, List.forall_mem_nil _⟩
  | next success others ih =>
    obtain ⟨same, unfailed⟩ := ih ended
    exact ⟨congrArg _ same, List.forall_mem_cons.mpr ⟨success, unfailed⟩⟩
  | stopped fails => cases ended

/-- A script ends early with its first failure. -/
theorem early (runs : Runs repo cs run fault) {f : Fault} (ended : fault = some f) :
    ∃ before t, run = before ++ [t] ∧ t.fault? repo = some f ∧
      ∀ s ∈ before, s.fault? repo = none := by
  induction runs with
  | done => cases ended
  | next success others ih =>
    obtain ⟨before, t, rfl, fails, unfailed⟩ := ih ended
    exact ⟨_ :: before, t, rfl, fails, List.forall_mem_cons.mpr ⟨success, unfailed⟩⟩
  | stopped fails => exact ⟨[], _, rfl, fails.trans ended, List.forall_mem_nil _⟩

end Runs

/-- A step of a script and the command that it is. -/
structure Step.Writes (repo : String) (step : Step) (c : Program.Command) : Prop where
  words : ∃ words, arguments step.args = .ok words ∧ c = command words step.folder
  failure : ∀ code, failureText (.text repo) step code = complaint repo c code

/-- The steps of a script are run up to the first one that fails. -/
theorem runSteps_runs {repo : String} {steps : List Step} {cs : List Program.Command}
    (written : List.Forall₂ (Step.Writes repo) steps cs) (w : World) :
    ∃ run fault, Enacted w (run.map Trial.deed) (runSteps (.text repo) steps w).2 ∧
      Runs repo cs run fault ∧
      (runSteps (.text repo) steps w).1 = match fault with
        | none => .ok ()
        | some f => .error f := by
  induction written generalizing w with
  | nil => exact ⟨[], none, (Law.refl w : Idle w w), .done, rfl⟩
  | @cons step c steps cs here others ih =>
    obtain ⟨words, read, rfl⟩ := here.words
    obtain ⟨t, named, enacted, ends⟩ := git_ends read step.folder w
    rw [← named] at here ⊢
    rw [runSteps, bind_run]
    rcases ran : git step.args step.folder w with ⟨r, v⟩
    rw [ran] at enacted ends
    dsimp only at enacted ends
    subst ends
    have stopped {f : Fault} (fails : t.fault? repo = some f) :
        Runs repo (t.command :: cs) [t] (some f) := .stopped fails
    rcases came : resultOf t.outcome with f | p <;> dsimp only
    · exact ⟨[t], _, enacted, stopped (by rw [Trial.fault?, came]), rfl⟩
    · by_cases success : p.exitCode = 0
      · obtain ⟨run, fault, after, runs, result⟩ := ih v
        rw [if_pos success]
        exact ⟨t :: run, fault, enacted.trans after,
          .next (by rw [Trial.fault?, came]; exact if_pos success) runs, result⟩
      · rw [if_neg success]
        refine ⟨[t], _, enacted, stopped (by rw [Trial.fault?, came]; exact if_neg success), ?_⟩
        rw [here.failure]
        rfl

/-- A number has a text if it does not have too many digits. -/
theorem depthOption_int (depth : Int) :
    depthOption (.int depth) =
      if isShortNumber depth then .ok (.text ("--depth=" ++ intText depth))
      else .error tooLongNumber := by
  unfold depthOption Value.textOf Value.shown
  rw [Value.isShowable]
  split <;> rfl

/-- A script is made of these commands, unless it holds a number of very many digits. -/
def Script.Writes (repo : String) (depth : Int) (s : Script) (cs : List Program.Command) : Prop :=
  (∃ steps, s.steps = .ok steps ∧ List.Forall₂ (Step.Writes repo) steps cs) ∨
    s.steps = .error tooLongNumber ∧ isShortNumber depth = false

section Scripts

variable (repo ref : String) (depth : Int) (folder : PathName)

/-- The words of the step are the name and what is read of the rest, and the complaint is made of
the same words. -/
theorem step_writes {name : String} {args : List Value} {words : List String}
    {at' : Option PathName} (read : arguments args = .ok words) :
    Step.Writes repo ⟨.text name :: args, at'⟩ (command (name :: words) at') where
  words := ⟨name :: words, by rw [arguments_cons, read]; rfl, rfl⟩
  failure code := by
    unfold failureText complaint command Value.display
    dsimp only
    by_cases fetch : name = "fetch"
    · subst fetch
      rfl
    · simp [fetch]

/-- The depth has a text or the script cannot be made. An empty name stands for the newest revision.
-/
theorem fetchScript_writes :
    (fetchScript folder (.text ref) (.int depth)).Writes repo depth [
      command ["fetch", "--depth=" ++ intText depth, "origin",
        if ref.isEmpty then "HEAD" else ref] (some folder),
      command ["checkout", "--force", "FETCH_HEAD"] (some folder)] := by
  have wanted : (if (Value.text ref).isPresent then Value.text ref else .text "HEAD") =
      .text (if ref.isEmpty then "HEAD" else ref) := by
    rw [Value.isPresent]
    cases ref.isEmpty <;> rfl
  unfold fetchScript Script.Writes
  rw [depthOption_int, wanted]
  by_cases short : isShortNumber depth
  · rw [if_pos short]
    exact .inl ⟨_, rfl, .cons (step_writes _ rfl)
      (.cons (step_writes _ rfl) .nil)⟩
  · rw [if_neg short]
    exact .inr ⟨rfl, by simpa using short⟩

/-- Both steps are made of texts. -/
theorem commitScript_writes :
    (commitScript (.text repo) folder ref).Writes repo depth [
      command ["clone", repo, folder.display] none,
      command ["checkout", ref] (some folder)] :=
  .inl ⟨_, rfl, .cons (step_writes _ rfl) (.cons (step_writes _ rfl) .nil)⟩

/-- The depth has a text or the script cannot be made. A branch is only named if there is a name. -/
theorem cloneScript_writes :
    (cloneScript (.text repo) folder (.text ref) (.int depth)).Writes repo depth [
      command (["clone", "--depth=" ++ intText depth] ++
        (if ref.isEmpty then [] else ["--branch", ref]) ++ [repo, folder.display]) none] := by
  unfold cloneScript Script.Writes
  rw [depthOption_int, Value.isPresent]
  by_cases short : isShortNumber depth
  · rw [if_pos short]
    refine .inl ⟨_, rfl, .cons ?_ .nil⟩
    cases ref.isEmpty <;> exact step_writes _ rfl
  · rw [if_neg short]
    exact .inr ⟨rfl, by simpa using short⟩

/-- There is a script for every repository, and it is made of the commands for it. -/
theorem script_writes (named : repo.isEmpty = false) (isCheckout : Bool) :
    ∃ s, script (.text repo) folder (.text ref) (.int depth) isCheckout = .ok s ∧
      s.Writes repo depth (commands repo ref depth folder isCheckout) := by
  unfold script commands
  rw [named, if_neg Bool.false_ne_true, Value.isPresent]
  cases isCheckout with
  | true => exact ⟨_, rfl, fetchScript_writes repo ref depth folder⟩
  | false =>
    rw [if_neg Bool.false_ne_true, if_neg Bool.false_ne_true]
    cases empty : ref.isEmpty with
    | true =>
      obtain rfl := String.isEmpty_iff.mp empty
      exact ⟨_, rfl, cloneScript_writes repo "" depth folder⟩
    | false =>
      dsimp only
      by_cases commit : NamesCommit ref
      · rw [if_pos commit, if_pos ((isCommit_iff ref).mpr commit)]
        exact ⟨_, rfl, commitScript_writes repo ref depth folder⟩
      · rw [if_neg commit, if_neg (mt (isCommit_iff ref).mp commit)]
        have written := cloneScript_writes repo ref depth folder
        rw [empty] at written
        exact ⟨_, rfl, written⟩

end Scripts

/-! ## The whole checkout -/

/-- What a checkout by some commands does, and what it gives. -/
structure Protocol (repo : String) (cs : List Program.Command) (folder : PathName)
    (run : List Trial) (r : Except Fault (Option String)) : Prop where
  /-- The commands are run in their order, and the question for the revision after all of them. -/
  ordered : run.map Trial.command <+: cs ++ [probe folder]
  once : (run.map Trial.command).Nodup
  stops : ∀ t ∈ run.dropLast, t.outcome.exit? .null = some 0
  fails : ∀ s, r = .error (.stage s) ↔ ∃ t ∈ run, t.command ∈ cs ∧ t.fault? repo = some (.stage s)
  answers : ∀ revision, r = .ok revision → ∃ before t, run = before ++ [t] ∧
    before.map Trial.command = cs ∧ t.command = probe folder ∧ revisionOf t.outcome = .ok revision
  others : ∀ f, r = .error f → (∃ s, f = .stage s) ∨ run = [] ∨
    ∃ t ∈ run, Program.Breaks "git" .null t.outcome f

/-- Every way in which a command does not succeed is a fault of the checkout. -/
theorem Trial.fault?_eq_none {repo : String} {t : Trial} (success : t.fault? repo = none) :
    t.outcome.exit? .null = some 0 := by
  unfold fault? at success
  split at success
  · cases success
  · next p came =>
    have zero : p.exitCode = 0 := by
      by_contra failed
      rw [if_neg failed] at success
      cases success
    unfold resultOf at came
    split at came
    · next launch =>
      rw [Outcome.exit?, Outcome.end_of_started _ launch]
      simp [Program.runsOut, Value.isNull, came, Except.toOption, zero]
    all_goals cases came

/-- By how the process came out: a refusal and a missing program become failures of the stage, and
what breaks is passed on. -/
theorem Trial.fault?_other {repo : String} {t : Trial} {f : Fault} (fails : t.fault? repo = some f) :
    (∃ s, f = .stage s) ∨ Program.Breaks "git" .null t.outcome f := by
  unfold fault? at fails
  split at fails
  · next came =>
    obtain rfl := Option.some.inj fails
    rcases resultOf_error came with ⟨-, rfl⟩ | breaks
    · exact .inl ⟨_, rfl⟩
    · exact .inr breaks
  · split at fails
    · cases fails
    · exact .inl ⟨_, (Option.some.inj fails).symm⟩

section Protocol

variable {repo : String} {cs : List Program.Command} {folder : PathName} {run : List Trial}

/-- A checkout that is kept from running anything. -/
theorem Protocol.idle {f : Fault} (other : ∀ s, f ≠ .stage s) :
    Protocol repo cs folder [] (.error f) where
  ordered := List.nil_prefix
  once := .nil
  stops := List.forall_mem_nil _
  fails s := ⟨fun failed => absurd (Except.error.inj failed) (other s),
    fun ⟨_, among, _⟩ => absurd among List.not_mem_nil⟩
  answers := nofun
  others _ _ := .inr (.inl rfl)

variable (distinct : (cs ++ [probe folder]).Nodup)

include distinct

/-- The last trial failed and no other did, so its fault is that of the checkout, and the probe was
not asked. -/
theorem Runs.protocol_early {f : Fault} (runs : Runs repo cs run (some f)) :
    Protocol repo cs folder run (.error f) := by
  have ordered := runs.ordered
  obtain ⟨before, t, rfl, fails, unfailed⟩ := runs.early rfl
  have inside : t.command ∈ cs := ordered.subset (by simp)
  exact {
    ordered := ordered.trans (List.prefix_append _ _)
    once := (ordered.trans (List.prefix_append _ _)).sublist.nodup distinct
    stops := fun s among => by
      rw [List.dropLast_concat] at among
      exact Trial.fault?_eq_none (unfailed s among)
    fails := fun s => by
      constructor
      · rintro ⟨⟩
        exact ⟨t, by simp, inside, fails⟩
      · rintro ⟨u, among, -, failed⟩
        rcases List.mem_append.mp among with earlier | last
        · rw [unfailed u earlier] at failed
          cases failed
        · obtain rfl := List.mem_singleton.mp last
          rw [fails] at failed
          exact congrArg _ (Option.some.inj failed)
    answers := nofun
    others := by
      rintro _ ⟨⟩
      rcases Trial.fault?_other fails with staged | breaks
      · exact .inl staged
      · exact .inr (.inr ⟨t, by simp, breaks⟩) }

/-- All trials succeeded, so the probe comes last and its answer is the revision. -/
theorem Runs.protocol_through {t : Trial} (runs : Runs repo cs run none)
    (asked : t.command = probe folder) :
    Protocol repo cs folder (run ++ [t]) (revisionOf t.outcome) := by
  obtain ⟨same, unfailed⟩ := runs.through rfl
  have whole : (run ++ [t]).map Trial.command = cs ++ [probe folder] := by
    rw [List.map_append, same, List.map_singleton, asked]
  have other : probe folder ∉ cs := fun inside =>
    (List.nodup_append.mp distinct).2.2 _ inside _ (List.mem_singleton_self _) rfl
  exact {
    ordered := whole ▸ List.prefix_rfl
    once := whole ▸ distinct
    stops := fun s among => by
      rw [List.dropLast_concat] at among
      exact Trial.fault?_eq_none (unfailed s among)
    fails := fun s => by
      constructor
      · intro failed
        cases (revisionOf_error failed).isStage
      · rintro ⟨u, among, inside, failed⟩
        rcases List.mem_append.mp among with earlier | last
        · rw [unfailed u earlier] at failed
          cases failed
        · obtain rfl := List.mem_singleton.mp last
          exact absurd (asked ▸ inside) other
    answers := fun revision answered => ⟨run, t, rfl, same, asked, answered⟩
    others := fun f failed => .inr (.inr ⟨t, by simp, revisionOf_error failed⟩) }

end Protocol

/-- Whether something is found where a checkout has its own data. -/
def isCheckout (folder : PathName) (w : World) : Bool :=
  (Disk.exists? (folder.child ".git") w).1.toOption.getD false

/-- A question is answered from the tree, and its faults are those of the system. -/
theorem ask_answer (path : PathName) (question : Files → PathName → Except SystemError Bool)
    (w : World) : ∃ answer, Disk.ask path question w = (answer, w) ∧
      ∀ f, answer = .error f → ∀ s, f ≠ .stage s := by
  refine ⟨_, Disk.ask_eq path question w, fun f failed => ?_⟩
  split at failed
  · rcases told : question w.files path with e | found <;> rw [told] at failed <;> cases failed
    rintro s ⟨⟩
  · cases failed

/-- A script is run, and then the revision is asked for. -/
theorem runSteps_protocol {repo : String} {steps : List Step} {cs : List Program.Command}
    {folder : PathName} (written : List.Forall₂ (Step.Writes repo) steps cs)
    (distinct : (cs ++ [probe folder]).Nodup) (w : World) :
    ∃ run r v,
      (do
        runSteps (.text repo) steps
        let revision ← headRevision folder
        log .info "prepare" ("Checked out " ++
          ((revision.filter (!·.isEmpty)).getD "(unknown revision)"))
        return revision : Action (Option String)) w = (r, v) ∧
      Enacted w (run.map Trial.deed) v ∧ Protocol repo cs folder run r ∧ run ≠ [] := by
  obtain ⟨run, fault, enacted, runs, ends⟩ := runSteps_runs written w
  rw [bind_run]
  rcases ran : runSteps (.text repo) steps w with ⟨r, u⟩
  rw [ran] at enacted ends
  dsimp only at enacted ends
  subst ends
  rcases fault with _ | f
  · obtain ⟨t, question, after, answer⟩ := headRevision_ends folder u
    have protocol := runs.protocol_through distinct question
    dsimp only
    rw [bind_run]
    rcases told : headRevision folder u with ⟨r, v⟩
    rw [told] at after answer
    dsimp only at after answer
    have both := enacted.trans after
    rw [← answer] at protocol
    have deeds : (run ++ [t]).map Trial.deed = run.map Trial.deed ++ [t.deed] := by
      rw [List.map_append, List.map_singleton]
    rw [← deeds] at both
    rcases r with f | revision
    · exact ⟨run ++ [t], _, v, rfl, both, protocol, by simp⟩
    · have logged := (log_onlyLogs .info "prepare" ("Checked out " ++
        ((revision.filter (!·.isEmpty)).getD "(unknown revision)")) v).1
      have last := both.trans logged.idle
      rw [List.append_nil] at last
      exact ⟨run ++ [t], _, _, rfl, last, protocol, by simp⟩
  · obtain ⟨before, t, rfl, -⟩ := runs.early rfl
    exact ⟨_, _, u, rfl, enacted, runs.protocol_early distinct, by simp⟩

section CheckOut

variable (repo ref : String) (depth : Int) (folder : PathName) (w : World)

/-- Without a repository only the revision is asked for, and only if the folder is there. -/
theorem checkOut_asks :
    ∃ run r v, checkOut (.text "") folder (.text ref) (.int depth) w = (r, v) ∧
      Enacted w (run.map Trial.deed) v ∧
      ((Disk.isFolder folder w).1 = .ok true → Protocol "" [] folder run r ∧ run ≠ [] ∧
        ∀ f, r = .error f → ∃ t ∈ run, Program.Breaks "git" .null t.outcome f) ∧
      ((Disk.isFolder folder w).1 ≠ .ok true → run = [] ∧ ∃ f, r = .error f) := by
  have idle : Enacted w [] w := (Law.refl w : Idle w w)
  have distinct : ([] ++ [probe folder]).Nodup := List.nodup_singleton _
  obtain ⟨answer, asked, -⟩ := ask_answer folder Files.isFolder w
  have unnamed : (Value.text "").isPresent = false := rfl
  unfold checkOut Disk.isFolder
  rw [unnamed, Bool.not_false, if_pos rfl, bind_run, asked]
  rcases answer with f | _ | _
  · exact ⟨[], _, w, rfl, idle, nofun, fun _ => ⟨rfl, _, rfl⟩⟩
  · exact ⟨[], _, w, rfl, idle, nofun, fun _ => ⟨rfl, _, rfl⟩⟩
  · obtain ⟨t, question, enacted, ends⟩ := headRevision_ends folder w
    exact ⟨[t], _, _, Prod.ext ends rfl, enacted, fun _ =>
      ⟨Runs.protocol_through distinct .done question, List.cons_ne_nil _ _,
        fun f failed => ⟨t, List.mem_singleton_self t, revisionOf_error failed⟩⟩, fun missing => absurd rfl missing⟩

/-- For a repository its commands are run. Nothing is run only if the folder cannot be looked at or
the depth is a number of very many digits. -/
theorem checkOut_runs (given : repo ≠ "") :
    ∃ run r v, checkOut (.text repo) folder (.text ref) (.int depth) w = (r, v) ∧
      Enacted w (run.map Trial.deed) v ∧
      Protocol repo (commands repo ref depth folder (isCheckout folder w)) folder run r ∧
      ((∃ found, (Disk.exists? (folder.child ".git") w).1 = .ok found) → isShortNumber depth →
        run ≠ []) := by
  have named : repo.isEmpty = false := Bool.eq_false_iff.mpr (mt String.isEmpty_iff.mp given)
  obtain ⟨answer, asked, other⟩ := ask_answer (folder.child ".git") Files.exists? w
  unfold checkOut isCheckout Disk.exists?
  rw [Value.isPresent, named, Bool.not_false, Bool.not_true, if_neg Bool.false_ne_true, bind_run,
    asked]
  rcases answer with f | found
  · exact ⟨[], _, w, rfl, (Law.refl w : Idle w w), .idle (other f rfl), nofun⟩
  obtain ⟨s, chosen, written⟩ := script_writes repo ref depth folder named found
  have announced := (log_onlyLogs .info "prepare" s.announcement w).1
  dsimp only
  rw [chosen, ofResult_ok_bind, bind_run, log_run]
  generalize (log .info "prepare" s.announcement w).2 = u at announced
  dsimp only
  rcases written with ⟨steps, made, written⟩ | ⟨long, many⟩
  · rw [made, ofResult_ok_bind]
    obtain ⟨run, r, v, ran, enacted, protocol, started⟩ :=
      runSteps_protocol written (commands_nodup repo ref depth folder found) u
    exact ⟨run, r, v, ran, Enacted.trans announced.idle enacted, protocol, fun _ _ => started⟩
  · rw [long]
    refine ⟨[], _, u, rfl, announced.idle, .idle (fun s => nofun), fun _ short => ?_⟩
    rw [many] at short
    cases short

end CheckOut

/-- A checkout runs the commands for its repository up to the first one that fails, and then ends
with a failure that tells of it; or it runs all of them, and gives what the question for the
revision answers. Without a repository it only asks, and the folder has to be there. A command of
which nothing can be told ends the checkout with a fault of its own.

Proof: by induction on the steps of the script, in `runSteps_runs`; the question for the revision is
no command of any script, so what comes of it is never taken for a failure of one. -/
theorem checkOut_follows (repo ref : String) (depth : Int) (folder : PathName) (w : World) :
    ∃ run r v, checkOut (.text repo) folder (.text ref) (.int depth) w = (r, v) ∧
      Enacted w (run.map Trial.deed) v ∧
      (repo ≠ "" →
        Protocol repo (commands repo ref depth folder (isCheckout folder w)) folder run r ∧
        ((∃ found, (Disk.exists? (folder.child ".git") w).1 = .ok found) → isShortNumber depth →
          run ≠ [])) ∧
      (repo = "" →
        ((Disk.isFolder folder w).1 = .ok true → Protocol repo [] folder run r ∧ run ≠ [] ∧
          ∀ f, r = .error f → ∃ t ∈ run, Program.Breaks "git" .null t.outcome f) ∧
        ((Disk.isFolder folder w).1 ≠ .ok true → run = [] ∧ ∃ f, r = .error f)) := by
  by_cases unnamed : repo = ""
  · subst unnamed
    obtain ⟨run, r, v, ran, enacted, asks⟩ := checkOut_asks ref depth folder w
    exact ⟨run, r, v, ran, enacted, fun given => absurd rfl given, fun _ => asks⟩
  · obtain ⟨run, r, v, ran, enacted, protocol⟩ := checkOut_runs repo ref depth folder w unnamed
    exact ⟨run, r, v, ran, enacted, fun _ => protocol, fun empty => absurd empty unnamed⟩

/-- A folder whose own data would be behind a link that leads nowhere, and a program that its user
interrupts. -/
def brokenHost : World where
  files := { root := [("w", .folder [(".git", .link "gone")])] }
  processes := ⟨[], { launch := .interrupted }⟩
  replies := ⟨[], .refused .connection ""⟩

/-- There a checkout runs something, with a repository and without one. -/
theorem checkOut_follows_brokenHost :
    ((∃ found, (Disk.exists? ((PathName.parse "/w").child ".git") brokenHost).1 = .ok found) ∧
      isShortNumber 1 ∧ ∃ run r v,
        checkOut (.text "r") (.parse "/w") (.text "main") (.int 1) brokenHost = (r, v) ∧
        Enacted brokenHost (run.map Trial.deed) v ∧
        Protocol "r" (commands "r" "main" 1 (.parse "/w") (isCheckout (.parse "/w") brokenHost))
          (.parse "/w") run r ∧ run ≠ []) ∧
    (Disk.isFolder (.parse "/w") brokenHost).1 = .ok true ∧ ∃ run r v,
      checkOut (.text "") (.parse "/w") (.text "main") (.int 1) brokenHost = (r, v) ∧
      Enacted brokenHost (run.map Trial.deed) v ∧ Protocol "" [] (.parse "/w") run r ∧ run ≠ [] := by
  have asked : ∃ found, (Disk.exists? ((PathName.parse "/w").child ".git") brokenHost).1 =
      .ok found := ⟨_, rfl⟩
  have more (n : Nat) (positive : n ≠ 0) : (1 : Int).natAbs < Nat.pow 10 n :=
    Nat.one_lt_pow positive (by decide)
  have short : isShortNumber 1 := decide_eq_true (more _ (by decide))
  have folder : (Disk.isFolder (.parse "/w") brokenHost).1 = .ok true := rfl
  obtain ⟨run, r, v, ran, enacted, named, -⟩ :=
    checkOut_follows "r" "main" 1 (.parse "/w") brokenHost
  obtain ⟨protocol, started⟩ := named (by decide)
  refine ⟨⟨asked, short, run, r, v, ran, enacted, protocol, started asked short⟩, folder, ?_⟩
  obtain ⟨run, r, v, ran, enacted, -, unnamed⟩ :=
    checkOut_follows "" "main" 1 (.parse "/w") brokenHost
  obtain ⟨protocol, started, -⟩ := (unnamed rfl).1 folder
  exact ⟨run, r, v, ran, enacted, protocol, started⟩

/-- A link that leads nowhere makes no checkout of its folder, and a checkout that only asks for the
revision may be interrupted as well, or not be let ask. -/
theorem checkOut_brokenHost :
    brokenHost.files.isLink (.parse "/w/.git") = .ok true ∧
      (checkOut (.text "r") (.parse "/w") (.text "0123abc") (.int 1) brokenHost).2.events =
        [.start ["git", "clone", "r", "/w"] none none .null] ∧
      (Disk.isFolder (.parse "/w") brokenHost).1 = .ok true ∧
      (checkOut (.text "") (.parse "/w") (.text "") (.int 1) brokenHost).1 = .error .interrupted ∧
      (checkOut (.text "") (.parse "/w") (.text "") (.int 1)
        { brokenHost with processes := ⟨[], { launch := .refused .notPermitted }⟩ }).1 =
          .error (.system .notPermitted "git") :=
  ⟨rfl, rfl, rfl, rfl, rfl⟩

end BuildBench.Checkout
