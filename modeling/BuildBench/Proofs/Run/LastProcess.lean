import BuildBench.Proofs.Files.Copies
import BuildBench.Proofs.History.Processes
import BuildBench.Proofs.Run.LawsOfParts
import BuildBench.Proofs.Run.Reports
import BuildBench.Proofs.Settings.CommandReferences
import BuildBench.Proofs.Settings.EditedProfiles

/-!
# The last process of a measurement

A measurement that succeeds has started a process. After the last one it only writes records and takes
its temporary file away, so that the size which it finds is the one that this process left; what an
external program printed is passed on as it is.

`Trimmed` is the law of what comes after the process. It looks back: what stands afterwards stood
there before.
-/

namespace BuildBench

open BuildBench.Action

variable {α β : Type} {t u v w : World} {ds : List Deed} {o : Outcome}

/-! ## Records, and files taken away -/

/-- Whatever stands somewhere stood there before. Only open log files may have become longer. -/
structure Trimmed (w v : World) : Prop extends Untouched w v where
  current : v.files.current = w.files.current
  nodes : ∀ location after, v.files.root.node? location = some after →
    ∃ before, w.files.root.node? location = some before ∧
      (after = before ∨ .file location ∈ w.handlers ∧ ∃ added, after = before.append added)

instance : Law Trimmed where
  refl w := ⟨Law.refl w, rfl, fun _ after held => ⟨after, held, .inl rfl⟩⟩
  trans first second := by
    refine ⟨Law.trans first.toUntouched second.toUntouched, second.current.trans first.current,
      fun location after held => ?_⟩
    obtain ⟨between, found, later⟩ := second.nodes location after held
    obtain ⟨before, there, earlier⟩ := first.nodes location between found
    refine ⟨before, there, ?_⟩
    rcases later with rfl | ⟨reopened, more, rfl⟩
    · exact earlier
    · have opened := first.logs location reopened
      rcases earlier with rfl | ⟨-, added, rfl⟩
      · exact .inr ⟨opened, more, rfl⟩
      · exact .inr ⟨opened, added ++ more, before.append_append added more⟩

namespace Trimmed

/-- What stands somewhere stood there before, because the same stands everywhere. -/
theorem of_nodes (untouched : Untouched w v) (current : v.files.current = w.files.current)
    (nodes : ∀ location, v.files.root.node? location = w.files.root.node? location) :
    Trimmed w v :=
  ⟨untouched, current, fun location after held => ⟨after, nodes location ▸ held, .inl rfl⟩⟩

/-- Nothing was marked on the trail. -/
theorem idle {F : Fault → Prop} {a : Action α} (kept : Keeps Trimmed F a) : Keeps Idle F a :=
  kept.weaken fun _ _ trimmed => trimmed.toUntouched.enacted

/-- Each handler in turn: the console touches no file, and a log file that is open becomes longer.
-/
theorem record {F : Fault → Prop} (r : Record) : Keeps Trimmed F (record r) := by
  refine record_keeps r fun w handler opened => ?_
  have untouched := (emit_untouched r w handler).1
  cases handler with
  | journal => exact .of_nodes untouched rfl fun _ => rfl
  | console least =>
    have files : (emit r w (.console least)).files = w.files := by
      simp only [emit]
      split <;> rfl
    exact .of_nodes untouched (by rw [files]) fun _ => by rw [files]
  | file goal =>
    refine ⟨untouched, (emit_logged r opened).current, fun location after held => ?_⟩
    rw [emit, node?_appendAt] at held
    split at held
    · next here =>
      subst here
      obtain ⟨before, found, rfl⟩ := Option.map_eq_some_iff.mp held
      exact ⟨before, found, .inr ⟨opened, _, rfl⟩⟩
    · exact ⟨after, held, .inl rfl⟩

/-- A line of the log is a record. -/
theorem log {F : Fault → Prop} (level : Level) (part text : String) :
    Keeps Trimmed F (log level part text) :=
  record _

/-- What is taken away leaves everything else where it stood, and the handler changes nothing. -/
theorem unlinkIfThere (path : PathName) :
    Keeps Trimmed (fun f => f.isStage = false) (Disk.unlinkIfThere path) := by
  have unlinked : Keeps Trimmed (fun f => f.isStage = false) (Disk.unlink path) := by
    refine fun w => ⟨?_, (Disk.change_quiet path _ w).2⟩
    rcases ran : Disk.unlink path w with ⟨f | x, u⟩
    · obtain ⟨g, failed⟩ | ⟨files, -, -, changed⟩ := Disk.change_cases path (·.unlink path) w
      · cases (ran.symm.trans failed : _)
        exact Law.refl w
      · cases (ran.symm.trans changed : _)
    · obtain ⟨files, done, rfl⟩ := Disk.change_ok ran
      obtain ⟨goal, -, closed, rfl⟩ := Files.unlink_ok done
      refine ⟨withFiles_untouched w _, rfl, fun location after held => ?_⟩
      change (w.files.root.remove goal).node? location = some after at held
      rw [Folder.node?_remove (Folder.nonempty_of_closed closed)] at held
      split at held
      · cases held
      · exact ⟨after, held, .inl rfl⟩
  refine .tryCatch unlinked fun f other => ?_
  split
  · exact .pure _
  · exact .throw other

/-- A path name that leads somewhere led there before. -/
theorem leads (trimmed : Trimmed w v) {path : PathName} {location : Location} {after : Node}
    (leads : v.files.Leads true path location)
    (held : v.files.root.node? location = some after) : w.files.Leads true path location := by
  refine leads.of_grows_held (fun other kind found => ?_) trimmed.current.symm ?_
  · obtain ⟨n, held, rfl⟩ := Option.map_eq_some_iff.mp found
    obtain ⟨before, there, rfl | ⟨-, added, rfl⟩⟩ := trimmed.nodes other n held
    · exact Option.map_eq_some_iff.mpr ⟨_, there, rfl⟩
    · exact Option.map_eq_some_iff.mpr ⟨_, there, (Node.kind_append added before).symm⟩
  · simp [Folder.kind?, held]

end Trimmed

/-! ## The last process -/

/-- The last deed is a process with some outcome. Since it ended only records were written and files
taken away. -/
def EndsWith (o : Outcome) (w : World) (ds : List Deed) (v : World) : Prop :=
  ∃ earlier c limit files u, ds = earlier ++ [.process c limit o files] ∧
    u.files = o.leaves c.argv limit files ∧ SameHost w u ∧ Trimmed u v

namespace EndsWith

/-- Up to the process and after it the machine is the same. -/
theorem host (ends : EndsWith o w ds v) : SameHost w v := by
  obtain ⟨earlier, c, limit, files, u, -, -, host, trimmed⟩ := ends
  exact host.trans trimmed.toSameHost

/-- Deeds in front leave the last one where it is. -/
theorem after {first : List Deed} (ends : EndsWith o u ds v) (host : SameHost w u) :
    EndsWith o w (first ++ ds) v := by
  obtain ⟨earlier, c, limit, files, t, rfl, left, later, trimmed⟩ := ends
  exact ⟨first ++ earlier, c, limit, files, t, (List.append_assoc ..).symm, left,
    host.trans later, trimmed⟩

/-- What is written or taken away after the process may go on for a while. -/
theorem trimmed (ends : EndsWith o w ds u) (trimmed : Trimmed u v) : EndsWith o w ds v := by
  obtain ⟨earlier, c, limit, files, t, same, left, host, before⟩ := ends
  exact ⟨earlier, c, limit, files, t, same, left, host, Law.trans before trimmed⟩

/-- One process was run, and the files are as it left them. -/
theorem of_ran (ran : Ran w v) (enacted : Enacted w ds v) :
    EndsWith w.processes.next.1 w ds v := by
  obtain ⟨c, limit, alone, left⟩ := ran.left
  obtain rfl := enacted.deedsUntil_eq.symm.trans alone.deedsUntil_eq
  exact ⟨[], c, limit, w.files, v, rfl, left, enacted.toSameHost, Law.refl v⟩

end EndsWith

/-- What an action does if it gives a value. -/
abbrev Action.Gives (P : World → List Deed → α → World → Prop) (a : Action α) : Prop :=
  a.Enacts fun w ds r v => ∀ x, r = .ok x → P w ds x v

namespace Action.Gives

variable {P : World → List Deed → α → World → Prop} {Q : World → List Deed → β → World → Prop}
  {a : Action α} {next : α → Action β}

/-- A handler that throws makes no value. -/
theorem rethrown {handler : Fault → Action α} (gives : a.Gives P)
    (throws : ∀ f, ∃ g, handler f = throw g) : (tryCatch a handler).Gives P := by
  intro w
  obtain ⟨ds, enacted, holds⟩ := gives w
  rcases ran : a w with ⟨f | x, u⟩ <;> rw [ran] at enacted holds <;> simp only [tryCatch_run, ran]
  · obtain ⟨g, same⟩ := throws f
    rw [same]
    exact ⟨ds, enacted, by simp [throw_run]⟩
  · exact ⟨ds, enacted, holds⟩

/-- What comes before an action is in front of its history. -/
theorem after {R : World → List Deed → Except Fault α → World → Prop} (first : a.Enacts R)
    (second : ∀ x, (next x).Gives Q)
    (moves : ∀ w u earlier ds y v, SameHost w u → Q u ds y v → Q w (earlier ++ ds) y v) :
    (a >>= next).Gives Q := by
  intro w
  obtain ⟨ds, enacted, -⟩ := first w
  rcases ran : a w with ⟨f | x, u⟩ <;> rw [ran] at enacted <;> simp only [bind_run, ran]
  · exact ⟨ds, enacted, by simp⟩
  · obtain ⟨more, later, holds⟩ := second x u
    exact ⟨ds ++ more, enacted.trans later, fun y ended =>
      moves w u ds more y _ enacted.toSameHost (holds y ended)⟩

/-- What cannot be computed gives no value. -/
theorem given {r : Except Fault α} (second : ∀ x, r = .ok x → (next x).Gives Q) :
    (ofResult r >>= next).Gives Q := by
  cases r with
  | error f => exact fun w => ⟨[], Law.refl (R := Idle) w, by simp [bind_run, ofResult_run]⟩
  | ok x => exact second x rfl

/-- What comes after an action and does nothing to the outside. -/
theorem followed {R : World → World → Prop} {F : Fault → Prop} (first : a.Gives P)
    (kept : ∀ x, Keeps R F (next x)) (idle : ∀ u v, R u v → Idle u v)
    (joined : ∀ w ds x u y v, P w ds x u → R u v → next x u = (.ok y, v) → Q w ds y v) :
    (a >>= next).Gives Q := by
  refine Enacts.chain first (by simp) fun w ds x u holds => ?_
  refine ⟨[], idle u _ (kept x u).1, fun y ended => ?_⟩
  rw [List.append_nil]
  exact joined w ds x u y _ (holds x rfl) (kept x u).1 (Prod.ext ended rfl)

/-- What comes after an action and only writes records or takes files away. -/
theorem before {F : Fault → Prop} (first : a.Gives P) (kept : ∀ x, Keeps Trimmed F (next x))
    (joined : ∀ w ds x u y v, P w ds x u → Trimmed u v → next x u = (.ok y, v) → Q w ds y v) :
    (a >>= next).Gives Q :=
  followed first kept (fun _ _ trimmed => trimmed.toUntouched.enacted) joined

/-- The last part comes after the value was made and trims at most. -/
theorem thenAlways {F : Fault → Prop} {last : Action Unit} (gives : a.Gives P)
    (kept : Keeps Trimmed F last) (joined : ∀ w ds x u v, P w ds x u → Trimmed u v → P w ds x v) :
    (thenAlways a last).Gives P := by
  intro w
  obtain ⟨ds, enacted, holds⟩ := gives w
  rcases ran : a w with ⟨result, u⟩
  rw [ran] at enacted holds
  have trimmed := kept u
  have idle := Trimmed.idle kept u
  unfold Action.thenAlways
  simp only [bind_run, attempt_run, ran]
  rcases ended : last u with ⟨f | _, v⟩ <;> rw [ended] at trimmed idle <;> dsimp only
  · exact ⟨ds ++ [], enacted.trans idle.1, by simp⟩
  · rw [ofResult_run]
    refine ⟨ds ++ [], enacted.trans idle.1, fun x same => ?_⟩
    rw [List.append_nil]
    exact joined w ds x u v (holds x same) trimmed.1

end Action.Gives

/-! ## Processes -/

/-- A process that is completed was read, its output included. -/
theorem Program.run_stdout {c : Command} {p : Completed} (ended : run c w = (.ok p, v)) :
    w.processes.next.1.stdout.read = .ok p.stdout := by
  rw [run_run] at ended
  have came := (Prod.mk.inj ended).1
  unfold verdict at came
  split at came <;> try cases came
  split at came <;> try cases came
  exact (completed_eq_ok.mp came).2.1

/-- Before the process there is a record, and after it nothing. -/
theorem Command.run_ends (command : Value) (folder : Option PathName) (env : Option Environment)
    (timeout : Value) :
    (Command.run command folder env timeout).Gives fun w ds p v =>
      ∃ o, EndsWith o w ds v ∧ o.stdout.read = .ok p.stdout := by
  refine .given fun argv _ => .after (log_quiet _ _ _).idle.enacts (fun _ w => ?_)
    fun _ _ _ _ _ _ host ⟨o, ends, told⟩ => ⟨o, ends.after host, told⟩
  obtain ⟨ds, enacted, -⟩ := Program.run_starts
    { argv := argv, folder := folder.map PathName.display, env := env, timeout := timeout } w
  exact ⟨ds, enacted, fun p ended => ⟨_, .of_ran (Program.run_ran _ w) enacted,
    Program.run_stdout (Prod.ext ended rfl)⟩⟩

namespace Timing

/-- After the process only times and counters are read. -/
theorem repetition_ends (command : Value) (folder : Option String) (env : Option Environment)
    (limit : Value) :
    (repetition command folder env limit).Gives fun w ds _ v => ∃ o, EndsWith o w ds v := by
  intro w
  obtain ⟨ds, enacted, started⟩ := repetition_starts command folder env limit w
  refine ⟨ds, enacted, fun r ended => ?_⟩
  rcases repetition_ran command folder env limit w with idle | ran
  · -- A repetition with a result has a deed, so it cannot have left the world as it was.
    rw [ended] at started
    rw [idle] at enacted
    cases started
    have none := (Law.refl w : Idle w w).deedsUntil_eq
    cases none.symm.trans enacted.deedsUntil_eq
  · exact ⟨_, .of_ran ran enacted⟩

/-- The repetition is checked and recorded, which only trims. -/
theorem successful_ends (command : Value) (folder : PathName) (env : Environment) (limit : Value)
    (isWarmup : Bool) (number : Nat) :
    (successful command folder env limit isWarmup number).Gives
      fun w ds _ v => ∃ o, EndsWith o w ds v := by
  refine .before (F := fun _ => True) (Gives.rethrown (repetition_ends _ _ _ _) fun f => ?_)
    (fun r => .bind (.ofResult fun _ _ => trivial) fun _ =>
      .bind (Trimmed.log _ _ _) fun _ => .pure _)
    fun w ds r u _ v ⟨o, ends⟩ trimmed _ => ⟨o, ends.trimmed trimmed⟩
  split <;> exact ⟨_, rfl⟩

/-- The last of several repetitions is the last process. -/
theorem repetitions_ends (command : Value) (folder : PathName) (env : Environment)
    (limit : Value) (left warmup done : Nat) :
    (repetitions command folder env limit left warmup done).Gives fun w ds _ v =>
      left = 0 ∧ ds = [] ∧ Trimmed w v ∨ ∃ o, EndsWith o w ds v := by
  induction left generalizing warmup done with
  | zero => exact fun w => ⟨[], Law.refl (R := Idle) w, fun _ _ => .inl ⟨rfl, rfl, Law.refl w⟩⟩
  | succ left ih =>
    have others (r : Repetition) : (do
        let rest ← repetitions command folder env limit left (warmup - 1) (done + 1)
        return if 0 < warmup then rest else r :: rest : Action (List Repetition)).Gives
          fun w ds _ v => ds = [] ∧ Trimmed w v ∨ ∃ o, EndsWith o w ds v := by
      refine .before (F := fun _ => True) (ih (warmup - 1) (done + 1)) (fun _ => .pure _) ?_
      rintro w ds rest u _ v (⟨-, rfl, none⟩ | ⟨o, ends⟩) trimmed -
      · exact .inl ⟨rfl, Law.trans none trimmed⟩
      · exact .inr ⟨o, ends.trimmed trimmed⟩
    refine Enacts.chain (successful_ends _ _ _ _ _ _) (by simp) fun w ds r u ended => ?_
    obtain ⟨o, ends⟩ := ended r rfl
    obtain ⟨more, enacted, later⟩ := others r u
    refine ⟨more, enacted, fun list gave => .inr ?_⟩
    rcases later list gave with ⟨rfl, trimmed⟩ | ⟨last, rest⟩
    · rw [List.append_nil]
      exact ⟨o, ends.trimmed trimmed⟩
    · exact ⟨last, rest.after ends.host⟩

/-- What is shown of a measurement: the summary of the repetitions as text, or what the external
program printed. -/
inductive Shows (benchmark : BenchmarkSettings) (o : Outcome) : Option TimingSummary → String → Prop
  | builtin {summary : TimingSummary} {output : String} (tool : benchmark.tool = .text "builtin")
    (laidOut : layOut summary 1 = .ok output) : Shows benchmark o (some summary) output
  | hyperfine {summary : Option TimingSummary} {output : String}
    (tool : benchmark.tool = .text "hyperfine") (printed : o.stdout.read = .ok output) :
    Shows benchmark o summary output

/-- However the repetitions are counted, there is one. -/
def Repeats (benchmark : BenchmarkSettings) : Prop :=
  ∀ warmup runs, countOf defaultWarmup benchmark.warmup = .ok warmup →
    countOf defaultRuns benchmark.runs = .ok runs → 0 < (warmup + runs).toNat

/-- A count that is not below a bound is not. -/
theorem le_of_countOf {default bound n : Int} {v : Value} (counted : countOf default v = .ok n)
    (enough : v.below? bound ≠ some true) (usual : bound ≤ default) : bound ≤ n := by
  cases v <;> cases counted
  · exact usual
  all_goals simpa [Value.below?] using enough

/-- Settings about which nothing is found make a command run. -/
theorem repeats_of_sound {s : Settings} {found : List Finding} {benchmark : BenchmarkSettings}
    (listed : s.findings = .ok found) (sound : Sound found)
    (given : s.benchmark.given = .ok benchmark) : Repeats benchmark := by
  obtain ⟨_, _, _, _, given', -, asked, soundAsked, -⟩ := Settings.sound_of_findings listed sound
  cases given.symm.trans given'
  obtain ⟨-, counts, counted, soundCounts⟩ := Finding.benchmarkFindings_sound asked soundAsked
  obtain ⟨warmed, measured⟩ := Finding.countFindings_sound counted soundCounts
  intro warmup runs someWarmup someRuns
  have first := le_of_countOf someWarmup warmed (by decide)
  have second := le_of_countOf someRuns measured (by decide)
  omega

variable (command : Value) (folder : PathName) (env : Environment)

/-- There is a repetition, so there is a last one. The summary is computed afterwards and laid out
as text. -/
theorem measureRepeatedly_ends {benchmark : BenchmarkSettings} (repeats : Repeats benchmark) :
    (measureRepeatedly command folder env benchmark.warmup benchmark.runs
        benchmark.timeout).Gives fun w ds x v =>
      (∃ o, EndsWith o w ds v) ∧ layOut x.1 1 = .ok x.2 := by
  refine .given fun warmup warmed => .given fun runs counted => ?_
  refine .before (F := fun _ => True) (repetitions_ends _ _ _ _ _ _ _)
    (fun _ => .bind (.given _) fun _ => .bind (.given _) fun _ => .pure _) ?_
  rintro w ds measured u ⟨summary, output⟩ v (⟨none, -⟩ | ⟨o, ends⟩) trimmed ended
  · have some := repeats warmup runs warmed counted
    omega
  · obtain ⟨_, _, summed, ended⟩ := ok_of_bind_ok ended
    obtain ⟨text, _, laidOut, ended⟩ := ok_of_bind_ok ended
    rw [ofResult_run] at laidOut
    cases (Prod.mk.inj ended).1
    exact ⟨⟨o, ends.trimmed trimmed⟩, (Prod.mk.inj laidOut).1⟩

/-- Records are written and the report is read after the external program. -/
theorem timeWithReport_ends (report : PathName) (warmup runs : Value) :
    (timeWithReport report command folder env warmup runs).Gives fun w ds x v =>
      ∃ o, EndsWith o w ds v ∧ o.stdout.read = .ok x.2 := by
  refine .given fun argv _ => .before (F := fun _ => True)
    (Gives.rethrown (Command.run_ends _ _ _ _) fun f => ?_) (fun p => ?_) ?_
  · split <;> exact ⟨_, rfl⟩
  · split
    · exact .bind (.forM fun _ => Trimmed.log _ _ _) fun _ =>
        .bind (readReport_obeys Trimmed.log report) fun _ => .pure _
    · exact .throw trivial
  · rintro w ds p u ⟨summary, output⟩ v ⟨o, ends, printed⟩ trimmed ended
    refine ⟨o, ends.trimmed trimmed, ?_⟩
    split at ended
    · obtain ⟨_, _, -, ended⟩ := ok_of_bind_ok ended
      obtain ⟨_, _, -, ended⟩ := ok_of_bind_ok ended
      cases (Prod.mk.inj ended).1
      exact printed
    · exact absurd ended throw_not_ok

/-- By which timer is to be used: the text that is shown is the summary of the one, and the output
of the other. -/
theorem measure_ends {benchmark : BenchmarkSettings} (repeats : Repeats benchmark) :
    (measure benchmark command folder env).Gives fun w ds x v =>
      ∃ o, EndsWith o w ds v ∧ Shows benchmark o x.1 x.2 := by
  refine .after (log_quiet _ _ _).idle.enacts (fun _ => ?_)
    fun _ _ _ _ _ _ host ⟨o, ends, shows⟩ => ⟨o, ends.after host, shows⟩
  split
  · next builtin =>
    refine .before (F := fun _ => True) (measureRepeatedly_ends command folder env repeats)
      (fun _ => .pure _) ?_
    rintro w ds ⟨summary, output⟩ u _ v ⟨⟨o, ends⟩, laidOut⟩ trimmed ended
    cases (Prod.mk.inj ended).1
    exact ⟨o, ends.trimmed trimmed, .builtin (isText_iff.mp builtin) laidOut⟩
  split
  · next external =>
    have tool := isText_iff.mp external
    refine .after makeReportFile_quiet.idle.enacts (fun report => ?_)
      fun _ _ _ _ _ _ host ⟨o, ends, shows⟩ => ⟨o, ends.after host, shows⟩
    refine Enacts.mono (Gives.thenAlways (timeWithReport_ends command folder env report _ _)
      (Trimmed.unlinkIfThere report) fun _ _ _ _ _ ⟨o, ends, printed⟩ trimmed =>
        ⟨o, ends.trimmed trimmed, printed⟩) ?_
    rintro w ds r v gave ⟨summary, output⟩ ended
    obtain ⟨o, ends, printed⟩ := gave _ ended
    exact ⟨o, ends, .hyperfine tool printed⟩
  · exact .given fun _ _ w => ⟨[], Law.refl (R := Idle) w, by simp [throw_run]⟩

end Timing

/-! ## The size -/

/-- The size of what a path name leads to. A file that is an open log file may have become longer
since. -/
inductive Sized (w : World) (files : Files) (path : PathName) (size : Nat) : Prop
  | file {location : Location} {content : ByteArray} {executable : Bool}
    (leads : files.Leads true path location)
    (held : files.root.node? location = some (.file content executable))
    (least : content.size ≤ size) (exact : .file location ∉ w.handlers → size = content.size)
  | other {location : Location} {n : Node} (leads : files.Leads true path location)
    (held : files.root.node? location = some n) (noFile : n.kind ≠ .file)
    (measured : ∃ e : Entry, e.node.kind ≠ .file ∧ size = w.sizeOf e)

/-- A size is told of what the name leads to. -/
theorem Disk.size_ok {path : PathName} {size : Nat} (found : Disk.size path w = (.ok size, v)) :
    v = w ∧ ∃ location e, w.files.Leads true path location ∧
      w.files.root.node? location = some e.node ∧ size = w.sizeOf e := by
  obtain ⟨_, u, named, found⟩ := ok_of_bind_ok found
  obtain rfl : w = u := by simpa [named] using (Disk.requireName_asks path w).1
  rw [bind_run, get_run] at found
  dsimp only at found
  rcases held : w.files.lookUp path with e | e <;> rw [held] at found
  · exact absurd found throw_not_ok
  obtain ⟨location, leads, there⟩ := Files.lookUp_ok held
  cases found
  exact ⟨rfl, location, e, leads, by simp [Folder.node?, there], rfl⟩

/-- The size of an entry is known from the entry, or for a folder from the machine. -/
theorem SameHost.sizeOf (host : SameHost w v) (e : Entry) : v.sizeOf e = w.sizeOf e := by
  cases e with
  | folder inner => exact congrFun host.folderSize inner
  | _ => rfl

/-- The size that is found afterwards is that of before. -/
theorem Trimmed.sized (trimmed : Trimmed u v) (host : SameHost w u) {path : PathName} {size : Nat}
    (found : Disk.size path v = (.ok size, t)) : Sized w u.files path size := by
  obtain ⟨-, location, e, leads, held, rfl⟩ := Disk.size_ok found
  have before := trimmed.leads leads held
  obtain ⟨n, there, same⟩ := trimmed.nodes location e.node held
  have measured := (host.trans trimmed.toSameHost).sizeOf e
  have other (noFile : e.node.kind ≠ .file) : Sized w u.files path (v.sizeOf e) := by
    refine .other before there ?_ ⟨e, noFile, measured⟩
    rcases same with rfl | ⟨-, added, grown⟩
    · exact noFile
    · rwa [grown, Node.kind_append] at noFile
  cases e with
  | file content executable =>
    rcases same with rfl | ⟨opened, added, grown⟩
    · exact .file before there le_rfl fun _ => rfl
    · cases n with
      | file less _ =>
        cases grown
        exact .file before there (by simp [World.sizeOf, ByteArray.size_append])
          fun closed => absurd (host.logs _ opened) closed
      | _ => cases grown
  | folder | link => exact other nofun

/-! ## Measurements -/

/-- What a measurement says comes from the last process of a history: what is shown of it, and the
size that this process left. -/
def Measurement.TakenAfter (m : Measurement) (benchmark : BenchmarkSettings) (artifact : PathName)
    (w : World) (ds : List Deed) : Prop :=
  ∃ earlier c limit o files, ∃ size : Nat, ds = earlier ++ [.process c limit o files] ∧
    Timing.Shows benchmark o m.timing m.timingOutput ∧ m.binarySize = size ∧
    Sized w (o.leaves c.argv limit files) artifact size

/-- A log file that is open later was open before, so a closed one has its exact size in both. -/
theorem Sized.host {files : Files} {path : PathName} {size : Nat} (sized : Sized u files path size)
    (host : SameHost w u) : Sized w files path size := by
  cases sized with
  | file leads held least exact =>
    exact .file leads held least fun closed => exact fun opened => closed (host.logs _ opened)
  | other leads held noFile measured =>
    obtain ⟨e, noFile', rfl⟩ := measured
    exact .other leads held noFile ⟨e, noFile', host.sizeOf e⟩

namespace Measurement.TakenAfter

variable {m : Measurement} {benchmark : BenchmarkSettings} {artifact : PathName}

/-- The size is all that depends on the world. -/
theorem host (taken : m.TakenAfter benchmark artifact u ds) (host : SameHost w u) :
    m.TakenAfter benchmark artifact w ds := by
  obtain ⟨earlier, c, limit, o, files, size, same, shows, counted, sized⟩ := taken
  exact ⟨earlier, c, limit, o, files, size, same, shows, counted, sized.host host⟩

/-- The last deed is the same one. -/
theorem after {first : List Deed} (taken : m.TakenAfter benchmark artifact u ds)
    (host : SameHost w u) : m.TakenAfter benchmark artifact w (first ++ ds) := by
  obtain ⟨earlier, c, limit, o, files, size, rfl, shows, counted, sized⟩ := taken.host host
  exact ⟨first ++ earlier, c, limit, o, files, size, (List.append_assoc ..).symm, shows, counted,
    sized⟩

end Measurement.TakenAfter

/-- After the timing the size is asked for and records are written. -/
theorem Measurement.takeOn_gives {sec : Section BenchmarkSettings} {benchmark : BenchmarkSettings}
    (given : sec.given = .ok benchmark) (repeats : Timing.Repeats benchmark)
    (file artifact workdir : PathName) (env : Environment) :
    (takeOn file artifact sec workdir env).Gives fun w ds m _ =>
      m.TakenAfter benchmark artifact w ds := by
  have logged (m : Measurement) (text : String) : (do
      log .debug "measure" text
      return m : Action Measurement).Obeys Trimmed :=
    .bind (Trimmed.log _ _ _) fun _ => .pure _
  have sized : (measureSize artifact).Obeys Trimmed := by
    refine .tryCatch (Disk.size_asks _).obeys fun f _ => ?_
    split <;> exact .throw trivial
  unfold takeOn
  rw [given, ofResult_ok_bind]
  refine .after (benchmarkCommand_asks _ _ _ _).quiet.idle.enacts (fun command => ?_)
    fun _ _ _ _ _ _ host taken => taken.after host
  refine .before (F := fun _ => True) (Timing.measure_ends _ _ _ repeats)
    (fun _ => .bind sized fun _ => logged _ _) ?_
  rintro w ds ⟨timing, output⟩ u m v ⟨o, ends, shows⟩ - ended
  obtain ⟨size, t, measured, ended⟩ := ok_of_bind_ok ended
  obtain ⟨_, _, -, ended⟩ := ok_of_bind_ok ended
  cases (Prod.mk.inj ended).1
  have found : Disk.size artifact u = (.ok size, t) :=
    ok_of_tryCatch_ok measured fun f s y r => by split <;> exact throw_not_ok
  obtain ⟨earlier, c, limit, files, left, rfl, same, host, trimmed⟩ := ends
  refine ⟨earlier, c, limit, o, files, size, rfl, shows, rfl, ?_⟩
  rw [← same]
  exact trimmed.sized host found

/-- The download comes in front. -/
theorem Measurement.take_gives {sec : Section BenchmarkSettings} {benchmark : BenchmarkSettings}
    (given : sec.given = .ok benchmark) (repeats : Timing.Repeats benchmark)
    (artifact : PathName) (fixture : FixtureSettings) (workdir : PathName) (env : Environment) :
    (take artifact fixture sec workdir env).Gives fun w ds m _ =>
      m.TakenAfter benchmark artifact w ds :=
  .after (Fixture.fetch_fetches _ _ _ _) (fun _ => takeOn_gives given repeats _ _ _ _)
    fun _ _ _ _ _ _ host taken => taken.after host

/-- A report says what the last process of a history has shown and left. This process was started by
the stage of measurement, and the stage ended after it. -/
def Report.Takes (report : Report) (benchmark : BenchmarkSettings) (w : World) (ds : List Deed) :
    Prop :=
  ∃ m artifact first begun inner last, report.measurement = some m ∧ report.artifact = some artifact ∧
    ds = first ++ .begins Stage.measure.name begun :: inner ++ [.ends Stage.measure.name last] ∧
    m.TakenAfter benchmark artifact w inner

namespace Run

variable {plan : Plan} {P : World → List Deed → α → World → Prop}

/-- What the action of a stage gives is in the history between the bounds of the stage. -/
theorem stage_gives (listening : plan.Listening) (name : Stage) {action : Action α}
    (gives : action.Gives P) :
    (stage plan name action).Gives fun w ds x _ => ∀ value, x.2 = some value →
      ∃ u inner t, P u inner value t ∧ SameHost w u ∧
        ds = .begins name.name u.files :: inner ++ [.ends name.name t.files] := by
  refine Enacts.mono (stage_bounded listening name gives) ?_
  rintro w ds r v ⟨u, inner, result, t, holds, host, concludes, same⟩ ⟨reported, _⟩ rfl value rfl
  exact ⟨u, inner, t, holds value concludes.1, host, same⟩

variable {benchmark : BenchmarkSettings}

/-- The settings of the measurement are those of the plan. -/
theorem measureStage_gives {s : Settings} (given : s.benchmark.given = .ok benchmark)
    (repeats : Timing.Repeats benchmark) (artifact workdir : PathName) (env : Environment) :
    (measureStage s artifact workdir env).Gives fun w ds m _ =>
      m.TakenAfter benchmark artifact w ds :=
  .given fun _ _ => Measurement.take_gives given repeats _ _ _ _

/-- A report without a measurement, or one that was taken after the last process. -/
def MeasuresLast (benchmark : BenchmarkSettings) (w : World) (ds : List Deed) (report : Report) : Prop :=
  report.measurement ≠ none → report.Takes benchmark w ds

/-- There is no measurement to speak of. -/
theorem unmeasured {report : Report} (bare : report.measurement = none) :
    (Pure.pure report : Action Report).Gives fun w ds ended _ => MeasuresLast benchmark w ds ended :=
  fun w => ⟨[], Law.refl (R := Idle) w, fun ended same measured => by
    cases same
    exact absurd bare measured⟩

/-- More deeds in front leave the last process the last one. -/
theorem MeasuresLast.after {first ds : List Deed} {w u : World} {report : Report}
    (reported : MeasuresLast benchmark u ds report) (host : SameHost w u) :
    MeasuresLast benchmark w (first ++ ds) report := by
  intro measured
  obtain ⟨m, artifact, before, begun, inner, last, some, made, rfl, taken⟩ := reported measured
  exact ⟨m, artifact, first ++ before, begun, inner, last, some, made, by simp, taken.host host⟩

/-- Stage by stage: a report before the last one has no measurement. -/
theorem fromInstall_takes (listening : plan.Listening)
    (given : plan.settings.benchmark.given = .ok benchmark) (repeats : Timing.Repeats benchmark)
    (env : Environment) {report : Report} (bare : report.measurement = none) (prepared : Prepared) :
    (fromInstall plan env report prepared).Gives fun w ds ended _ =>
      MeasuresLast benchmark w ds ended := by
  refine .after (stage_bounded listening .install (installStage_orderly .null _ _))
    (fun (_, value) => ?_) fun _ _ _ _ _ _ host reported => reported.after host
  rcases value with _ | _
  · exact unmeasured bare
  refine .after (stage_bounded listening .build (buildStage_orderly .null _ _ _))
    (fun (_, value) => ?_) fun _ _ _ _ _ _ host reported => reported.after host
  rcases value with _ | product
  · exact unmeasured bare
  have measured := stage_gives listening .measure
    (measureStage_gives given repeats product.artifact prepared.workdir env)
  refine .followed (R := Untouched) (F := fun _ => True) measured (fun (_, value) => ?_)
    (fun _ _ => Untouched.enacted) ?_
  · rcases value with _ | m
    · exact .pure _
    · exact .bind (saveCache_untouched _ _) fun _ => .bind (record_untouched _) fun _ => .pure _
  · rintro w ds ⟨r, value⟩ u ended v taken - gave
    rcases value with _ | m
    · cases (Prod.mk.inj gave).1
      exact absurd bare
    · obtain ⟨_, _, -, gave⟩ := ok_of_bind_ok gave
      obtain ⟨_, _, -, gave⟩ := ok_of_bind_ok gave
      cases (Prod.mk.inj gave).1
      obtain ⟨t, inner, last, holds, host, rfl⟩ := taken m rfl
      exact fun _ => ⟨m, product.artifact, [], t.files, inner, last.files, rfl, rfl, rfl,
        holds.host host⟩

/-- What a run reports of a measurement was taken after its last process. -/
theorem run_takes (listening : plan.Listening)
    (given : plan.settings.benchmark.given = .ok benchmark) (repeats : Timing.Repeats benchmark) :
    (run plan).Gives fun w ds report _ => MeasuresLast benchmark w ds report := by
  refine .after ((checkSettings_untouched _).weaken fun _ _ => Untouched.enacted).enacts (fun _ => ?_)
    fun _ _ _ _ _ _ host reported => reported.after host
  refine .after ((environment_untouched _).weaken fun _ _ => Untouched.enacted).enacts (fun env => ?_)
    fun _ _ _ _ _ _ host reported => reported.after host
  have prepares : (prepare plan.settings plan.store).Tells (Orderly .null (· = .setup)) :=
    prepare_orderly _ _
  refine .after (stage_bounded listening .prepare prepares)
    (fun (_, value) => ?_) fun _ _ _ _ _ _ host reported => reported.after host
  rcases value with _ | prepared
  · exact unmeasured rfl
  · exact fromInstall_takes listening given repeats env rfl prepared

end Run

end BuildBench
