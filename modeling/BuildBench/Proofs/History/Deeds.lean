import BuildBench.Proofs.History.Actions
import BuildBench.Run.Basic

/-!
# What a run did

The trail of a run says what it did to the outside and how the files were at each point. Beside the
supplies of outcomes it becomes a history: every start of a process with what the process did, every
download with what the server answered, in order, between the bounds of the stages.

A history is not kept by the actions; it is read off the trail and the supplies that a run began
with. `Enacted` relates it to two worlds of a run in such a manner that the histories of two actions
one after the other are put together, so that laws about histories are proved along the actions.
-/

namespace BuildBench

/-- One thing that a run did, with what came of it and the files right before it. -/
inductive Deed where
  | begins (stage : String) (files : Files)
  | ends (stage : String) (files : Files)
  | process (command : Program.Command) (limit : Value) (outcome : Outcome) (files : Files)
  | download (address : Value) (reply : Reply) (files : Files)

/-- The limit of a process that was just started: the first wait tells it, if there is one. -/
def limitOf (timeout : Value) : List Mark → Value
  | ⟨.event (.wait limit), _⟩ :: _ => limit
  | _ => timeout

/-- The history that a trail tells, when these outcomes and replies are still to come. -/
def history (processes : Supply Outcome) (replies : Supply Reply) : List Mark → List Deed
  | [] => []
  | ⟨.begins stage, files⟩ :: rest => .begins stage files :: history processes replies rest
  | ⟨.ends stage, files⟩ :: rest => .ends stage files :: history processes replies rest
  | ⟨.event (.start argv folder env timeout), files⟩ :: rest =>
    .process ⟨argv, folder, env, timeout⟩ (limitOf timeout rest) processes.next.1 files ::
      history processes.next.2 replies rest
  | ⟨.event (.request address _ _), files⟩ :: rest =>
    .download address replies.next.1 files :: history processes replies.next.2 rest
  | _ :: rest => history processes replies rest

/-- What a run did from one of its worlds to a later one. -/
def World.deedsUntil (w v : World) : List Deed :=
  history w.processes w.replies (v.trail.drop w.trail.length)

/-- The first process of a history has the first outcome that was to come. -/
theorem outcome_of_history_cons {processes : Supply Outcome} {replies : Supply Reply}
    {marks : List Mark} {c : Program.Command} {limit : Value} {o : Outcome} {files : Files}
    {rest : List Deed} (told : history processes replies marks = .process c limit o files :: rest) :
    o = processes.next.1 := by
  induction marks with
  | nil => cases told
  | cons mark later ih =>
    rcases mark with ⟨_ | _ | event, before⟩
    · cases told
    · cases told
    · cases event with
      | start => exact (Deed.process.inj (List.cons.inj told).1).2.2.1.symm
      | request => cases told
      | _ => exact ih told

/-! ## Worlds of one run -/

/-- The variables, the users and the sizes of folders are the same in two worlds, and the second has no
log file open that the first has not. -/
structure SameHost (w v : World) : Prop where
  environment : v.environment = w.environment
  accounts : v.accounts = w.accounts
  folderSize : v.folderSize = w.folderSize
  logs : ∀ location, .file location ∈ v.handlers → .file location ∈ w.handlers

/-- Between two worlds nothing was done to the outside. Files may have changed. -/
structure Untouched (w v : World) : Prop extends SameHost w v where
  trail : v.trail = w.trail
  processes : v.processes = w.processes
  replies : v.replies = w.replies

/-- A world is on its own machine. -/
theorem SameHost.rfl {w : World} : SameHost w w :=
  ⟨Eq.refl _, Eq.refl _, Eq.refl _, fun _ opened => opened⟩

/-- The machine stays the same from one world to the next; log files are only closed. -/
theorem SameHost.trans {u v w : World} (first : SameHost u v) (second : SameHost v w) :
    SameHost u w :=
  ⟨second.environment.trans first.environment, second.accounts.trans first.accounts,
    second.folderSize.trans first.folderSize, fun location opened => first.logs location (second.logs location opened)⟩

instance : Action.Law Untouched where
  refl _ := ⟨.rfl, rfl, rfl, rfl⟩
  trans first second :=
    ⟨first.toSameHost.trans second.toSameHost, second.trail.trans first.trail,
      second.processes.trans first.processes, second.replies.trans first.replies⟩

/-- A trail that does not go on with a wait. A wait belongs to the start right before it, so trails
are cut only before other marks. -/
def Unwaited : List Mark → Prop
  | ⟨.event (.wait _), _⟩ :: _ => False
  | _ => True

/-- No wait comes first in two parts that begin with something else. -/
theorem Unwaited.append {first second : List Mark} (one : Unwaited first)
    (other : Unwaited second) : Unwaited (first ++ second) := by
  cases first with
  | nil => exact other
  | cons mark rest =>
    rcases mark with ⟨_ | _ | event, files⟩
    · trivial
    · trivial
    · cases event <;> trivial

/-- A start that no wait follows keeps the limit that it was made with. -/
theorem limitOf_unwaited {timeout : Value} {marks : List Mark} (cut : Unwaited marks) :
    limitOf timeout marks = timeout := by
  cases marks with
  | nil => rfl
  | cons mark rest =>
    rcases mark with ⟨_ | _ | event, files⟩
    · rfl
    · rfl
    · cases event <;> first | rfl | exact cut.elim

/-- From one world to another a run did exactly these things. Whatever the trail goes on with, its
history begins with them. -/
structure Enacted (w : World) (ds : List Deed) (v : World) : Prop extends SameHost w v where
  told : ∃ marks, v.trail = w.trail ++ marks ∧ Unwaited marks ∧
    ∀ more, Unwaited more →
      history w.processes w.replies (marks ++ more) = ds ++ history v.processes v.replies more

/-- The trail between two worlds tells of the deeds in only one way. -/
theorem Enacted.deedsUntil_eq {w v : World} {ds : List Deed} (enacted : Enacted w ds v) :
    w.deedsUntil v = ds := by
  obtain ⟨marks, trail, -, told⟩ := enacted.told
  have whole := told [] trivial
  simpa [World.deedsUntil, trail, history] using whole

/-- The first process of some deeds has the outcome that was the next one before them. -/
theorem Enacted.outcome_eq {w v : World} {c : Program.Command} {limit : Value} {o : Outcome}
    {files : Files} {rest : List Deed} (enacted : Enacted w (.process c limit o files :: rest) v) :
    o = w.processes.next.1 :=
  outcome_of_history_cons enacted.deedsUntil_eq

/-- No mark was added to the trail, so nothing was done. -/
theorem Untouched.enacted {w v : World} (untouched : Untouched w v) : Enacted w [] v := by
  refine ⟨untouched.toSameHost, [], by simp [untouched.trail], trivial, fun more _ => ?_⟩
  simp [untouched.processes, untouched.replies]

/-- The trail of two parts is one behind the other. The second part begins with no wait, so it does
not change what the first one tells. -/
theorem Enacted.trans {u v w : World} {first second : List Deed} (before : Enacted u first v)
    (after : Enacted v second w) : Enacted u (first ++ second) w := by
  obtain ⟨marks, trail, cut, told⟩ := before.told
  obtain ⟨others, otherTrail, otherCut, otherTold⟩ := after.told
  refine ⟨before.toSameHost.trans after.toSameHost, marks ++ others,
    by simp [otherTrail, trail], cut.append otherCut, fun more moreCut => ?_⟩
  rw [List.append_assoc, told _ (otherCut.append moreCut), otherTold _ moreCut, List.append_assoc]

/-- Between two worlds nothing was done that a history tells. -/
def Idle (w v : World) : Prop := Enacted w [] v

instance : Action.Law Idle where
  refl w := (Action.Law.refl w : Untouched w w).enacted
  trans first second := Enacted.trans first second

/-! ## Laws about histories -/

namespace Action

variable {α β : Type}

/-- A law about what an action did holds in every world: it may speak about the worlds before and
after, the things done, and the result. -/
def Enacts (P : World → List Deed → Except Fault α → World → Prop) (a : Action α) : Prop :=
  ∀ w, ∃ ds, Enacted w ds (a w).2 ∧ P w ds (a w).1 (a w).2

/-- What is enacted may be told in less detail. -/
theorem Enacts.mono {P Q : World → List Deed → Except Fault α → World → Prop} {a : Action α}
    (enacts : a.Enacts P) (wider : ∀ w ds r v, P w ds r v → Q w ds r v) : a.Enacts Q := by
  intro w
  obtain ⟨ds, enacted, holds⟩ := enacts w
  exact ⟨ds, enacted, wider _ _ _ _ holds⟩

/-- An attempt does what its action does, and tells how it came out. -/
theorem Enacts.attempt {P : World → List Deed → Except Fault α → World → Prop} {a : Action α}
    (enacts : a.Enacts P) :
    (attempt a).Enacts fun w ds r v => ∃ result, r = .ok result ∧ P w ds result v := by
  intro w
  obtain ⟨ds, enacted, holds⟩ := enacts w
  exact ⟨ds, enacted, _, rfl, holds⟩

/-- A second action goes on with what is known of the value that the first one gave. -/
theorem Enacts.chain {P : World → List Deed → Except Fault α → World → Prop}
    {R : World → List Deed → Except Fault β → World → Prop} {a : Action α} {next : α → Action β}
    (first : a.Enacts P) (stopped : ∀ w ds f v, P w ds (.error f) v → R w ds (.error f) v)
    (second : ∀ w ds x u, P w ds (.ok x) u →
      ∃ more, Enacted u more (next x u).2 ∧ R w (ds ++ more) (next x u).1 (next x u).2) :
    (a >>= next).Enacts R := by
  intro w
  obtain ⟨ds, enacted, holds⟩ := first w
  rcases ran : a w with ⟨f | x, u⟩ <;> rw [ran] at enacted holds <;> simp only [bind_run, ran]
  · exact ⟨ds, enacted, stopped _ _ _ _ holds⟩
  · obtain ⟨more, after, joined⟩ := second w ds x u holds
    exact ⟨ds ++ more, enacted.trans after, joined⟩

/-- Two actions in a row: either the first one fails and that is all, or the deeds of the second
come behind those of the first. -/
theorem Enacts.bind {P : World → List Deed → Except Fault α → World → Prop}
    {Q : α → World → List Deed → Except Fault β → World → Prop}
    {R : World → List Deed → Except Fault β → World → Prop}
    {a : Action α} {next : α → Action β} (first : a.Enacts P)
    (second : ∀ x, (next x).Enacts (Q x))
    (stopped : ∀ w ds f v, P w ds (.error f) v → R w ds (.error f) v)
    (joined : ∀ w ds x u more r v, P w ds (.ok x) u → Q x u more r v → R w (ds ++ more) r v) :
    (a >>= next).Enacts R := by
  refine first.chain stopped fun w ds x u holds => ?_
  obtain ⟨more, after, holdsAfter⟩ := second x u
  exact ⟨more, after, joined _ _ _ _ _ _ _ holds holdsAfter⟩

/-- What is done first under a law that leaves the outside alone is not in the history of the whole.
-/
theorem Enacts.after {P : World → List Deed → Except Fault β → World → Prop}
    {R : World → World → Prop} {F : Fault → Prop} {a : Action α} {next : α → Action β}
    (kept : Keeps R F a) (idle : ∀ w v, R w v → Idle w v)
    (stopped : ∀ w f v, P w [] (.error f) v) (second : ∀ x, (next x).Enacts P)
    (moves : ∀ w u ds r v, R w u → P u ds r v → P w ds r v) : (a >>= next).Enacts P := by
  intro w
  have before := (kept w).1
  rcases ran : a w with ⟨f | x, u⟩ <;> rw [ran] at before <;> simp only [bind_run, ran]
  · exact ⟨[], idle _ _ before, stopped _ _ _⟩
  · obtain ⟨ds, enacted, holds⟩ := second x u
    exact ⟨ds, Enacted.trans (idle _ _ before) enacted, moves _ _ _ _ _ before holds⟩

/-- What an action did is certain, so two things told of it are told together. -/
theorem Enacts.and {P Q : World → List Deed → Except Fault α → World → Prop} {a : Action α}
    (first : a.Enacts P) (second : a.Enacts Q) :
    a.Enacts fun w ds r v => P w ds r v ∧ Q w ds r v := by
  intro w
  obtain ⟨ds, enacted, holds⟩ := first w
  obtain ⟨others, otherEnacted, otherHolds⟩ := second w
  obtain rfl : ds = others := enacted.deedsUntil_eq.symm.trans otherEnacted.deedsUntil_eq
  exact ⟨ds, enacted, holds, otherHolds⟩

/-- What does nothing that a history tells has an empty history. -/
theorem Keeps.enacts {F : Fault → Prop} {a : Action α} (idle : Keeps Idle F a) :
    a.Enacts fun _ ds r _ => ds = [] ∧ ∀ f, r = .error f → F f :=
  fun w => ⟨[], (idle w).1, rfl, (idle w).2⟩

/-- What is told by an action's deeds and its result alone. -/
abbrev Tells (Q : List Deed → Except Fault α → Prop) (a : Action α) : Prop :=
  a.Enacts fun _ ds r _ => Q ds r

/-- What is told may be told in less detail. -/
theorem Tells.mono {P Q : List Deed → Except Fault α → Prop} {a : Action α}
    (tells : a.Tells P) (wider : ∀ ds r, P ds r → Q ds r) : a.Tells Q :=
  Enacts.mono tells fun _ ds r _ => wider ds r

/-- All that an action did is of one sort. -/
abbrev Does (sort : Deed → Prop) (a : Action α) : Prop := a.Tells fun ds _ => ∀ d ∈ ds, sort d

/-- All deeds of two actions are deeds of one of them. -/
theorem Does.bind {sort : Deed → Prop} {a : Action α} {next : α → Action β}
    (first : a.Does sort) (second : ∀ x, (next x).Does sort) : (a >>= next).Does sort := by
  refine Enacts.bind first second (fun _ _ _ _ all => all) ?_
  intro w ds x u more r v all others d among
  rcases List.mem_append.mp among with here | there
  · exact all d here
  · exact others d there

/-- Where nothing is done, all that is done is of whatever sort. -/
theorem Does.of_idle {sort : Deed → Prop} {F : Fault → Prop} {a : Action α}
    (idle : Keeps Idle F a) : a.Does sort := by
  refine Enacts.mono idle.enacts ?_
  rintro w ds r v ⟨rfl, -⟩ d among
  simp at among

/-- What is done idly before an action is not in its history. -/
theorem Tells.after {Q : List Deed → Except Fault β → Prop} {F : Fault → Prop}
    {a : Action α} {next : α → Action β} (idle : Keeps Idle F a)
    (stopped : ∀ f, F f → Q [] (.error f)) (told : ∀ x, (next x).Tells Q) :
    (a >>= next).Tells Q := by
  refine Enacts.bind idle.enacts told ?_ ?_
  · rintro w ds f v ⟨rfl, failed⟩
    exact stopped f (failed f rfl)
  · rintro w ds x u more r v ⟨rfl, -⟩ holds
    exact holds

/-- An action that needs a result first goes on with its value. -/
theorem Tells.given {Q : List Deed → Except Fault β → Prop} {r : Except Fault α}
    {next : α → Action β} (stopped : ∀ f, r = .error f → Q [] (.error f))
    (told : ∀ x, r = .ok x → (next x).Tells Q) : (ofResult r >>= next).Tells Q := by
  cases r with
  | error f => exact fun w => ⟨[], Law.refl (R := Idle) w, stopped f rfl⟩
  | ok x => exact told x rfl

end Action

end BuildBench
