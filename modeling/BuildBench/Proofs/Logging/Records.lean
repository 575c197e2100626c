import BuildBench.Proofs.Files.Operations
import BuildBench.Proofs.History.QuietActions

/-!
# What records do to files

A record is added to the end of every open log file, and changes no file otherwise. `Logged` relates
two worlds between which only that happened. `Extended` allows new files as well, in places where
nothing stood. Nothing was done to the outside under either.

Under both laws a path name goes on leading to the file that it led to, which keeps its content up
to what is added at its end.
-/

namespace BuildBench

open BuildBench.Action

variable {α : Type}

/-- What was in the files is still there. Open log files may have become longer. -/
structure Extended (w v : World) : Prop extends Untouched w v where
  current : v.files.current = w.files.current
  kinds : w.files.root.Grows v.files.root
  contents : ∀ location content executable,
    w.files.root.node? location = some (.file content executable) →
      ∃ added, v.files.root.node? location = some (.file (content ++ added) executable) ∧
        (added = ByteArray.empty ∨ .file location ∈ w.handlers)

/-- Only open log files may have changed: they may have become longer. -/
structure Logged (w v : World) : Prop extends Extended w v where
  fresh : v.files.root.Grows w.files.root

/-- Every file has been extended by nothing. -/
theorem Extended.of_files {w v : World} (untouched : Untouched w v) (same : v.files = w.files) :
    Extended w v :=
  ⟨untouched, by rw [same], by rw [same]; exact .refl _, fun location content executable held =>
    ⟨ByteArray.empty, by rw [same, ByteArray.append_empty]; exact held, .inl rfl⟩⟩

/-- The same stands in the files as before. -/
theorem Logged.of_files {w v : World} (untouched : Untouched w v) (same : v.files = w.files) :
    Logged w v :=
  ⟨.of_files untouched same, by rw [same]; exact .refl _⟩

instance : Law Extended where
  refl w := .of_files (Law.refl w) rfl
  trans first second := by
    refine ⟨Law.trans first.toUntouched second.toUntouched, second.current.trans first.current,
      first.kinds.trans second.kinds, fun location content executable held => ?_⟩
    obtain ⟨added, found, opened⟩ := first.contents location content executable held
    obtain ⟨more, after, reopened⟩ := second.contents location _ executable found
    refine ⟨added ++ more, by rw [← ByteArray.append_assoc]; exact after, ?_⟩
    rcases opened with rfl | opened
    · rcases reopened with rfl | reopened
      · exact .inl ByteArray.append_empty
      · exact .inr (first.logs location reopened)
    · exact .inr opened

instance : Law Logged where
  refl w := .of_files (Law.refl w) rfl
  trans first second :=
    ⟨Law.trans first.toExtended second.toExtended, second.fresh.trans first.fresh⟩

/-- It is untouched outside its files. -/
theorem Extended.idle {w v : World} (extended : Extended w v) : Idle w v :=
  extended.toUntouched.enacted

/-- It has only been extended. -/
theorem Logged.idle {w v : World} (logged : Logged w v) : Idle w v := logged.toExtended.idle

/-! ## Records -/

/-- A file with something added to its end. -/
def Node.append (added : ByteArray) : Node → Node
  | .file content executable => .file (content ++ added) executable
  | n => n

/-- Only the content of a file changes. -/
@[simp]
theorem Node.kind_append (added : ByteArray) (n : Node) : (n.append added).kind = n.kind := by
  cases n <;> rfl

/-- By the kind of the node: a content with nothing behind it is the same. -/
theorem Node.append_empty (n : Node) : n.append ByteArray.empty = n := by
  cases n <;> simp [Node.append]

/-- By the kind of the node: contents are put one behind the other. -/
theorem Node.append_append (n : Node) (added more : ByteArray) :
    (n.append added).append more = n.append (added ++ more) := by
  cases n <;> simp [Node.append, ByteArray.append_assoc]

/-- If no file stands there nothing is appended; else its entry is replaced and the rest stays. -/
theorem node?_appendAt (location : Location) (added : ByteArray) (files : Files)
    (other : Location) :
    (appendAt location added files).root.node? other =
      if other = location then (files.root.node? other).map (Node.append added)
      else files.root.node? other := by
  have unchanged : (∀ content executable,
        files.root.node? location ≠ some (.file content executable)) →
      files.root.node? other =
        if other = location then (files.root.node? other).map (Node.append added)
        else files.root.node? other := by
    intro noFile
    split
    · next same =>
      subst same
      cases held : files.root.node? other with
      | none => rfl
      | some n =>
        cases n with
        | file content executable => exact absurd held (noFile content executable)
        | _ => rfl
    · rfl
  unfold appendAt
  split
  · next content executable held =>
    have found : files.root.node? location = some (.file content executable) := by
      simp [Folder.node?, held, Entry.node]
    have nonempty : location ≠ [] := by
      rintro rfl
      simp at held
    have parent := Folder.node?_dropLast nonempty found
    rw [Files.put, Folder.node?_put_leaf rfl nonempty parent (by simp [found])]
    split
    · next same => rw [same, found]; rfl
    · rfl
  · next closed =>
    refine unchanged fun content executable found => ?_
    obtain ⟨e, held, same⟩ := Option.map_eq_some_iff.mp found
    cases e with
    | file content executable => exact closed content executable held
    | _ => cases same

/-- The console writes to no file, and a file handler appends to the file of its own log. -/
theorem emit_logged (r : Record) {w : World} {handler : Handler} (opened : handler ∈ w.handlers) :
    Logged w (emit r w handler) := by
  have untouched := (emit_untouched r w handler).1
  cases handler with
  | journal => exact .of_files untouched rfl
  | console least =>
    refine .of_files untouched ?_
    simp only [emit]
    split <;> rfl
  | file location =>
    have kinds : ∀ other, (emit r w (.file location)).files.root.kind? other =
        w.files.root.kind? other := by
      intro other
      rw [emit, Folder.kind?, node?_appendAt, Folder.kind?]
      split
      · rw [Option.map_map]
        exact congrArg (Option.map · _) (funext fun n => n.kind_append _)
      · rfl
    have current : (emit r w (.file location)).files.current = w.files.current := by
      simp only [emit, appendAt]
      split <;> rfl
    refine ⟨⟨untouched, current, fun other kind held => by rw [kinds]; exact held,
      fun other content executable held => ?_⟩, fun other kind held => by rw [← kinds]; exact held⟩
    rw [emit, node?_appendAt, held]
    split
    · next same => exact ⟨r.fileBytes w.timestamp, rfl, .inr (same ▸ opened)⟩
    · exact ⟨ByteArray.empty, by rw [ByteArray.append_empty], .inl rfl⟩

/-- Writing a record only adds to open log files. -/
theorem record_logged {F : Fault → Prop} (r : Record) : Keeps Logged F (record r) :=
  record_keeps r fun _ _ opened => emit_logged r opened

/-- Without an open log file the files stay as they are. -/
def Unwritten (w v : World) : Prop :=
  (∀ location, .file location ∉ w.handlers) → v.files = w.files ∧ v.handlers = w.handlers

instance : Law Unwritten where
  refl _ := fun _ => ⟨rfl, rfl⟩
  trans first second := fun closed => by
    obtain ⟨files, handlers⟩ := first closed
    obtain ⟨later, laterHandlers⟩ := second (handlers.symm ▸ closed)
    exact ⟨later.trans files, laterHandlers.trans handlers⟩

/-- Only the handler of a file writes to one, and there is none. -/
theorem emit_unwritten (r : Record) {w : World} {handler : Handler} (opened : handler ∈ w.handlers) :
    Unwritten w (emit r w handler) := by
  intro closed
  refine ⟨?_, (emit_untouched r w handler).2⟩
  cases handler with
  | journal => rfl
  | console least =>
    simp only [emit]
    split <;> rfl
  | file location => exact absurd opened (closed location)

/-- A record is written to open log files alone. -/
theorem record_unwritten {F : Fault → Prop} (r : Record) : Keeps Unwritten F (record r) :=
  record_keeps r fun _ _ opened => emit_unwritten r opened

/-- Only open log files may become longer, and the action does not fail as a stage. -/
def OnlyLogs (a : Action α) : Prop := Keeps Logged (fun f => f.isStage = false) a

/-- An action that only logs leaves all but the files of logs alone. -/
theorem OnlyLogs.quiet {a : Action α} (logs : OnlyLogs a) : Quiet a :=
  logs.weaken fun _ _ logged => logged.toUntouched

/-- It makes a single record. -/
theorem log_onlyLogs (level : Level) (part text : String) : OnlyLogs (log level part text) :=
  record_logged _

/-- It makes one record for each line. -/
theorem logOutput_onlyLogs (level : Level) (part output : String) :
    OnlyLogs (logOutput level part output) :=
  .forM fun _ => log_onlyLogs _ _ _

/-- Actions that only write records end well. -/
theorem Action.Keeps.records {a : Action α} (records : Keeps Logged (fun _ => False) a)
    (w : World) : ∃ x v, a w = (.ok x, v) ∧ Logged w v := by
  have kept := records w
  rcases ran : a w with ⟨f | x, v⟩ <;> rw [ran] at kept
  · exact (kept.2 f rfl).elim
  · exact ⟨x, v, rfl, kept.1⟩

/-! ## Path names under these laws -/

namespace Files

/-- Looking up is following the name and then reading the entry it leads to. -/
theorem lookUp_eq_file_iff {files : Files} {path : PathName} {content : ByteArray}
    {executable : Bool} :
    files.lookUp path = .ok (.file content executable) ↔
      ∃ goal, files.Leads true path goal ∧
        files.root.at? goal = some (.file content executable) := by
  unfold lookUp
  rcases placed : files.place true path with e | place
  · simp only [bind, Except.bind, reduceCtorEq, false_iff, not_exists, not_and]
    intro goal leads
    rw [leads.place] at placed
    cases placed
  · obtain ⟨leads, same⟩ := leads_of_place placed
    simp only [bind, Except.bind, same]
    constructor
    · intro found
      refine ⟨place.location, leads, ?_⟩
      rcases held : files.root.at? place.location with _ | e <;> rw [held] at found
      · cases found
      · cases found
        rfl
    · rintro ⟨goal, leads', held⟩
      rw [← leads.unique leads'] at held
      rw [held]

/-- A path name leads to no file. -/
def LacksFile (files : Files) (path : PathName) : Prop :=
  ∀ content executable, files.lookUp path ≠ .ok (.file content executable)

/-- A file that is found under a name stands there, or a link stands there that leads to it. -/
theorem unfollowed_of_file {files : Files} {path : PathName} {content : ByteArray}
    {executable : Bool} (found : files.lookUp path = .ok (.file content executable)) :
    ∃ place, files.Leads false path place ∧ files.root.kind? place ≠ none ∧
      files.root.kind? place ≠ some .folder := by
  obtain ⟨goal, leads, held⟩ := lookUp_eq_file_iff.mp found
  obtain ⟨place, walks, there⟩ := leads.walks.unfollowed (by simp [Folder.kind?_of_at? held])
  refine ⟨place, ⟨leads.short, walks⟩, there, fun isFolder => ?_⟩
  -- A folder is not left behind by following links, so the name would lead to it.
  have same := (walks.followed (by simp [isFolder])).unique leads.walks
  rw [same, Folder.kind?_of_at? held] at isFolder
  cases isFolder

/-- A file found there would be an entry at a vacant place. -/
theorem IsVacant.lacksFile {files : Files} {path : PathName} (vacant : files.IsVacant path) :
    files.LacksFile path := by
  intro content executable found
  obtain ⟨place, unfollowed, there, -⟩ := unfollowed_of_file found
  exact there (Folder.kind?_eq_none.mpr (vacant _ unfollowed.place))

/-- A file, and a link that leads to one, can be taken away. -/
theorem unlinks_file {files : Files} {path : PathName} {content : ByteArray} {executable : Bool}
    (found : files.lookUp path = .ok (.file content executable)) :
    ∃ changed, files.unlink path = .ok changed := by
  obtain ⟨place, unfollowed, there, closed⟩ := unfollowed_of_file found
  rw [unlink, unfollowed.place]
  rcases stands : files.root.at? place with _ | ⟨before, x⟩ | target | entries
  · exact absurd (Folder.kind?_eq_none.mpr stands) there
  · exact ⟨_, rfl⟩
  · exact ⟨_, rfl⟩
  · exact absurd (Folder.kind?_of_at? stands) closed

end Files

/-- A file is still there, with something added to its end if it is an open log file. -/
theorem Extended.lookUp_file {w v : World} (extended : Extended w v) {path : PathName}
    {content : ByteArray} {executable : Bool}
    (found : w.files.lookUp path = .ok (.file content executable)) :
    ∃ added location, v.files.lookUp path = .ok (.file (content ++ added) executable) ∧
      w.files.Leads true path location ∧ v.files.Leads true path location ∧
      (added = ByteArray.empty ∨ .file location ∈ w.handlers) := by
  obtain ⟨goal, leads, held⟩ := Files.lookUp_eq_file_iff.mp found
  have node : w.files.root.node? goal = some (.file content executable) := by
    simp [Folder.node?, held, Entry.node]
  obtain ⟨added, after, opened⟩ := extended.contents goal content executable node
  have leadsAfter := leads.of_grows_held extended.kinds extended.current
    (by simp [Folder.kind?_of_at? held])
  refine ⟨added, goal, Files.lookUp_eq_file_iff.mpr ⟨goal, leadsAfter, ?_⟩, leads, leadsAfter,
    opened⟩
  obtain ⟨e, heldAfter, same⟩ := Option.map_eq_some_iff.mp after
  cases e with
  | file _ _ => cases same; exact heldAfter
  | _ => cases same

/-- A file holds some content. Only if it is an open log file something was added to that. -/
def World.Holds (w : World) (files : Files) (path : PathName) (content : ByteArray) : Prop :=
  ∃ added, files.read path = .ok (content ++ added) ∧
    (added = ByteArray.empty ∨
      ∃ place, files.place true path = .ok place ∧ .file place.location ∈ w.handlers)

/-- By what the name leads to: only a file has a content. -/
theorem Files.read_eq_ok_iff {files : Files} {path : PathName} {content : ByteArray} :
    files.read path = .ok content ↔ ∃ executable, files.lookUp path = .ok (.file content executable) := by
  unfold read
  rcases files.lookUp path with e | ⟨held, executable⟩ | target | f <;>
    simp [bind, Except.bind]

/-- The file has only been given more behind its content, and it is that of an open log if it has.
-/
theorem World.Holds.extended {w u v : World} {path : PathName} {content : ByteArray}
    (holds : w.Holds u.files path content) (host : SameHost w u) (extended : Extended u v) :
    w.Holds v.files path content := by
  obtain ⟨added, read, opened⟩ := holds
  obtain ⟨executable, found⟩ := Files.read_eq_ok_iff.mp read
  obtain ⟨more, location, after, before, leads, reopened⟩ := extended.lookUp_file found
  refine ⟨added ++ more, Files.read_eq_ok_iff.mpr ⟨executable, ?_⟩, ?_⟩
  · rw [← ByteArray.append_assoc]
    exact after
  · rcases reopened with rfl | reopened
    · rw [ByteArray.append_empty]
      refine opened.imp_right ?_
      rintro ⟨place, placed, isLog⟩
      rw [(Files.leads_of_place placed).1.unique before] at isLog
      exact ⟨_, leads.place, isLog⟩
    · exact .inr ⟨_, leads.place, host.logs _ reopened⟩

/-- Where nothing stood nothing stands. -/
theorem Logged.vacant {w v : World} (logged : Logged w v) {path : PathName}
    (vacant : w.files.IsVacant path) : v.files.IsVacant path := by
  intro place placed
  obtain ⟨leads, same⟩ := Files.leads_of_place placed
  rw [same, ← Folder.kind?_eq_none]
  by_cases held : v.files.root.kind? place.location = none
  · exact held
  · have leadsBefore := leads.of_grows_held logged.fresh logged.current.symm held
    obtain ⟨kind, found⟩ := Option.ne_none_iff_exists'.mp held
    have missing := vacant _ leadsBefore.place
    rw [← Folder.kind?_eq_none, logged.fresh _ _ found] at missing
    cases missing

end BuildBench
