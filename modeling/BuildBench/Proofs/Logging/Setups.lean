import BuildBench.Logging
import BuildBench.Proofs.CommandLine.Printing
import BuildBench.Proofs.Logging.Records

/-!
# Setting up logging again and again

A run may set up logging any number of times and write records in between. What is in force is the
latest setup: a record is shown on the console if its level reaches that of the setup, and is added
to the setup's log file whatever its level, from debugging on. A log file keeps what it had, also
when it is opened again.

All that happens to the tree is that log files are made where nothing stood, so the name of a log
file leads to the same place from the first setup to the last one.
-/

namespace BuildBench

open BuildBench.Action

/-! ## Trees with more files -/

/-- Where nothing stood before there may be a file now. Everything else is of the same kind. -/
structure MoreFiles (files changed : Files) : Prop where
  current : changed.current = files.current
  kinds : ∀ location, changed.root.kind? location = files.root.kind? location ∨
    files.root.kind? location = none ∧ changed.root.kind? location = some .file

namespace MoreFiles

variable {files changed other : Files} {path : PathName} {location goal : Location}

/-- Nothing is added. -/
theorem refl (files : Files) : MoreFiles files files := ⟨rfl, fun _ => .inl rfl⟩

/-- What stands in the files between stands in both, or was added by one of the two. -/
theorem trans (first : MoreFiles files changed) (second : MoreFiles changed other) :
    MoreFiles files other := by
  refine ⟨second.current.trans first.current, fun location => ?_⟩
  rcases second.kinds location with same | ⟨missing, made⟩
  · rw [same]
    exact first.kinds location
  · rcases first.kinds location with same | ⟨-, made'⟩
    · exact .inr ⟨same.symm.trans missing, made⟩
    · cases made'.symm.trans missing

/-- What stood there before is of the same kind. -/
theorem grows (more : MoreFiles files changed) : files.root.Grows changed.root := by
  intro location kind held
  rcases more.kinds location with same | ⟨missing, -⟩
  · exact same.trans held
  · cases missing.symm.trans held

/-- What is no file now was there before. -/
theorem kind?_eq {kind : Kind} (more : MoreFiles files changed)
    (held : changed.root.kind? location = some kind) (other : kind ≠ .file) :
    files.root.kind? location = some kind := by
  rcases more.kinds location with same | ⟨-, made⟩
  · exact same.symm.trans held
  · cases made.symm.trans held
    exact absurd rfl other

/-- By induction on the walk: every folder and every link on the way was already there, since only a
file at its end can have been added. -/
theorem walks_back {links : Nat} {here : Location} {parts : List String}
    (more : MoreFiles files changed) (opened : files.root.kind? here = some .folder)
    (walks : changed.root.Leads true links here parts goal) :
    files.root.Leads true links here parts goal := by
  induction walks with
  | here found => exact .here (by simp [opened])
  | dot above next ih => exact .dot opened (ih opened)
  | @up links here goal rest above next ih =>
    have parent : files.root.kind? here.dropLast = some .folder := by
      rcases List.eq_nil_or_concat here with rfl | ⟨base, name, rfl⟩
      · exact opened
      · rw [List.concat_eq_append] at opened
        rw [List.concat_eq_append, List.dropLast_concat]
        exact Folder.kind?_of_child opened
    exact .up opened (ih parent)
  | into proper entered next ih =>
    have there := more.kind?_eq entered nofun
    exact .into proper there (ih there)
  | stop proper above stops =>
    refine .stop proper opened ⟨fun folder => stops.1 (more.grows _ _ folder), fun target link => ?_⟩
    exact stops.2 target (more.grows _ _ link)
  | @follow links here goal name target rest proper found further aimed next ih =>
    refine .follow proper (more.kind?_eq found nofun) further aimed (ih ?_)
    rw [targetBase]
    split
    · exact Folder.kind?_nil _
    · exact opened

/-- A name that starts at the root leads to the same place. -/
theorem leads_iff (more : MoreFiles files changed) (absolute : path.isAbsolute) :
    changed.Leads true path goal ↔ files.Leads true path goal := by
  have start (files : Files) : files.start path = [] := if_pos absolute
  constructor
  · rintro ⟨short, walks⟩
    rw [start] at walks
    exact ⟨short, by rw [start]; exact more.walks_back (Folder.kind?_nil _) walks⟩
  · rintro ⟨short, walks⟩
    rw [start] at walks
    refine ⟨short, ?_⟩
    rw [start]
    refine walks.of_grows more.grows fun missing target link => ?_
    cases missing.symm.trans (more.kind?_eq link nofun)

end MoreFiles

/-! ## Log files -/

namespace Files

variable {files changed : Files} {path : PathName} {location : Location}

/-- The place of a log file of some name, if one can be opened there. -/
def logPlace? (files : Files) (path : PathName) : Option Location :=
  match files.place true (files.absolute path) with
  | .ok place =>
    if Disk.isName (files.absolute path) && !place.entry.any Entry.isFolder then some place.location
    else none
  | .error _ => none

/-- The files after a log file was opened at a place. -/
def withLog (files : Files) (location : Location) : Files :=
  if (files.root.at? location).isNone then files.put location (.file ByteArray.empty false)
  else files

/-- A name that does not begin at the root is put behind the current folder, which does. -/
theorem isAbsolute_absolute (files : Files) (path : PathName) :
    (files.absolute path).isAbsolute = true := by
  unfold absolute
  split
  · next already => exact already
  · rfl

/-- The place is what the name leads to, unless a folder stands there or its folder is missing. -/
theorem logPlace?_eq_some_iff :
    files.logPlace? path = some location ↔ Disk.isName (files.absolute path) = true ∧
      files.Leads true (files.absolute path) location ∧
      files.root.kind? location ≠ some .folder := by
  have folder : (files.root.at? location).any Entry.isFolder = true ↔
      files.root.kind? location = some .folder := by
    rw [Folder.kind?, Folder.node?]
    rcases files.root.at? location with _ | ⟨_, _⟩ | _ | _ <;>
      simp [Entry.isFolder, Entry.node, Node.kind]
  unfold logPlace?
  constructor
  · intro opens
    rcases placed : files.place true (files.absolute path) with e | place <;>
      rw [placed] at opens <;> dsimp only at opens
    · cases opens
    · obtain ⟨leads, entry⟩ := leads_of_place placed
      split at opens
      · next usable =>
        obtain rfl := Option.some.inj opens
        rw [Bool.and_eq_true, entry, Bool.not_eq_true'] at usable
        exact ⟨usable.1, leads, fun held => by simp [folder.mpr held] at usable⟩
      · cases opens
  · rintro ⟨named, leads, closed⟩
    have usable : (files.root.at? location).any Entry.isFolder = false := by
      simpa using mt folder.mp closed
    rw [leads.place]
    dsimp only
    rw [named, usable]
    rfl

/-- A name leads where it led, and a file that was added is no folder. -/
theorem logPlace?_eq (more : MoreFiles files changed) (path : PathName) :
    changed.logPlace? path = files.logPlace? path := by
  have same : changed.absolute path = files.absolute path := by
    rw [absolute, absolute, more.current]
  refine Option.ext fun location => ?_
  rw [logPlace?_eq_some_iff, logPlace?_eq_some_iff, same,
    more.leads_iff (isAbsolute_absolute files path)]
  have folder : changed.root.kind? location = some .folder ↔
      files.root.kind? location = some .folder :=
    ⟨fun held => more.kind?_eq held nofun, more.grows _ _⟩
  rw [Ne, Ne, folder]

section Opened

variable (opens : files.logPlace? path = some location)

include opens

/-- Opening a log makes an empty file where there is none and leaves what is there. -/
theorem node?_withLog (other : Location) :
    (files.withLog location).root.node? other =
      if other = location then some ((files.root.node? location).getD (.file ByteArray.empty false))
      else files.root.node? other := by
  have leads := (logPlace?_eq_some_iff.mp opens).2.1
  have nonempty := Folder.nonempty_of_closed (logPlace?_eq_some_iff.mp opens).2.2
  unfold withLog
  rcases held : files.root.at? location with _ | e
  · have missing : files.root.node? location = none := by rw [Folder.node?, held]; rfl
    have closed : files.root.node? location ≠ some .folder := by simp [missing]
    rw [Option.isNone_none, if_pos rfl, put_root,
      Folder.node?_put_leaf rfl nonempty (leads.parent_folder nonempty) closed, missing]
    rfl
  · have found : files.root.node? location = some e.node := by rw [Folder.node?, held]; rfl
    rw [Option.isNone_some, if_neg Bool.false_ne_true, found, Option.getD_some]
    split
    · next same => rw [same, found]
    · rfl

/-- Only the file of the log can have been added. -/
theorem withLog_more : MoreFiles files (files.withLog location) := by
  refine ⟨by unfold withLog; split <;> rfl, fun other => ?_⟩
  simp only [Folder.kind?, node?_withLog opens]
  split
  · next same =>
    subst same
    rcases files.root.node? other with _ | n
    · exact .inr ⟨rfl, rfl⟩
    · exact .inl rfl
  · exact .inl rfl

end Opened

end Files

/-- A log file that can be opened is opened, and made where nothing stood. -/
theorem openLogFile_run {path : PathName} {w : World} {location : Location}
    (opens : w.files.logPlace? path = some location) :
    openLogFile path w = (.ok location, { w with files := w.files.withLog location }) := by
  obtain ⟨named, leads, closed⟩ := Files.logPlace?_eq_some_iff.mp opens
  have unfaulted : nameFault? (w.files.absolute path).display = none := by
    simpa [Disk.isName, Option.isNone_iff_eq_none] using named
  have required : Disk.requireName (w.files.absolute path) w = (.ok (), w) := by
    rw [Disk.requireName, unfaulted]
    rfl
  unfold openLogFile
  rw [bind_run, get_run]
  dsimp only
  rw [bind_run, required, leads.place]
  dsimp only
  unfold Files.withLog
  rcases held : w.files.root.at? location with _ | ⟨_, _⟩ | _ | f
  · rfl
  · rfl
  · rfl
  · exact absurd (Folder.kind?_of_at? held) closed

/-- Each reason for having no place is a fault of opening. -/
theorem openLogFile_refused {path : PathName} {w : World}
    (refused : w.files.logPlace? path = none) : ∃ f, openLogFile path w = (.error f, w) := by
  unfold openLogFile
  rw [bind_run, get_run]
  dsimp only
  rw [bind_run, Disk.requireName]
  rcases faulted : nameFault? (w.files.absolute path).display with _ | f
  · have named : Disk.isName (w.files.absolute path) = true := by simp [Disk.isName, faulted]
    rw [Files.logPlace?, named] at refused
    dsimp only
    rw [pure_run]
    dsimp only
    rcases placed : w.files.place true (w.files.absolute path) with e | place
    · exact ⟨_, rfl⟩
    · rw [placed] at refused
      rcases place with ⟨location, _ | ⟨_, _⟩ | _ | f⟩
      · cases refused
      · cases refused
      · cases refused
      · exact ⟨_, rfl⟩
  · exact ⟨f, rfl⟩

/-! ## Setups and records -/

/-- How logging is set up. -/
structure LogSetup where
  verbose : Bool := false
  quiet : Bool := false
  logFile : Option PathName := none

namespace LogSetup

/-- The level from which the console shows records. -/
def least (s : LogSetup) : Level := consoleLevel s.verbose s.quiet

/-- The place of the log file, if there is one and it can be opened. -/
def place? (s : LogSetup) (files : Files) : Option Location := s.logFile.bind files.logPlace?

/-- The log file can be opened, if there is one. -/
def Opens (s : LogSetup) (files : Files) : Prop :=
  s.logFile.isSome → (s.place? files).isSome

instance (s : LogSetup) (files : Files) : Decidable (s.Opens files) :=
  inferInstanceAs (Decidable (_ → _))

/-- Where records go: to one console, and to the log file if there is one. -/
def handlers (s : LogSetup) (files : Files) : List Handler :=
  .console s.least :: ((s.place? files).map Handler.file).toList

end LogSetup

/-- One thing that is done to the logging of the program. -/
inductive LogCall where
  | setUp (s : LogSetup)
  | write (r : Record)

namespace LogCall

def perform : LogCall → Action Unit
  | .setUp s => setupLogging s.verbose s.quiet s.logFile
  | .write r => record r

/-- All setups, the one that is in force at first before the others. -/
def setups (s : LogSetup) : List LogCall → List LogSetup
  | [] => [s]
  | .setUp t :: rest => s :: setups t rest
  | .write _ :: rest => setups s rest

/-- The setup that is in force in the end. -/
def latest (s : LogSetup) : List LogCall → LogSetup
  | [] => s
  | .setUp t :: rest => latest t rest
  | .write _ :: rest => latest s rest

/-- All records, each with the setup that is in force when it is written. -/
def written (s : LogSetup) : List LogCall → List (LogSetup × Record)
  | [] => []
  | .setUp t :: rest => written t rest
  | .write r :: rest => (s, r) :: written s rest

end LogCall

/-- What the console shows of some records. -/
def consoleText (records : List (LogSetup × Record)) : String :=
  ((records.filter fun (s, r) => s.least.rank ≤ r.level.rank).map fun (_, r) => r.consoleLine).foldr
    (· ++ ·) ""

/-- What a record written under a setup adds to what the console shows: its line, with escapes where
it has no bytes, and what is told if the log file cannot take it. -/
def LogSetup.shows (s : LogSetup) (w : World) (r : Record) : String :=
  (if s.least.rank ≤ r.level.rank then Text.withEscapedHalves r.consoleLine else "") ++
    if (s.place? w.files).isSome && Level.debug.rank ≤ r.level.rank then w.complaintAbout r else ""

/-- What some records add to what the console shows. -/
def shownText (w : World) (records : List (LogSetup × Record)) : String :=
  (records.map fun (s, r) => s.shows w r).foldr (· ++ ·) ""

/-- What some records add to the log file at a place. -/
def fileText (files : Files) (time : String) (location : Location)
    (records : List (LogSetup × Record)) : ByteArray :=
  ((records.filter fun (s, r) =>
      s.place? files = some location && Level.debug.rank ≤ r.level.rank).map
    fun (_, r) => r.fileBytes time).foldr (· ++ ·) ByteArray.empty

/-- What comes of some calls that begin under a setup. -/
structure Follows (w : World) (s : LogSetup) (calls : List LogCall) (v : World) : Prop where
  same : v = { w with files := v.files, handlers := v.handlers, stderr := v.stderr }
  more : MoreFiles w.files v.files
  /-- The latest setup is in force. -/
  handlers : v.handlers = (LogCall.latest s calls).handlers w.files
  /-- Each record is shown once if it reaches the level that is in force, and else not; besides, what
  a log file cannot take is told about. -/
  stderr : v.stderr = w.stderr ++ shownText w (LogCall.written s calls)
  /-- A log file keeps what it had, and holds each record that was written under a setup with this
  file. No other file is changed. -/
  nodes : ∀ location, v.files.root.node? location =
    if some location ∈ (LogCall.setups s calls).map (·.place? w.files) then
      some (((w.files.root.node? location).getD (.file ByteArray.empty false)).append
        (fileText w.files w.timestamp location (LogCall.written s calls)))
    else w.files.root.node? location

/-- A setup is in force: records go where it says, and its log file is there. -/
structure InForce (s : LogSetup) (w : World) : Prop where
  handlers : w.handlers = s.handlers w.files
  there : ∀ location, s.place? w.files = some location → w.files.root.node? location ≠ none

/-- The log file of the setup that is in force is not made anew. -/
theorem InForce.kept {s : LogSetup} {w : World} (force : InForce s w) {location : Location}
    (placed : s.place? w.files = some location) :
    w.files.root.node? location =
      some (((w.files.root.node? location).getD (.file ByteArray.empty false)).append
        ByteArray.empty) := by
  obtain ⟨n, there⟩ := Option.ne_none_iff_exists'.mp (force.there location placed)
  rw [there, Option.getD_some, Node.append_empty]

/-- Its file has the same place. -/
theorem LogSetup.place?_eq {files changed : Files} (more : MoreFiles files changed) (s : LogSetup) :
    s.place? changed = s.place? files := by
  rw [place?, place?, funext (Files.logPlace?_eq more)]

/-- They depend on the files by the place of the log only. -/
theorem LogSetup.handlers_eq {files changed : Files} (more : MoreFiles files changed)
    (s : LogSetup) : s.handlers changed = s.handlers files := by
  rw [handlers, handlers, place?_eq more]

/-- It depends on the files by the place of the log only. -/
theorem LogSetup.opens_iff {files changed : Files} (more : MoreFiles files changed)
    (s : LogSetup) : s.Opens changed ↔ s.Opens files := by
  rw [Opens, Opens, place?_eq more]

/-- It depends on the files by the places of the logs only. -/
theorem fileText_eq {files changed : Files} (more : MoreFiles files changed) (time : String)
    (location : Location) (records : List (LogSetup × Record)) :
    fileText changed time location records = fileText files time location records := by
  simp only [fileText, LogSetup.place?_eq more]

/-- By induction on the first records: texts are put one behind the other. -/
theorem shownText_append (w : World) (first second : List (LogSetup × Record)) :
    shownText w (first ++ second) = shownText w first ++ shownText w second := by
  unfold shownText
  rw [List.map_append]
  induction first.map fun (s, r) => s.shows w r with
  | nil => exact String.empty_append.symm
  | cons line rest ih => rw [List.cons_append, List.foldr_cons, ih, List.foldr_cons, String.append_assoc]

/-- Nothing that is shown depends on what the files hold, as long as the log files stay where they
are. -/
theorem shownText_eq {w u : World} (more : MoreFiles w.files u.files)
    (same : u = { w with files := u.files, handlers := u.handlers, stderr := u.stderr })
    (records : List (LogSetup × Record)) : shownText u records = shownText w records := by
  have complains (r : Record) : u.complaintAbout r = w.complaintAbout r := by rw [same]; rfl
  simp only [shownText, LogSetup.shows, LogSetup.place?_eq more, complains]

/-- A record with bytes is shown as it is. -/
theorem Record.shown_of_hasBytes {r : Record} {time : String} (encoded : r.hasBytes time) :
    Text.withEscapedHalves r.consoleLine = r.consoleLine := by
  have whole := Text.encodingDefect?_eq_none_iff.mp (Option.isNone_iff_eq_none.mp encoded)
  rw [Record.fileLine] at whole
  simp only [Text.whole_append] at whole
  obtain ⟨⟨⟨⟨⟨⟨⟨-, -⟩, level⟩, space⟩, -⟩, -⟩, text⟩, newline⟩ := whole
  refine Text.withEscapedHalves_of_whole ?_
  rw [Record.consoleLine]
  simp only [Text.whole_append]
  exact ⟨⟨⟨level, space⟩, text⟩, newline⟩

/-- Records with bytes show their lines, and nothing else is told. -/
theorem shownText_of_hasBytes {w : World} {records : List (LogSetup × Record)}
    (encoded : ∀ t r, (t, r) ∈ records → r.hasBytes w.timestamp) :
    shownText w records = consoleText records := by
  induction records with
  | nil => rfl
  | cons entry rest ih =>
    obtain ⟨t, r⟩ := entry
    have bytes := encoded t r List.mem_cons_self
    have shown : t.shows w r = if t.least.rank ≤ r.level.rank then r.consoleLine else "" := by
      rw [LogSetup.shows, World.complaintAbout, if_pos bytes, r.shown_of_hasBytes bytes, ite_self,
        String.append_empty]
    have others : shownText w rest = consoleText rest :=
      ih fun t r among => encoded t r (List.mem_cons_of_mem _ among)
    change t.shows w r ++ shownText w rest = _
    rw [shown, others]
    unfold consoleText
    by_cases reaches : t.least.rank ≤ r.level.rank <;> simp [reaches]

/-- By induction on the first records: texts are put one behind the other. -/
theorem fileText_append (files : Files) (time : String) (location : Location)
    (first second : List (LogSetup × Record)) :
    fileText files time location (first ++ second) =
      fileText files time location first ++ fileText files time location second := by
  unfold fileText
  rw [List.filter_append, List.map_append]
  induction (first.filter fun (s, r) => s.place? files = some location &&
      Level.debug.rank ≤ r.level.rank).map fun (_, r) => r.fileBytes time with
  | nil => exact ByteArray.empty_append.symm
  | cons line rest ih =>
    rw [List.cons_append, List.foldr_cons, ih, List.foldr_cons, ByteArray.append_assoc]

namespace LogCall

variable {files : Files} {s t : LogSetup} {r : Record} {calls : List LogCall} {location : Location}

/-- By induction on the calls: the latest setup is the given one or one of the calls. -/
theorem latest_mem (s : LogSetup) (calls : List LogCall) : latest s calls ∈ setups s calls := by
  induction calls generalizing s with
  | nil => exact List.mem_singleton_self s
  | cons call rest ih =>
    cases call with
    | setUp t => exact List.mem_cons_of_mem s (ih t)
    | write r => exact ih s

/-- By induction on the calls: the given setup stays among them. -/
theorem first_mem (s : LogSetup) (calls : List LogCall) : s ∈ setups s calls := by
  induction calls generalizing s with
  | nil => exact List.mem_singleton_self s
  | cons call rest ih =>
    cases call with
    | setUp t => exact List.mem_cons_self
    | write r => exact ih s

/-- By induction on the first calls. -/
theorem latest_append (s : LogSetup) (calls more : List LogCall) :
    latest s (calls ++ more) = latest (latest s calls) more := by
  induction calls generalizing s with
  | nil => rfl
  | cons call rest ih => cases call <;> exact ih _

/-- By induction on the first calls: a record is written under the setup that is in force by then.
-/
theorem written_append (s : LogSetup) (calls more : List LogCall) :
    written s (calls ++ more) = written s calls ++ written (latest s calls) more := by
  induction calls generalizing s with
  | nil => rfl
  | cons call rest ih =>
    cases call with
    | setUp t => exact ih t
    | write r => exact congrArg _ (ih s)

/-- By induction on the first calls: the second ones begin with the setup that is in force by then.
-/
theorem mem_setups_append (s : LogSetup) (calls more : List LogCall) :
    t ∈ setups s (calls ++ more) ↔ t ∈ setups s calls ∨ t ∈ setups (latest s calls) more := by
  induction calls generalizing s with
  | nil =>
    refine ⟨.inr, ?_⟩
    rintro (here | there)
    · obtain rfl := List.mem_singleton.mp here
      exact first_mem t more
    · exact there
  | cons call rest ih =>
    cases call with
    | setUp t' =>
      change t ∈ s :: setups t' (rest ++ more) ↔ t ∈ s :: setups t' rest ∨ _
      rw [List.mem_cons, List.mem_cons, ih, or_assoc]
      rfl
    | write r => exact ih s

/-- By induction on the calls: only a call that writes adds a record. -/
theorem mem_of_written (among : (t, r) ∈ written s calls) : .write r ∈ calls := by
  induction calls generalizing s with
  | nil => cases among
  | cons call rest ih =>
    cases call with
    | setUp t' => exact List.mem_cons_of_mem _ (ih among)
    | write r' =>
      rcases List.mem_cons.mp among with here | there
      · cases here
        exact List.mem_cons_self
      · exact List.mem_cons_of_mem _ (ih there)

/-- By induction on the calls: a record is written under a setup already met. -/
theorem mem_setups_of_written (among : (t, r) ∈ written s calls) : t ∈ setups s calls := by
  induction calls generalizing s with
  | nil => cases among
  | cons call rest ih =>
    cases call with
    | setUp t' => exact List.mem_cons_of_mem _ (ih among)
    | write r' =>
      rcases List.mem_cons.mp among with here | there
      · cases here
        exact first_mem t rest
      · exact ih there

/-- A file that belongs to none of the setups gets nothing. -/
theorem fileText_eq_empty (time : String)
    (apart : some location ∉ (setups s calls).map (·.place? files)) :
    fileText files time location (written s calls) = ByteArray.empty := by
  have none : (written s calls).filter (fun (s, r) => s.place? files = some location &&
      Level.debug.rank ≤ r.level.rank) = [] := by
    refine List.filter_eq_nil_iff.mpr ?_
    rintro ⟨t, r⟩ among added
    simp only [Bool.and_eq_true, decide_eq_true_eq] at added
    exact apart (List.mem_map.mpr ⟨t, mem_setups_of_written among, added.1⟩)
  rw [fileText, none]
  rfl

end LogCall

namespace Follows

variable {w u v : World} {s : LogSetup} {calls more : List LogCall}

/-- The handlers are those of the latest setup, and its file has been made. -/
theorem inForce (follows : Follows w s calls v) : InForce (LogCall.latest s calls) v where
  handlers := follows.handlers.trans (LogSetup.handlers_eq follows.more _).symm
  there location placed := by
    rw [LogSetup.place?_eq follows.more] at placed
    rw [follows.nodes, if_pos (List.mem_map.mpr ⟨_, LogCall.latest_mem s calls, placed⟩)]
    exact nofun

/-- What comes of calls one after the other. -/
theorem trans (first : Follows w s calls u) (second : Follows u (LogCall.latest s calls) more v) :
    Follows w s (calls ++ more) v := by
  have time : u.timestamp = w.timestamp := by rw [first.same]
  refine ⟨?_, first.more.trans second.more, ?_, ?_, fun location => ?_⟩
  · rw [second.same, first.same]
  · rw [second.handlers, LogCall.latest_append, LogSetup.handlers_eq first.more]
  · rw [second.stderr, first.stderr, LogCall.written_append, shownText_append,
      shownText_eq first.more first.same, String.append_assoc]
  · have places : some location ∈ (LogCall.setups s (calls ++ more)).map (·.place? w.files) ↔
        some location ∈ (LogCall.setups s calls).map (·.place? w.files) ∨
          some location ∈ (LogCall.setups (LogCall.latest s calls) more).map (·.place? w.files) := by
      simp only [List.mem_map, LogCall.mem_setups_append, or_and_right, exists_or]
    have node := second.nodes location
    simp only [LogSetup.place?_eq first.more, fileText_eq first.more, time] at node
    rw [node, LogCall.written_append, fileText_append]
    by_cases here : some location ∈ (LogCall.setups s calls).map (·.place? w.files) <;>
      by_cases there :
        some location ∈ (LogCall.setups (LogCall.latest s calls) more).map (·.place? w.files)
    · rw [if_pos there, if_pos (places.mpr (.inl here)), first.nodes, if_pos here, Option.getD_some,
        Node.append_append]
    · rw [if_neg there, if_pos (places.mpr (.inl here)), first.nodes, if_pos here,
        LogCall.fileText_eq_empty _ there, ByteArray.append_empty]
    · rw [if_pos there, if_pos (places.mpr (.inr there)), first.nodes, if_neg here,
        LogCall.fileText_eq_empty _ here, ByteArray.empty_append]
    · rw [if_neg there, if_neg fun among => (places.mp among).elim here there, first.nodes,
        if_neg here]

end Follows

/-! ## One call -/

/-- Setting up puts the new setup in force, in whatever world, if its log file can be opened. -/
theorem setupLogging_follows {s : LogSetup} {w : World} (opens : s.Opens w.files) :
    ∃ u, setupLogging s.verbose s.quiet s.logFile w = (.ok (), u) ∧ Follows w s [] u := by
  obtain ⟨verbose, quiet, _ | path⟩ := s
  · refine ⟨_, rfl, rfl, .refl _, rfl, (String.append_empty).symm, fun location => ?_⟩
    rw [if_neg (by simp [LogCall.setups, LogSetup.place?])]
  · obtain ⟨location, placed⟩ := Option.isSome_iff_exists.mp (opens rfl)
    have placed : w.files.logPlace? path = some location := placed
    have opened := openLogFile_run (w := { w with handlers := [.console (consoleLevel verbose quiet)] })
      placed
    refine ⟨{ w with
      files := w.files.withLog location
      handlers := [.console (consoleLevel verbose quiet), .file location] }, ?_, rfl,
      Files.withLog_more placed, ?_, String.append_empty.symm, fun other => ?_⟩
    · unfold setupLogging
      rw [bind_run, modify_run]
      dsimp only
      rw [bind_run, opened]
      rfl
    · simp [LogCall.latest, LogSetup.handlers, LogSetup.place?, placed, LogSetup.least]
    · change (w.files.withLog location).root.node? other = if some other ∈ [w.files.logPlace? path] then
        some (((w.files.root.node? other).getD _).append ByteArray.empty) else _
      rw [Files.node?_withLog placed, placed, Node.append_empty]
      by_cases same : other = location
      · subst same
        rw [if_pos rfl, if_pos (by simp)]
      · rw [if_neg same, if_neg (by simpa using same)]

/-- The handlers are taken away first, then opening the file fails. -/
theorem setupLogging_refused {s : LogSetup} {w : World} (refused : ¬ s.Opens w.files) :
    ∃ f u, setupLogging s.verbose s.quiet s.logFile w = (.error f, u) := by
  obtain ⟨verbose, quiet, _ | path⟩ := s
  · exact absurd nofun refused
  · have unplaced : w.files.logPlace? path = none := by
      rcases placed : w.files.logPlace? path with _ | location
      · rfl
      · exact absurd (fun _ => Option.isSome_iff_exists.mpr ⟨location, placed⟩) refused
    obtain ⟨f, failed⟩ :=
      openLogFile_refused (w := { w with handlers := [.console (consoleLevel verbose quiet)] }) unplaced
    refine ⟨f, { w with handlers := [.console (consoleLevel verbose quiet)] }, ?_⟩
    unfold setupLogging
    rw [bind_run, modify_run]
    dsimp only
    rw [bind_run, failed]

/-- Each of the three console levels is at least that of debugging. -/
theorem LogSetup.debug_le_least (s : LogSetup) : Level.debug.rank ≤ s.least.rank := by
  unfold least consoleLevel
  split
  · exact Int.le_refl _
  · split <;> decide

/-- The file that takes the text was already there. -/
theorem appendAt_more (location : Location) (added : ByteArray) (files : Files) :
    MoreFiles files (appendAt location added files) := by
  refine ⟨by unfold appendAt; split <;> rfl, fun other => .inl ?_⟩
  rw [Folder.kind?, node?_appendAt, Folder.kind?]
  split
  · rw [Option.map_map]
    exact congrArg (Option.map · _) (funext fun n => n.kind_append _)
  · rfl

section Written

variable (s : LogSetup) (r : Record)

/-- The record is in the file if its setup writes there and its level is high enough. -/
theorem fileText_one (files : Files) (time : String) (location : Location) :
    fileText files time location [(s, r)] =
      if s.place? files = some location ∧ Level.debug.rank ≤ r.level.rank then r.fileBytes time
      else ByteArray.empty := by
  unfold fileText
  by_cases here : s.place? files = some location <;>
    by_cases debug : Level.debug.rank ≤ r.level.rank <;> simp [here, debug]

/-- Nothing stands behind a single text. -/
theorem shownText_one (w : World) : shownText w [(s, r)] = s.shows w r := String.append_empty

/-- What one record does under the handlers of a setup. -/
theorem foldl_emit (w : World) (debug : Level.debug.rank ≤ r.level.rank) :
    (s.handlers w.files).foldl (emit r) w =
      { w with
        files := ((s.place? w.files).map fun place =>
          appendAt place (r.fileBytes w.timestamp) w.files).getD w.files
        stderr := w.stderr ++ s.shows w r } := by
  have shown (w : World) : emit r w (.console s.least) =
      { w with
        stderr := w.stderr ++
          if s.least.rank ≤ r.level.rank then Text.withEscapedHalves r.consoleLine else "" } := by
    unfold emit
    dsimp only
    split
    · rfl
    · rw [String.append_empty]
  rw [LogSetup.handlers, List.foldl_cons, shown, LogSetup.shows, ← String.append_assoc]
  rcases s.place? w.files with _ | place
  · simp
  · simp only [Option.map_some, Option.toList_some, List.foldl_cons, List.foldl_nil, emit,
      Option.isSome_some, debug, Option.getD_some]
    rfl

end Written

/-- One record adds to the log file of the setup that is in force, which is there, and to no other
file. -/
theorem InForce.nodes_written {s : LogSetup} {w : World} (force : InForce s w) (r : Record)
    (location : Location) :
    (if some location ∈ (LogCall.setups s [.write r]).map (·.place? w.files) then
      some (((w.files.root.node? location).getD (.file ByteArray.empty false)).append
        (fileText w.files w.timestamp location [(s, r)]))
    else w.files.root.node? location) =
    if s.place? w.files = some location ∧ Level.debug.rank ≤ r.level.rank then
      (w.files.root.node? location).map (Node.append (r.fileBytes w.timestamp))
    else w.files.root.node? location := by
  have among : some location ∈ (LogCall.setups s [.write r]).map (·.place? w.files) ↔
      s.place? w.files = some location := by
    rw [LogCall.setups, LogCall.setups, List.map_singleton, List.mem_singleton, eq_comm]
  rw [fileText_one]
  by_cases here : s.place? w.files = some location
  · obtain ⟨n, there⟩ := Option.ne_none_iff_exists'.mp (force.there location here)
    rw [if_pos (among.mpr here), there, Option.getD_some]
    by_cases debug : Level.debug.rank ≤ r.level.rank
    · rw [if_pos ⟨here, debug⟩, if_pos ⟨here, debug⟩, Option.map_some]
    · rw [if_neg fun both => debug both.2, if_neg fun both => debug both.2, Node.append_empty]
  · rw [if_neg (mt among.mp here), if_neg fun both => here both.1]

/-- A record is written to the console and the log file of the setup that is in force. -/
theorem record_follows {s : LogSetup} {w : World} (force : InForce s w) (r : Record) :
    ∃ u, record r w = (.ok (), u) ∧ Follows w s [.write r] u := by
  have nodes := force.nodes_written r
  unfold record
  rw [modify_run]
  refine ⟨_, rfl, ?_⟩
  by_cases debug : Level.debug.rank ≤ r.level.rank
  · rw [if_pos debug, force.handlers, foldl_emit s r w debug, ← shownText_one]
    rcases placed : s.place? w.files with _ | place
    · refine ⟨rfl, .refl _, force.handlers, rfl, fun location => ?_⟩
      refine Eq.trans ?_ (nodes location).symm
      rw [placed, if_neg nofun]
      rfl
    · refine ⟨rfl, appendAt_more place _ _, force.handlers, rfl, fun location => ?_⟩
      refine Eq.trans (node?_appendAt place _ _ location) (Eq.trans ?_ (nodes location).symm)
      rw [placed]
      simp only [Option.some.injEq, debug, and_true, eq_comm]
  · have unshown : ¬ s.least.rank ≤ r.level.rank := fun reaches =>
      debug (Int.le_trans s.debug_le_least reaches)
    rw [if_neg debug]
    refine ⟨rfl, .refl _, force.handlers, ?_, fun location => ?_⟩
    · change w.stderr = w.stderr ++ shownText w [(s, r)]
      rw [shownText_one, LogSetup.shows, if_neg unshown]
      simp [debug]
    · refine Eq.trans ?_ (nodes location).symm
      rw [if_neg fun both => debug both.2]

/-- A setup takes the place of the one that is in force. -/
theorem Follows.replacing {s t : LogSetup} {w u : World} (follows : Follows w t [] u)
    (force : InForce s w) : Follows w s [.setUp t] u := by
  refine ⟨follows.same, follows.more, follows.handlers, follows.stderr, fun location => ?_⟩
  refine (follows.nodes location).trans ?_
  change (if some location ∈ [t.place? w.files] then
      some (((w.files.root.node? location).getD _).append ByteArray.empty) else _) =
    if some location ∈ [s.place? w.files, t.place? w.files] then
      some (((w.files.root.node? location).getD _).append ByteArray.empty) else _
  by_cases new : some location ∈ [t.place? w.files]
  · rw [if_pos new, if_pos (List.mem_cons_of_mem _ new)]
  · rw [if_neg new]
    split
    · next either =>
      exact force.kept ((List.mem_cons.mp either).resolve_right new).symm
    · rfl

/-! ## All calls -/

/-- All log files of some setups can be opened. -/
def AllOpen (files : Files) (calls : List LogCall) : Prop :=
  ∀ t, .setUp t ∈ calls → t.Opens files

/-- The first call is a setup that opens or none. -/
theorem AllOpen.cons_iff {files : Files} {call : LogCall} {calls : List LogCall} :
    AllOpen files (call :: calls) ↔ (∀ t, call = .setUp t → t.Opens files) ∧ AllOpen files calls := by
  simp only [AllOpen, List.mem_cons, or_imp, forall_and, eq_comm]

/-- Each setup opens in both or in neither. -/
theorem AllOpen.congr {files changed : Files} (more : MoreFiles files changed)
    (calls : List LogCall) : AllOpen changed calls ↔ AllOpen files calls := by
  simp only [AllOpen, LogSetup.opens_iff more]

/-- One call under a setup comes out well if the log file can be opened, and else fails. -/
theorem perform_follows {s : LogSetup} {w : World} (force : InForce s w) (call : LogCall) :
    (∀ t, call = .setUp t → t.Opens w.files) ∧
        (∃ u, call.perform w = (.ok (), u) ∧ Follows w s [call] u) ∨
      (¬ ∀ t, call = .setUp t → t.Opens w.files) ∧ ∃ f u, call.perform w = (.error f, u) := by
  cases call with
  | write r => exact .inl ⟨nofun, record_follows force r⟩
  | setUp t =>
    by_cases opens : t.Opens w.files
    · obtain ⟨u, done, follows⟩ := setupLogging_follows opens
      exact .inl ⟨fun _ same => LogCall.setUp.inj same ▸ opens, u, done, follows.replacing force⟩
    · exact .inr ⟨fun all => opens (all t rfl), setupLogging_refused opens⟩

/-- Any number of calls under a setup comes out well if all log files can be opened, and else fails.
-/
theorem performAll_follows {s : LogSetup} {w : World} (force : InForce s w) (calls : List LogCall) :
    AllOpen w.files calls ∧
        (∃ v, calls.forM LogCall.perform w = (.ok (), v) ∧ Follows w s calls v) ∨
      ¬ AllOpen w.files calls ∧ ∃ f v, calls.forM LogCall.perform w = (.error f, v) := by
  induction calls generalizing s w with
  | nil =>
    refine .inl ⟨nofun, w, rfl, rfl, .refl _, force.handlers, String.append_empty.symm,
      fun location => ?_⟩
    change _ = if some location ∈ [s.place? w.files] then
      some (((w.files.root.node? location).getD _).append ByteArray.empty) else _
    split
    · next here => exact force.kept (List.mem_singleton.mp here).symm
    · rfl
  | cons call rest ih =>
    rw [AllOpen.cons_iff, List.forM, bind_run]
    obtain ⟨opens, u, done, first⟩ | ⟨refused, f, u, failed⟩ := perform_follows force call
    · rw [done]
      dsimp only
      rw [← AllOpen.congr first.more]
      obtain ⟨others, v, ended, second⟩ | ⟨refused, f, v, failed⟩ := ih first.inForce
      · exact .inl ⟨⟨opens, others⟩, v, ended, first.trans second⟩
      · exact .inr ⟨fun all => refused all.2, f, v, failed⟩
    · rw [failed]
      exact .inr ⟨fun all => refused all.1, f, u, rfl⟩

/-- Setting up logging and then setting it up and writing records in any order comes out well exactly
if all log files can be opened. Then the latest setup is in force. The console has shown each record
once if its level reached that of the setup that was in force, and each log file has kept what it had
and holds each record once that was written under a setup with this file. As long as all records have
bytes, their lines are all that the console has shown.

Proof: by induction on the calls, in `performAll_follows`. Each call makes at most one file where
nothing stood, so the names of log files lead to the same places before and after it. -/
theorem setups_follow (s : LogSetup) (calls : List LogCall) (w : World) :
    (AllOpen w.files (.setUp s :: calls) ↔
        ∃ v, (LogCall.setUp s :: calls).forM LogCall.perform w = (.ok (), v)) ∧
      ∀ v, (LogCall.setUp s :: calls).forM LogCall.perform w = (.ok (), v) →
        Follows w s calls v ∧
          ((∀ r, .write r ∈ calls → r.hasBytes w.timestamp) →
            v.stderr = w.stderr ++ consoleText (LogCall.written s calls)) := by
  have fails (f : Fault) (u v : World) :
      ((.error f, u) : Except Fault PUnit × World) ≠ (.ok (), v) :=
    fun same => nomatch (Prod.mk.inj same).1
  rw [AllOpen.cons_iff, List.forM, bind_run, LogCall.perform]
  by_cases opens : s.Opens w.files
  · obtain ⟨u, done, first⟩ := setupLogging_follows opens
    have here : ∀ t, LogCall.setUp s = .setUp t → t.Opens w.files :=
      fun t same => LogCall.setUp.inj same ▸ opens
    rw [done, ← AllOpen.congr first.more]
    dsimp only
    obtain ⟨others, v, ended, second⟩ | ⟨refused, f, v, failed⟩ :=
      performAll_follows first.inForce calls
    · rw [ended]
      refine ⟨⟨fun _ => ⟨v, rfl⟩, fun _ => ⟨here, others⟩⟩, ?_⟩
      rintro _ ⟨⟩
      have follows := first.trans second
      refine ⟨follows, fun encoded => ?_⟩
      rw [follows.stderr]
      exact congrArg _ (shownText_of_hasBytes fun t r among =>
        encoded r (LogCall.mem_of_written among))
    · rw [failed]
      exact ⟨⟨fun all => absurd all.2 refused, fun ⟨_, ended⟩ => absurd ended (fails f v _)⟩,
        fun _ ended => absurd ended (fails f v _)⟩
  · obtain ⟨f, u, failed⟩ := setupLogging_refused opens
    rw [failed]
    exact ⟨⟨fun all => absurd (all.1 s rfl) opens, fun ⟨_, ended⟩ => absurd ended (fails f u _)⟩,
      fun _ ended => absurd ended (fails f u _)⟩

/-- A machine on which one name of a log file is a link to another one. -/
def linkedLogs : World where
  files := { root := [("b.log", .link "a.log")] }
  timestamp := "t"
  processes := ⟨[], {}⟩
  replies := ⟨[], .refused .connection ""⟩

def firstLog : LogSetup := { quiet := true, logFile := some (.parse "/a.log") }

/-- A warning under the first setup, and a detail under one whose log file has another name. -/
def linkedCalls : List LogCall :=
  [.write ⟨.warning, "x", "one"⟩, .setUp { logFile := some (.parse "/b.log") },
    .write ⟨.debug, "y", "two"⟩]

/-- The second log is reached through a link to the first, so both setups write one file. -/
theorem setups_follow_linkedLogs :
    ∃ v, (LogCall.setUp firstLog :: linkedCalls).forM LogCall.perform linkedLogs = (.ok (), v) ∧
      v.handlers = [.console .info, .file ["a.log"]] ∧ v.stderr = "WARNING  one\n" ∧
      v.files.root.node? ["a.log"] =
        some (.file "t WARNING  x: one\nt DEBUG    y: two\n".toUTF8 false) := by
  have opens : AllOpen linkedLogs.files (.setUp firstLog :: linkedCalls) := by
    simp only [linkedCalls, AllOpen.cons_iff, LogCall.setUp.injEq, forall_eq', reduceCtorEq,
      false_imp_iff, implies_true, true_and]
    exact ⟨by decide +kernel, by decide +kernel, nofun⟩
  obtain ⟨ended, follows⟩ := setups_follow firstLog linkedCalls linkedLogs
  obtain ⟨v, ran⟩ := ended.mp opens
  obtain ⟨follows, shown⟩ := follows v ran
  have encoded : ∀ r, .write r ∈ linkedCalls → r.hasBytes linkedLogs.timestamp := by
    simp only [linkedCalls, List.mem_cons, LogCall.write.injEq, reduceCtorEq, List.not_mem_nil,
      or_false, false_or, forall_eq_or_imp, forall_eq]
    decide +kernel
  refine ⟨v, ran, follows.handlers.trans (by decide +kernel),
    (shown encoded).trans (by decide +kernel),
    (follows.nodes ["a.log"]).trans ?_⟩
  have text : fileText linkedLogs.files linkedLogs.timestamp ["a.log"]
      (LogCall.written firstLog linkedCalls) =
        "t WARNING  x: one\nt DEBUG    y: two\n".toUTF8 := by decide +kernel
  rw [if_pos (by decide +kernel), text]
  rfl

/-- A record that has no bytes. -/
def brokenRecord : Record := ⟨.warning, "x", String.ofList [Text.charOfEscape 0xD800]⟩

/-- A record reaches the log file of an earlier setup when another name leads to it, and no log file
at all when it has no bytes. -/
theorem linkedLogs_shared :
    PathName.parse "/a.log" ≠ PathName.parse "/b.log" ∧
      (((LogCall.setUp firstLog :: linkedCalls).forM LogCall.perform linkedLogs).2.files.read
        (.parse "/a.log")).toOption =
          some "t WARNING  x: one\nt DEBUG    y: two\n".toUTF8 ∧
      (([LogCall.setUp firstLog, .write brokenRecord].forM LogCall.perform linkedLogs).2.files.read
        (.parse "/a.log")).toOption = some ByteArray.empty := by
  decide +kernel

end BuildBench
