import BuildBench.World.Outside
import BuildBench.Text.ControlSequence
import BuildBench.World.Log

/-!
# The world of a run

Everything that a run reads and changes is in one value, and an action is a function on it that may
fail. What an action did before it failed stays done.
-/

namespace BuildBench

structure World where
  files : Files
  /-- The variables of the program itself. -/
  environment : Variables := []
  /-- Home directories of users by name. -/
  accounts : List (String × String) := []
  /-- The name of the operating system; empty when it is unknown. -/
  systemName : String := "Linux"
  /-- Where temporary files are made. -/
  temporary : PathName := ⟨.root, ["tmp"]⟩
  /-- The part of a temporary name that no other one has. -/
  unique : String := "XXXXXXXX"
  /-- What is written in front of records in a log file. -/
  timestamp : String := ""
  /-- What is told on the console about a record that a log file cannot take: a report whose text
  depends on the interpreter. -/
  complaint : Record → String := fun _ => "--- Logging error ---\n"
  /-- The size of a folder, which depends on the system. -/
  folderSize : Folder → Nat := fun _ => 4096
  clock : Float := 0.0
  /-- CPU time of all processes waited for: their own and the system's on their behalf. -/
  childUser : Float := 0.0
  childSystem : Float := 0.0
  processes : Supply Outcome
  replies : Supply Reply
  events : List Event := []
  /-- What was passed so far. No action reads it. -/
  trail : List Mark := []
  handlers : List Handler := []
  records : List Record := []
  stdout : String := ""
  stderr : String := ""

/-- Whether a handler still has somewhere to write to. A log file that was taken away does not come
back, whatever is put in its place. -/
def Handler.isConnected (files : Files) : Handler → Bool
  | .file location => (files.root.at? location).any Entry.isFile
  | _ => true

/-- The world after a change of its files. -/
def World.withFiles (w : World) (files : Files) : World :=
  { w with files := files, handlers := w.handlers.filter (·.isConnected files) }

/-- What the console is told when a log file has to take a record. -/
def World.complaintAbout (w : World) (r : Record) : String :=
  if r.hasBytes w.timestamp then "" else Text.withEscapedHalves (w.complaint r)

abbrev Action := ExceptT Fault (StateM World)

namespace Action

/-- Fails with what an operation reports, if it fails. -/
def ofResult {α : Type} : Except Fault α → Action α
  | .ok a => pure a
  | .error f => throw f

/-- The result of an action together with its fault, for those who go on after it. -/
def attempt {α : Type} (action : Action α) : Action (Except Fault α) := fun w =>
  match action w with
  | (result, w) => (.ok result, w)

/-- Runs `last` after an action, however that ended. -/
def thenAlways {α : Type} (action : Action α) (last : Action Unit) : Action α := do
  let result ← attempt action
  last
  ofResult result

/-- Passes a milestone. -/
def pass (milestone : Milestone) : Action Unit :=
  modify fun w => { w with trail := w.trail ++ [⟨milestone, w.files⟩] }

def note (event : Event) : Action Unit := do
  modify fun w => { w with events := w.events ++ [event] }
  pass (.event event)

/-- Prints text for the user. Control sequences are left out. Text without bytes cannot be printed.
-/
def stdout (text : String) : Action Unit := do
  let shown := Text.plain text
  match Text.encodingDefect? (fun _ => false) shown with
  | some reason => throw (.unencodable reason)
  | none => modify fun w => { w with stdout := w.stdout ++ shown }

/-- Prints text about errors for the user. Control sequences are left out, and what has no bytes is
escaped. -/
def stderr (text : String) : Action Unit :=
  modify fun w => { w with stderr := w.stderr ++ Text.withEscapedHalves (Text.plain text) }

/-! ## Records -/

/-- Adds bytes to the file at a location. -/
def appendAt (location : List String) (added : ByteArray) (files : Files) : Files :=
  match files.root.at? location with
  | some (.file content executable) =>
    files.put location (.file (content ++ added) executable)
  | _ => files

/-- What one handler does with a record. What the console cannot show is escaped there; a record that
a file cannot take is left out and told about. -/
def emit (r : Record) (w : World) : Handler → World
  | .journal => { w with records := w.records ++ [r] }
  | .console least =>
    if least.rank ≤ r.level.rank then
      { w with stderr := w.stderr ++ Text.withEscapedHalves r.consoleLine }
    else w
  | .file location =>
    { w with
      files := appendAt location (r.fileBytes w.timestamp) w.files
      stderr := w.stderr ++ w.complaintAbout r }

/-- Writes a record to all handlers. Records below the level of debugging are dropped. -/
def record (r : Record) : Action Unit :=
  modify fun w =>
    if Level.debug.rank ≤ r.level.rank then w.handlers.foldl (emit r) w else w

def log (level : Level) (part text : String) : Action Unit := record ⟨level, sourceName part, text⟩

/-- Records captured output line by line. -/
def logOutput (level : Level) (part output : String) : Action Unit :=
  (outputLines output).forM (log level part)

end Action

end BuildBench
