import BuildBench.Files.Change
import BuildBench.Text.Utf8
import BuildBench.Value.Variables

/-!
# What happens outside

A run depends on parties that it does not control: the processes it starts and the servers it
downloads from. What they will do is given in advance, one outcome after the other, so that a run is
a function of it. What the run does to them is written down as a list of events, and a trail keeps
with each of them how the files were at that moment.
-/

namespace BuildBench

/-- Outcomes in the order in which they will be used, and the one that all later uses get. -/
structure Supply (α : Type) where
  queued : List α
  rest : α

/-- The next outcome, and what is left. -/
def Supply.next {α : Type} (s : Supply α) : α × Supply α :=
  match s.queued with
  | first :: more => (first, { s with queued := more })
  | [] => (s.rest, s)

/-- A change that a process makes to the files. Folders on the way are made as needed, also on the
way to what is taken away. -/
inductive FileEdit where
  | makeFolder (path : PathName)
  | write (path : PathName) (content : ByteArray) (executable : Bool)
  | setExecutable (path : PathName) (executable : Bool)
  | link (target : String) (path : PathName)
  | remove (path : PathName)

def orUnchanged {ε : Type} (files : Files) (changed : Except ε Files) : Files :=
  changed.toOption.getD files

/-- The files with all folders on the way to a path name. -/
def withFolders (files : Files) (path : PathName) : Files :=
  orUnchanged files (files.makeFolders path.parent)

/-- The files after a change. What cannot be done is left undone. -/
def FileEdit.apply (files : Files) : FileEdit → Files
  | .makeFolder path => orUnchanged files (files.makeFolders path)
  | .write path content executable =>
    let made := withFolders files path
    orUnchanged made (made.write path content >>= (·.setExecutable path executable))
  | .setExecutable path executable =>
    let made := withFolders files path
    orUnchanged made (made.setExecutable path executable)
  | .link target path =>
    let made := withFolders files path
    orUnchanged made (made.makeLink target path)
  | .remove path => (withFolders files path).discard path

/-- Why a process is not started although its program is there. -/
inductive Refusal where
  /-- There is no argument to name a program. -/
  | noProgram
  /-- An argument or a variable holds a zero character. -/
  | zeroCharacter
  /-- The name of a variable holds an equals sign. -/
  | variableName
  /-- The program must not be run. -/
  | notPermitted
  deriving Repr, DecidableEq

/-- The fault of a process that is not started. -/
def Refusal.fault (program : String) : Refusal → Fault
  | .noProgram => .badPosition
  | .zeroCharacter => .invalid "embedded null byte"
  | .variableName => .invalid "illegal environment variable name"
  | .notPermitted => .system .notPermitted program

/-- How the start of a process goes. -/
inductive Launch where
  | started
  | notFound
  | refused (reason : Refusal)
  /-- The user interrupts the program while the process runs. -/
  | interrupted
  deriving Repr, DecidableEq

/-- What a process writes to a stream: bytes, or a text in the place of all bytes that are read as
it. -/
inductive Written where
  | text (s : String)
  | bytes (data : ByteArray)

instance : Coe String Written := ⟨.text⟩

/-- What is read from a stream. Bytes have to be those of a text, in which line ends of all three
conventions become line feeds. -/
def Written.read : Written → Except Fault String
  | .text s => .ok s
  | .bytes data =>
    match Text.decode data with
    | .ok s => .ok (String.ofList (Text.plainNewlines s.toList))
    | .error reason => .error (.undecodable reason)

/-- What a process does once it is started. Times are in seconds. -/
structure Outcome where
  launch : Launch := .started
  exitCode : Int := 0
  stdout : Written := .text ""
  stderr : Written := .text ""
  /-- How long it runs if nobody stops it. -/
  wall : Float := 0.0
  user : Float := 0.0
  system : Float := 0.0
  /-- How it changes the files if nobody stops it. -/
  edits : List FileEdit := []
  /-- How it has changed the files when it is stopped before it has ended. -/
  earlyEdits : List FileEdit := []
  /-- How long it takes to end, or is given to end, once its group was told to. -/
  grace : Float := 0.0
  /-- How long it takes to end once nothing can keep it from ending. -/
  dying : Float := 0.0
  /-- What it writes to the file that it is asked to report to. -/
  report : Option ByteArray := none
  /-- Whether it deletes that file. -/
  removesReport : Bool := false
  /-- Whether it survives the end of its group. -/
  stubborn : Bool := false
  /-- Whether the system refuses to end its group. -/
  groupSurvives : Bool := false

/-- What a server answers: a status and a body in chunks, which may be cut short by a problem; or no
answer at all. -/
inductive Reply where
  | answer (status : Int) (chunks : List ByteArray) (cut : Option (DownloadProblem × String))
  | refused (problem : DownloadProblem) (text : String)

/-- What was done to the outside. -/
inductive Event where
  | start (argv : List String) (folder : Option String) (env : Option Environment)
      (timeout : Value)
  | wait (timeout : Value)
  | endGroup
  | endProcess
  | request (address : Value) (timeout : Value) (agent : String)
  | readBody (chunkSize : Nat)

/-- What a run passes on its way: the bounds of its stages, and what it does to the outside. -/
inductive Milestone where
  | begins (stage : String)
  | ends (stage : String)
  | event (event : Event)

/-- A milestone, and the files as they were when it was passed. -/
structure Mark where
  milestone : Milestone
  files : Files

end BuildBench
