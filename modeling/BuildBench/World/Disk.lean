import BuildBench.World.Basic
import BuildBench.Files.Glob
import BuildBench.Files.Home
import BuildBench.Text.Utf8

/-!
# Files of the world

The operations on files as actions: a failure names the path that it concerns. A name that holds a
zero character or has no bytes is no path name; asking whether something is there then simply gives
no.

The user of the program is one whom permissions keep from no file, and the disks have room for
whatever is written. So an operation fails because of what stands at its path names, never because
it is not allowed or because there is no space, and a file that was opened can be taken away.
-/

namespace BuildBench

/-- The home directories: the present user's own comes from a variable. -/
def World.homes (w : World) : Homes :=
  ⟨(w.environment.lookup "HOME").getD ((w.accounts.lookup "root").getD "/root"), w.accounts⟩

/-- The size of an entry in bytes. -/
def World.sizeOf (w : World) : Entry → Nat
  | .file content _ => content.size
  | .folder inner => w.folderSize inner
  | .link text => text.utf8ByteSize

namespace Disk

open BuildBench.Action

/-- Whether something can be the name of a file. -/
def isName (path : PathName) : Bool := (nameFault? path.display).isNone

/-- Fails when a name is no path name. -/
def requireName (path : PathName) : Action Unit :=
  match nameFault? path.display with
  | some f => throw f
  | none => pure ()

def systemFault (path : PathName) (e : SystemError) : Fault := .system e path.display

/-- Asks something about the files at a path name. -/
def ask (path : PathName) (question : Files → PathName → Except SystemError Bool) :
    Action Bool := do
  if !isName path then return false
  else ofResult ((question (← get).files path).mapError (systemFault path))

def exists? (path : PathName) : Action Bool := ask path Files.exists?

def isFile (path : PathName) : Action Bool := ask path Files.isFile

def isFolder (path : PathName) : Action Bool := ask path Files.isFolder

def isLink (path : PathName) : Action Bool := ask path Files.isLink

def read (path : PathName) : Action ByteArray := do
  requireName path
  ofResult (((← get).files.read path).mapError (systemFault path))

/-- The text of a file. Line ends of all three conventions become line feeds. -/
def readText (path : PathName) : Action String := do
  match Text.decode (← read path) with
  | .ok s => return String.ofList (Text.plainNewlines s.toList)
  | .error reason => throw (.undecodable reason)

/-- Changes the files. -/
def change (path : PathName) (operation : Files → Except SystemError Files) : Action Unit := do
  requireName path
  let w ← get
  match operation w.files with
  | .ok files => set (w.withFiles files)
  | .error e => throw (systemFault path e)

def write (path : PathName) (content : ByteArray) : Action Unit :=
  change path (·.write path content)

def unlink (path : PathName) : Action Unit := change path (·.unlink path)

/-- Takes a file away, if it is there. -/
def unlinkIfThere (path : PathName) : Action Unit :=
  tryCatch (unlink path) fun
    | .system .notFound _ => pure ()
    | f => throw f

def makeFolder (path : PathName) : Action Unit := change path (·.makeFolder path)

def makeFolders (path : PathName) : Action Unit := do
  requireName path
  let w ← get
  match w.files.makeFolders path with
  | .ok files => set (w.withFiles files)
  | .error (e, failed) => throw (systemFault failed e)

def removeTree (path : PathName) : Action Unit := change path (·.removeTree path)

def copyFile (source target : PathName) : Action Unit :=
  change target (·.copyFile source target)

/-- Copies a folder; what could not be copied is reported after the rest was. -/
def copyTree (merge : Bool) (source target : PathName) : Action Unit := do
  requireName source
  requireName target
  let w ← get
  let result := w.files.copyTree merge source target
  set (w.withFiles result.files)
  if result.tooDeep then throw (.tooDeep "")
  unless result.failures.isEmpty do
    throw (.several (result.failures.map fun (path, e) => (systemFault path e).message))

def moveFolder (source target : PathName) : Action Unit :=
  change target (·.moveFolder source target)

/-- The size in bytes of what a path name leads to. -/
def size (path : PathName) : Action Nat := do
  requireName path
  let w ← get
  match w.files.lookUp path with
  | .ok entry => return w.sizeOf entry
  | .error e => throw (systemFault path e)

def isExecutable (path : PathName) : Action Bool := do
  return isName path && (← get).files.isExecutable path

def realPath (path : PathName) : Action PathName := do
  requireName path
  ofResult ((← get).files.realPath path)

/-- All path names below a folder that a pattern selects. -/
def glob (base : PathName) (pattern : Pattern) : Action (List PathName) := do
  if !isName base then return []
  else ofResult ((← get).files.glob base pattern)

def homes : Action Homes := do return (← get).homes

/-- Replaces a leading tilde. -/
def expandHome (path : PathName) : Action PathName := do
  ofResult ((← homes).replaceTilde path)

/-! ## Programs -/

/-- Whether a name can only mean a folder: it ends in a slash or in a dot. -/
def asksForFolder (name : String) : Bool :=
  let last := (Text.splitAt '/' name).getLastD ""
  last == "" || last == "."

/-- What is found under a name as it is written. Under the empty name there is nothing. -/
def find? (name : String) : Action (Option Entry) := do
  let path := PathName.parse name
  requireName path
  if name.isEmpty then return none
  else
    match (← get).files.lookUp path with
    | .ok entry => return if asksForFolder name && !entry.isFolder then none else some entry
    | .error _ => return none

/-- Whether a name leads to a program. -/
def isProgram (name : String) : Action Bool := do
  if !isName (.parse name) then return false
  else
    match ← find? name with
    | some (.file _ executable) => return executable
    | _ => return false

/-- A folder of the search path and a name below it. A name that starts at the root stays. -/
def inFolder (folder name : String) : String :=
  if Text.beginsWith "/" name || folder.isEmpty then name
  else if folder.toList.getLast? == some '/' then folder ++ name
  else folder ++ "/" ++ name

/-- The first of some names that leads to a program. -/
def firstProgram : List String → Action (Option String)
  | [] => return none
  | name :: rest => do
    if ← isProgram name then return some name else firstProgram rest

/-- The folders searched for programs when nothing else is said. -/
def standardSearchPath : String := "/bin:/usr/bin"

/-- Where the program of some name is found: at its name if that has a slash in it, else in the
first folder of the search path that holds it. -/
def findProgram (name : String) (searchPath : Option String) : Action (Option String) := do
  if name.toList.contains '/' then
    return if ← isProgram name then some name else none
  else
    let chosen := (searchPath <|> (← get).environment.lookup "PATH").getD standardSearchPath
    if chosen.isEmpty then return none
    else firstProgram ((Text.splitAt ':' chosen).map (inFolder · name))

/-- The text of a search path. Without one the program's own is meant. -/
def searchPathText : Value → Except Fault (Option String)
  | .null => .ok none
  | .text s => .ok (some s)
  | .bytes data => .ok (some (Text.nameOfBytes data))
  | v => if v.isPresent then .error .wrongType else .ok (some "")

/-- Where the program of some name is found. A name is a text or bytes, and so is the place. -/
def which (name searchPath : Value) : Action (Option Value) := do
  let find (s : String) : Action (Option String) := do
    -- The search path of a name with a slash in it is not looked at.
    if s.toList.contains '/' then findProgram s none
    else findProgram s (← ofResult (searchPathText searchPath))
  match name with
  | .text s => return (← find s).map .text
  | .bytes data =>
    return (← find (Text.nameOfBytes data)).map fun s => .bytes (Text.bytesOfName s)
  | _ => throw .wrongType

end Disk

end BuildBench
