import BuildBench.CommandLine.Basic

/-!
# The program

The files that a command line can concern are read into a world, the command acts on that world, and
what it printed and wrote is carried out. Processes and downloads are not available to a program
that is run in this way: every process is one that cannot be found, and every server refuses.
-/

namespace BuildBench.Main

/-- Reads what stands in a folder. Links to folders, and what cannot be read, are left out. -/
partial def readFolder (name : String) : IO Folder := do
  let mut folder : Folder := []
  for entry in ← (← IO.FS.realPath name).readDir do
    let path := entry.path
    let isLink := (← path.symlinkMetadata).type == .symlink
    let read : IO (Option Entry) := do
      if ← path.isDir then
        if isLink then return none else return some (.folder (← readFolder path.toString))
      else return some (.file (← IO.FS.readBinFile path) false)
    if let .ok (some e) ← read.toBaseIO then folder := Folder.insert entry.fileName e folder
  return folder

/-- Reads a file or a folder, if it is there. -/
def readEntry? (name : String) : IO (Option Entry) := do
  match ← (readFolder name).toBaseIO with
  | .ok folder => return some (.folder folder)
  | .error _ =>
    match ← (IO.FS.readBinFile name).toBaseIO with
    | .ok content => return some (.file content false)
    | .error _ => return none

/-- Puts an entry at a location and makes the folders above it. -/
def plant (entry : Entry) (location : Location) (files : Files) : Files :=
  let path : PathName := ⟨.root, location⟩
  (withFolders files path).put location entry

/-- Reads the files at a path name into the tree, unless they are there already. -/
def load (files : Files) (name : String) : IO Files := do
  let location := (files.absolute (.parse name)).parts
  if (files.root.at? location).isSome then return files
  else
    match ← readEntry? name with
    | some entry => return plant entry location files
    | none => return files

/-- The variables that matter to a run. -/
def variableNames : List String :=
  ["HOME", "PATH", "GITHUB_EVENT_NAME", "GITHUB_REF_NAME", "GITHUB_BASE_REF"]

def readVariables : IO Variables := do
  let pairs ← variableNames.mapM fun name => return (← IO.getEnv name).map fun v => (name, v)
  return pairs.filterMap id

/-- The world that a command line acts on: the current folder, and whatever its words name. -/
def readWorld (words : List String) : IO World := do
  let current := (← IO.currentDir).toString
  let start : Files := { root := [], current := (PathName.parse current).parts }
  let here ← readFolder current
  let files := plant (.folder here) start.current start
  let files ← words.foldlM load files
  return {
    files := files
    environment := ← readVariables
    processes := ⟨[], { launch := .notFound }⟩
    replies := ⟨[], .refused .connection "no connection"⟩ }

/-- Writes the entries that are new or changed. -/
partial def writeChanges (above : String) (old new : Folder) : IO Unit := do
  for (name, entry) in new do
    let path := above ++ "/" ++ name
    match entry, old.lookup name with
    | .folder inner, some (.folder before) => writeChanges path before inner
    | .folder inner, _ =>
      IO.FS.createDirAll path
      writeChanges path [] inner
    | .file content _, some (.file before _) =>
      unless content == before do IO.FS.writeBinFile path content
    | .file content _, _ => IO.FS.writeBinFile path content
    | .link _, _ => pure ()

/-- Acts on a command line and gives the exit code. -/
def act (words : List String) : IO UInt32 := do
  let before ← readWorld words
  let (ending, after) := CommandLine.act words before
  writeChanges "" before.files.root after.files.root
  (← IO.getStdout).putStr after.stdout
  (← IO.getStderr).putStr after.stderr
  match ending with
  | .ok code => return UInt32.ofNat (code % 256).toNat
  | .error f =>
    (← IO.getStderr).putStrLn ("Error: " ++ f.message)
    return 1

end BuildBench.Main

def main (args : List String) : IO UInt32 := BuildBench.Main.act args
