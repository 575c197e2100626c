import BuildBench.World.Disk

/-!
# Setting up logging

The console shows records from a level on; a log file holds all of them. Setting up again replaces
what was set up before.
-/

namespace BuildBench

open BuildBench.Action

/-- The level from which records are shown. Verbose counts more than quiet. -/
def consoleLevel (verbose quiet : Bool) : Level :=
  if verbose then .debug else if quiet then .warning else .info

/-- Opens a file for adding to it, and gives its location. -/
def openLogFile (path : PathName) : Action Location := do
  let w ← get
  let absolute := w.files.absolute path
  Disk.requireName absolute
  match w.files.place true absolute with
  | .error e => throw (Disk.systemFault absolute e)
  | .ok place =>
    match place.entry with
    | some (.folder _) => throw (Disk.systemFault absolute .isDirectory)
    | some _ => return place.location
    | none =>
      set { w with files := w.files.put place.location (.file ByteArray.empty false) }
      return place.location

/-- Sends records to the console and to a log file, and nowhere else. -/
def setupLogging (verbose quiet : Bool) (logFile : Option PathName) : Action Unit := do
  modify fun w => { w with handlers := [.console (consoleLevel verbose quiet)] }
  if let some path := logFile then
    let location ← openLogFile path
    modify fun w => { w with handlers := w.handlers ++ [.file location] }

end BuildBench
