import BuildBench.Cache.Key
import BuildBench.Json.Writing
import BuildBench.Timing.Export

/-!
# The cache

A cache is a folder with one entry for each key. An entry holds a copy of each cached path under its
number, and a manifest that lists the paths. An entry is written beside its place and moved there
when it is complete, so that what has a manifest is whole.
-/

namespace BuildBench

open BuildBench.Action

/-- A cache in some folder. -/
structure CacheStore where
  root : PathName

namespace CacheStore

/-- A cache in a folder whose name may begin with a tilde. -/
def atFolder (folder : PathName) : Action CacheStore := do return ⟨← Disk.expandHome folder⟩

def entryFolder (store : CacheStore) (key : String) : PathName := store.root.join (.parse key)

def manifestName : String := "manifest.json"

def manifestPath (store : CacheStore) (key : String) : PathName :=
  (store.entryFolder key).child manifestName

/-- Whether there is an entry for a key. -/
def has (store : CacheStore) (key : String) : Action Bool := Disk.isFile (store.manifestPath key)

/-- The manifest of an entry. -/
def readManifest (store : CacheStore) (key : String) : Action Value := do
  ofResult (Timing.readDocument (← Disk.readText (store.manifestPath key)))

/-- Whether a fault is about files or about an unacceptable value. -/
def isUnreadable (f : Fault) : Bool := f.isOutside || f.isInvalidValue

/-- Whether a value is the list of some texts. -/
def isListOf (texts : List String) : Value → Bool
  | .list items => items.length = texts.length && (items.zip texts).all fun (v, s) => v.isText s
  | _ => false

/-- Whether the entry for a key lists exactly these paths. A manifest that cannot be read lists
none. -/
def lists (store : CacheStore) (key : String) (wanted : List String) : Action Bool := do
  match ← attempt (store.readManifest key) with
  | .ok (.map entries) => return isListOf wanted ((member? "paths" entries).getD .null)
  | .ok _ => return false
  | .error f => if isUnreadable f then return false else throw f

def setupFailure (stage message : String) : Fault :=
  .stage { stage := stage, kind := .setup, message := message }

/-- Turns faults that concern files into a failure of a stage. -/
def failingAs {α : Type} (stage start : String) (action : Action α) : Action α :=
  tryCatch action fun f =>
    if f.isOutside then throw (setupFailure stage (start ++ ": " ++ f.message)) else throw f

/-- Copies one part of an entry back to its path. A part that is missing is passed over. -/
def restorePart (source target : PathName) : Action Unit := do
  if ← Disk.exists? source then
    if ← Disk.isFolder source then Disk.copyTree true source target
    else
      Disk.makeFolders target.parent
      Disk.copyFile source target

/-- Copies the parts of an entry back, from the part with some number on. -/
def restoreParts (entry : PathName) : Nat → List PathName → Action Unit
  | _, [] => return ()
  | i, target :: rest => do
    restorePart (entry.child (toString i)) target
    restoreParts entry (i + 1) rest

/-- Copies the entry for a key back to some paths. Whether that was possible: there must be an
entry, and it must list exactly these paths. -/
def restore (store : CacheStore) (key : String) (paths : List PathName) : Action Bool := do
  if !(← store.has key) then
    log .info "cache" ("Cache miss for " ++ key)
    return false
  let manifest ← tryCatch (store.readManifest key) fun f =>
    if isUnreadable f then
      throw (setupFailure "prepare"
        ("Unreadable cache manifest for " ++ key ++ ": " ++ f.message))
    else throw f
  let saved ← match manifest with
    | .map entries => pure ((member? "paths" entries).getD (.list []))
    | _ => throw .noSuchMember
  if !isListOf (paths.map PathName.display) saved then
    log .info "cache"
      ("Cache entry " ++ key ++ " was saved for different paths; treating as miss")
    return false
  failingAs "prepare" ("Cache restore failed for " ++ key)
    (restoreParts (store.entryFolder key) 0 paths)
  log .info "cache"
    ("Cache hit for " ++ key ++ " (" ++ toString paths.length ++ " path(s) restored)")
  return true

/-- Copies one path into an entry. A path that does not exist is passed over. -/
def savePart (source target : PathName) : Action Unit := do
  if ← Disk.isFolder source then Disk.copyTree false source target
  else if ← Disk.isFile source then Disk.copyFile source target
  else log .debug "cache" ("Cache path " ++ source.display ++ " does not exist, skipping")

/-- Copies paths into an entry, under numbers from some number on. -/
def saveParts (entry : PathName) : Nat → List PathName → Action Unit
  | _, [] => return ()
  | i, source :: rest => do
    savePart source (entry.child (toString i))
    saveParts entry (i + 1) rest

/-- The text of a manifest. -/
def manifestText (key : String) (paths : List String) : String :=
  Json.document (Json.object [("key", .text key), ("paths", .list (paths.map .text))]) ++ "\n"

/-- Where an entry is written before it is complete. -/
def stagingFolder (store : CacheStore) (key : String) : Action PathName := do
  return store.root.join (.parse ("." ++ key ++ "-" ++ (← get).unique))

/-- Writes a complete entry beside its place and moves it there. Whatever goes wrong, nothing is
left beside the place. -/
def writeEntry (store : CacheStore) (key : String) (paths : List PathName) : Action Unit := do
  Disk.makeFolders store.root
  let entry := store.entryFolder key
  if ← Disk.exists? entry then Disk.removeTree entry
  let staging ← store.stagingFolder key
  Disk.makeFolder staging
  let fill : Action Unit := do
    saveParts staging 0 paths
    Disk.write (staging.child manifestName)
      (manifestText key (paths.map PathName.display)).toUTF8
    Disk.moveFolder staging entry
  tryCatch fill fun f => do
    modify fun w => w.withFiles (w.files.discard staging)
    throw f

/-- Saves some paths under a key. Nothing is done when the entry for the key lists these paths
already; an entry that lists others is replaced. Whether an entry was written. -/
def save (store : CacheStore) (key : String) (paths : List PathName) : Action Bool := do
  if ← store.has key then
    if ← store.lists key (paths.map PathName.display) then
      log .debug "cache" ("Cache entry " ++ key ++ " already exists, not saving")
      return false
    log .info "cache"
      ("Cache entry " ++ key ++ " was saved for different paths; replacing it")
  failingAs "save-cache" ("Cache save failed for " ++ key) (store.writeEntry key paths)
  log .info "cache" ("Saved cache entry " ++ key)
  return true

end CacheStore

end BuildBench
