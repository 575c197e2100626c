import BuildBench.World.Disk
import BuildBench.Digest.Sha256
import BuildBench.Settings.Basic
import BuildBench.Value.Shown

/-!
# Cache keys

A cache key names an operating system, a start chosen by the user, and a digest of lock files: of
their contents in the order of their paths, and of nothing else.
-/

namespace BuildBench.Cache

open BuildBench.Action

/-- The search pattern that a setting holds. Only text is one. -/
def patternOf (v : Value) : Except Fault Pattern :=
  match v.bare with
  | .text s => Pattern.parse s
  | content =>
    if !v.isPresent then .error (.invalid ("Unacceptable pattern: " ++ v.quoted))
    else
      match content with
      | .map entries =>
        if entries.any fun (key, _) => key.sameKey (.int 0) then .error .wrongType
        else .error (.missingKey (.int 0))
      | .list items => .error (if holdsText items "/" then .noSuchMember else .wrongType)
      | _ => .error .wrongType

/-- Folders whose files do not count. -/
def ignoredFolder : String := ".git"

/-- The files below a folder that a pattern selects, in the order of their paths. -/
def lockFiles (root : PathName) (pattern : Pattern) : Action (List PathName) := do
  let found ← Disk.glob root pattern
  let counted ← found.filterM fun path => do
    if ← Disk.isFile path then
      return !(path.parts.drop root.parts.length).contains ignoredFolder
    else return false
  return counted.mergeSort PathName.atMost

/-- The digest of several contents: the digest of their digests, one after the other. -/
def digestAll (contents : List ByteArray) : String :=
  Digest.hex (Digest.sha256 ((contents.map Digest.sha256).foldl (· ++ ·) ByteArray.empty))

/-- The digest of all files below a folder that a pattern selects; empty text if there are none. -/
def hashFiles (root : PathName) (pattern : Value) : Action String := do
  let files ← lockFiles root (← ofResult (patternOf pattern))
  if files.isEmpty then return ""
  else
    let contents ← files.mapM Disk.read
    log .debug "cache"
      ("Hashed " ++ toString files.length ++ " file(s) matching " ++ pattern.display)
    return digestAll contents

/-- The names of operating systems in keys. -/
def systemLabel (systemName : String) : String :=
  if systemName == "Darwin" then "macOS"
  else if systemName.isEmpty then "unknown"
  else systemName

/-- The key for a start and a digest. -/
def key (label : String) (start : Value) (digest : String) : Except Fault String := do
  return label ++ "-" ++ (← start.textOf) ++ "-" ++ digest

/-- The place of a cached path. A relative one is read from the working directory. -/
def place (homes : Homes) (path : Value) (workdir : PathName) : Except Fault PathName := do
  return workdir.join (← homes.replaceTilde (← pathSetting path))

end BuildBench.Cache
