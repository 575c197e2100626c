import BuildBench.Files.Walk

/-!
# Changing files

Each operation either gives the files after it, or says why it is impossible and changes nothing.
Operations on several entries are copies of folders: a copy goes on after an entry that cannot be
copied, and reports all failures at the end.
-/

namespace BuildBench.Files

def put (files : Files) (location : Location) (entry : Entry) : Files :=
  { files with root := files.root.put entry location }

/-- Makes an empty folder. -/
def makeFolder (files : Files) (path : PathName) : Except SystemError Files := do
  let place ← files.place false path
  match place.entry with
  | some _ => .error .exists
  | none => .ok (files.put place.location (.folder []))

/-- Makes a folder and the folders above it, as far as they are missing. A folder that is there
already is no failure. -/
def makeFolders (files : Files) (path : PathName) : Except (SystemError × PathName) Files :=
  let rec make (files : Files) (path : PathName) : Nat → Except (SystemError × PathName) Files
    | 0 => .error (.notFound, path)
    | above + 1 =>
      let accepting (files : Files) (e : SystemError) : Except (SystemError × PathName) Files :=
        match files.isFolder path with
        | .ok true => .ok files
        | _ => .error (e, path)
      match files.makeFolder path with
      | .ok files => .ok files
      | .error .notFound =>
        if path.parent = path then .error (.notFound, path)
        else do
          let files ← make files path.parent above
          match files.makeFolder path with
          | .ok files => .ok files
          | .error .notFound => .error (.notFound, path)
          | .error e => accepting files e
      | .error e => accepting files e
  make files path (path.parts.length + 1)

/-- Writes a file, in place of its former content. Through a link the file that it leads to is
written, even if that does not exist yet. -/
def write (files : Files) (path : PathName) (content : ByteArray) : Except SystemError Files := do
  let place ← files.place true path
  match place.entry with
  | some (.folder _) => .error .isDirectory
  | some (.file _ executable) => .ok (files.put place.location (.file content executable))
  | _ => .ok (files.put place.location (.file content false))

/-- Says whether the file that a path name leads to may be run. -/
def setExecutable (files : Files) (path : PathName) (executable : Bool) :
    Except SystemError Files := do
  let place ← files.place true path
  match place.entry with
  | some (.file content _) => .ok (files.put place.location (.file content executable))
  | some _ => .ok files
  | none => .error .notFound

def makeLink (files : Files) (target : String) (path : PathName) : Except SystemError Files := do
  let place ← files.place false path
  match place.entry with
  | some _ => .error .exists
  | none =>
    if target.isEmpty then .error .notFound else .ok (files.put place.location (.link target))

/-- The target of the link at a path name, as it was written. -/
def readLink (files : Files) (path : PathName) : Except SystemError String := do
  let place ← files.place false path
  match place.entry with
  | some (.link target) => .ok target
  | some _ => .error .invalidArgument
  | none => .error .notFound

/-- Takes a file or a link away. -/
def unlink (files : Files) (path : PathName) : Except SystemError Files := do
  let place ← files.place false path
  match place.entry with
  | some (.folder _) => .error .isDirectory
  | some _ => .ok { files with root := files.root.remove place.location }
  | none => .error .notFound

/-- Takes a folder away, with everything in it. -/
def removeTree (files : Files) (path : PathName) : Except SystemError Files := do
  let place ← files.place false path
  match place.entry with
  | some (.folder _) => .ok { files with root := files.root.remove place.location }
  | some (.link _) => .error .notDirectory
  | some (.file _ _) => .error .notDirectory
  | none => .error .notFound

/-- Takes whatever stands at a path name away, a link itself and not what it leads to. -/
def discard (files : Files) (path : PathName) : Files :=
  match files.place false path with
  | .ok place =>
    if place.entry.isSome then { files with root := files.root.remove place.location } else files
  | .error _ => files

/-- Moves a folder to a place where nothing stands, or only an empty folder. -/
def moveFolder (files : Files) (source target : PathName) : Except SystemError Files := do
  let origin ← files.place false source
  let goal ← files.place false target
  match origin.entry, goal.entry with
  | none, _ => .error .notFound
  | some _, some (.folder (_ :: _)) => .error .notEmpty
  | some _, some (.file _ _) | some _, some (.link _) => .error .notDirectory
  | some entry, _ =>
    if origin.location.isPrefixOf goal.location then .error .invalidArgument
    else
      .ok { files with
        root := (files.root.remove origin.location).put entry goal.location }

/-! ## Copies -/

/-- Where a copy of a file goes: into a folder it goes under its own name. -/
def copyGoal (files : Files) (source target : PathName) : PathName :=
  match files.isFolder target with
  | .ok true => target.child source.name
  | _ => target

/-- Copies a file with its content and whether it may be run. -/
def copyFile (files : Files) (source target : PathName) : Except SystemError Files := do
  let origin ← files.place true source
  match origin.entry with
  | none => .error .notFound
  | some (.file content executable) =>
    let target := files.copyGoal source target
    match files.place true target with
    | .ok goal =>
      if goal.location = origin.location then .error .invalidArgument
      else do
        let files ← files.write target content
        files.setExecutable target executable
    | .error e => .error e
  | some _ => .error .isDirectory

/-- What a copy of several entries did: the files after it, and what could not be copied. A copy
that nests too deep stops where it is. -/
structure CopyResult where
  files : Files
  failures : List (PathName × SystemError) := []
  tooDeep : Bool := false

/-- Goes on with a copy, and keeps all failures. -/
def CopyResult.andThen (r : CopyResult) (next : Files → CopyResult) : CopyResult :=
  if r.tooDeep then r
  else
    let after := next r.files
    { after with failures := r.failures ++ after.failures }

/-- The result of an operation that failed or changed the files. -/
def CopyResult.ofChange (files : Files) (target : PathName) :
    Except SystemError Files → CopyResult
  | .ok changed => { files := changed }
  | .error e => { files := files, failures := [(target, e)] }

/-- Makes the folder that a copy goes into. One that is there already is a failure unless `merge`.
-/
def makeTarget (files : Files) (merge : Bool) (target : PathName) :
    Except (SystemError × PathName) Files :=
  match files.place true target with
  | .ok ⟨_, some (.folder _)⟩ => if merge then .ok files else .error (.exists, target)
  | _ => files.makeFolders target

/-- Copies one entry. Links are copied as links; `inner` copies a folder. -/
def copyEntry (inner : PathName → PathName → Files → CopyResult) (source target : PathName)
    (files : Files) : Entry → CopyResult
  | .link _ =>
    match files.readLink source with
    | .error e => { files := files, failures := [(source, e)] }
    | .ok text => .ofChange files target (files.makeLink text target)
  | .file _ _ => .ofChange files target (files.copyFile source target)
  | .folder _ => inner source target files

/-- Copies the entries of a folder into another one, in their order. -/
def copyEntries (inner : PathName → PathName → Files → CopyResult) (source target : PathName) :
    Folder → Files → CopyResult
  | [], files => { files := files }
  | (name, entry) :: rest, files =>
    (copyEntry inner (source.child name) (target.child name) files entry).andThen
      (copyEntries inner source target rest)

/-- Copies a folder whose parts nest less than `depth` deep. The entries to copy are those that it
has before the target is made; what they hold is what they hold when their turn comes. -/
def copyFolder (merge : Bool) : Nat → PathName → PathName → Files → CopyResult
  | 0, _, _, files => { files := files, tooDeep := true }
  | depth + 1, source, target, files =>
    match files.lookUp source with
    | .error e => { files := files, failures := [(source, e)] }
    | .ok (.folder entries) =>
      match files.makeTarget merge target with
      | .error (e, path) => { files := files, failures := [(path, e)] }
      | .ok made => copyEntries (copyFolder merge depth) source target entries made
    | .ok _ => { files := files, failures := [(source, .notDirectory)] }

/-- Folders may nest this deep in a copy. -/
def copyDepth : Nat := 489

/-- Copies a folder. Links are copied as links. With `merge` the target may exist already; then its
other entries stay. -/
def copyTree (files : Files) (merge : Bool) (source target : PathName) : CopyResult :=
  copyFolder merge copyDepth source target files

end BuildBench.Files
