import BuildBench.Files.Tree
import BuildBench.Fault

/-!
# Following path names

A path name is followed component by component. A link on the way is replaced by its target; the
last component is followed too, unless the link itself is meant. At most forty links are followed.

The result is the place that the name leads to: its location, and the entry there. The last
component may be missing; all before it must be folders.
-/

namespace BuildBench

structure Place where
  location : Location
  entry : Option Entry

/-- Names of entries have at most 255 bytes. -/
def isLongName (name : String) : Bool := 255 < name.utf8ByteSize

/-- Path names have at most 4095 bytes. -/
def PathName.isLong (p : PathName) : Bool := 4095 < p.display.utf8ByteSize

/-- The components of a link's target. A slash or a single dot at the end asks for a folder. -/
def targetComponents (target : String) : List String :=
  let last := (Text.splitAt '/' target).getLastD ""
  PathName.components target ++ (if last == "" || last == "." then ["."] else [])

/-- Where the target of a link in the folder `here` starts. -/
def targetBase (here : Location) (target : String) : Location :=
  if target.toList.head? == some '/' then [] else here

/-- Follows components from the folder `here`. `follow` goes on behind a link; `last` says whether a
link at the end is followed too. -/
def Folder.stepAlong (root : Folder) (last : Bool)
    (follow : Location → List String → Except SystemError Place) :
    Location → List String → Except SystemError Place
  | here, [] =>
    match root.at? here with
    | some entry => .ok ⟨here, some entry⟩
    | none => .error .notFound
  | here, name :: rest =>
    match root.at? here with
    | none => .error .notFound
    | some (.folder entries) =>
      if name = "." then stepAlong root last follow here rest
      else if name = ".." then stepAlong root last follow here.dropLast rest
      else if isLongName name then .error .nameTooLong
      else
        match entries.lookup name with
        | none => if rest.isEmpty then .ok ⟨here ++ [name], none⟩ else .error .notFound
        | some (.folder _) => stepAlong root last follow (here ++ [name]) rest
        | some (.link target) =>
          if rest.isEmpty && !last then .ok ⟨here ++ [name], some (.link target)⟩
          else if target.isEmpty then .error .notFound
          else follow (targetBase here target) (targetComponents target ++ rest)
        | some (.file content executable) =>
          if rest.isEmpty then .ok ⟨here ++ [name], some (.file content executable)⟩
          else .error .notDirectory
    | some _ => .error .notDirectory

/-- Follows components through at most `links - 1` links. -/
def Folder.walk (root : Folder) (last : Bool) :
    Nat → Location → List String → Except SystemError Place
  | 0, _, _ => .error .tooManyLinks
  | links + 1, here, parts => root.stepAlong last (walk root last links) here parts

/-- All files, and the location of the current directory. -/
structure Files where
  root : Folder
  current : Location := []

namespace Files

/-- The place that a path name leads to. `last` says whether a link at its end is followed. -/
def place (files : Files) (last : Bool) (p : PathName) : Except SystemError Place :=
  if p.isLong then .error .nameTooLong
  else files.root.walk last 41 (if p.isAbsolute then [] else files.current) p.parts

/-- The entry that a path name leads to, links followed. -/
def lookUp (files : Files) (p : PathName) : Except SystemError Entry := do
  match (← files.place true p).entry with
  | some entry => .ok entry
  | none => .error .notFound

/-- Errors that mean that there is nothing at a path name. -/
def meansAbsent : SystemError → Bool
  | .notFound | .notDirectory | .tooManyLinks => true
  | _ => false

/-- Whether what a path name leads to satisfies `p`; false if there is nothing. -/
def check (files : Files) (p : Entry → Bool) (path : PathName) : Except SystemError Bool :=
  match files.lookUp path with
  | .ok entry => .ok (p entry)
  | .error e => if meansAbsent e then .ok false else .error e

def exists? (files : Files) : PathName → Except SystemError Bool := files.check fun _ => true

def isFile (files : Files) : PathName → Except SystemError Bool := files.check Entry.isFile

def isFolder (files : Files) : PathName → Except SystemError Bool := files.check Entry.isFolder

/-- Whether there is a link at a path name, wherever it leads. -/
def isLink (files : Files) (path : PathName) : Except SystemError Bool :=
  match files.place false path with
  | .ok place => .ok (place.entry.any Entry.isLink)
  | .error e => if meansAbsent e then .ok false else .error e

/-- Whether a path name leads to something that may be run. Folders may. -/
def isExecutable (files : Files) (path : PathName) : Bool :=
  match files.lookUp path with
  | .ok (.file _ executable) => executable
  | .ok (.folder _) => true
  | _ => false

def read (files : Files) (path : PathName) : Except SystemError ByteArray := do
  match ← files.lookUp path with
  | .file content _ => .ok content
  | _ => .error .isDirectory

end Files

/-! ## The real location -/

/-- Follows components without asking whether they exist. Links that are being resolved are in
`opened`; meeting one of them again ends the walk, with the rest kept as it is. The flag says that
no such link was met. -/
def Folder.settleAlong (root : Folder)
    (resolve : List Location → Location → List String → Location × Bool)
    (opened : List Location) : Location → List String → Location × Bool
  | here, [] => (here, true)
  | here, name :: rest =>
    if name = "." then settleAlong root resolve opened here rest
    else if name = ".." then settleAlong root resolve opened here.dropLast rest
    else
      let next := here ++ [name]
      match root.at? next with
      | some (.link target) =>
        if opened.contains next then (next ++ rest, false)
        else
          match resolve (next :: opened) (targetBase here target) (targetComponents target) with
          | (found, true) => settleAlong root resolve opened found rest
          | (found, false) => (found ++ rest, false)
      | _ => settleAlong root resolve opened next rest

/-- The location behind some components, found by opening links at most `depth` deep. -/
def Folder.settle (root : Folder) : Nat → List Location → Location → List String → Location × Bool
  | 0, _, here, parts => (here ++ parts, false)
  | depth + 1, opened, here, parts =>
    root.settleAlong (settle root depth) opened here parts

/-- Components without single dots, two dots taking away the one before. -/
def plainLocation (parts : List String) : Location :=
  parts.foldl (fun done name =>
    if name = "." then done else if name = ".." then done.dropLast else done ++ [name]) []

/-- The path name read from the current directory, its dots resolved as text. -/
def Files.absolute (files : Files) (p : PathName) : PathName :=
  if p.isAbsolute then ⟨p.anchor, plainLocation p.parts⟩
  else ⟨.root, plainLocation (files.current ++ p.parts)⟩

/-- The path name without links that leads to the same place. Components that do not exist are kept.
Links that lead back to themselves have no real path name. -/
def Files.realPath (files : Files) (p : PathName) : Except Fault PathName :=
  let start := if p.isAbsolute then [] else files.current
  let (found, _) := files.root.settle (linkCountOf files.root + 1) [] start p.parts
  let real : PathName := ⟨.root, plainLocation found⟩
  match files.place true real with
  | .error .tooManyLinks => .error (.linkLoop real.display)
  | _ => .ok real

end BuildBench
