import BuildBench.Files.PathName

/-!
# Trees of files

A folder is a list of entries with different names, in the order of their names, so that two trees
with the same content are equal. A location is the list of names that leads from the root to an
entry without passing through a link; `at?`, `put` and `remove` read and change the entry at a
location.
-/

namespace BuildBench

/-- What can stand in a folder. The target of a link is kept as it was written. -/
inductive Entry where
  | file (content : ByteArray) (executable : Bool)
  | link (target : String)
  | folder (entries : List (String × Entry))
  deriving Inhabited

abbrev Folder := List (String × Entry)

abbrev Location := List String

namespace Entry

def isFolder : Entry → Bool
  | .folder _ => true
  | _ => false

def isFile : Entry → Bool
  | .file _ _ => true
  | _ => false

def isLink : Entry → Bool
  | .link _ => true
  | _ => false

end Entry

namespace Folder

/-- Puts an entry under a name, in place of the one that had it. -/
def insert (name : String) (entry : Entry) : Folder → Folder
  | [] => [(name, entry)]
  | (other, e) :: rest =>
    if name = other then (name, entry) :: rest
    else if name < other then (name, entry) :: (other, e) :: rest
    else (other, e) :: insert name entry rest

def erase (name : String) (f : Folder) : Folder := f.filter (·.1 != name)

/-- The entry at a location. -/
def at? : Location → Folder → Option Entry
  | [], f => some (.folder f)
  | name :: rest, f =>
    match f.lookup name with
    | some (.folder inner) => at? rest inner
    | some entry => if rest.isEmpty then some entry else none
    | none => none

/-- Puts an entry at a location. Nothing changes when the folder that should hold it is missing. -/
def put (entry : Entry) : Location → Folder → Folder
  | [], f => f
  | [name], f => insert name entry f
  | name :: next :: rest, f =>
    match f.lookup name with
    | some (.folder inner) => insert name (.folder (put entry (next :: rest) inner)) f
    | _ => f

/-- Takes the entry at a location away, with everything in it. -/
def remove : Location → Folder → Folder
  | [], f => f
  | [name], f => erase name f
  | name :: next :: rest, f =>
    match f.lookup name with
    | some (.folder inner) => insert name (.folder (remove (next :: rest) inner)) f
    | _ => f

end Folder

mutual

/-- How many links there are in an entry. -/
def Entry.linkCount : Entry → Nat
  | .file _ _ => 0
  | .link _ => 1
  | .folder entries => linkCountOf entries

def linkCountOf : Folder → Nat
  | [] => 0
  | (_, e) :: rest => e.linkCount + linkCountOf rest

end

end BuildBench
