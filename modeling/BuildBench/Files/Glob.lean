import BuildBench.Files.Walk

/-!
# Search patterns

A pattern is a path name whose components may hold wildcards: a star for any characters, a question
mark for one, brackets for one out of a set. A component of two stars stands for any number of
folders; links to folders are not entered by it.
-/

namespace BuildBench

/-! ## Names -/

/-- One item of a set in brackets, its ends included. -/
structure CharRange where
  low : Nat
  high : Nat
  deriving Repr, DecidableEq

/-- What one place of a name may be. -/
inductive NameItem where
  | char (c : Char)
  | any
  | many
  | oneOf (negated : Bool) (ranges : List CharRange)
  deriving Repr, DecidableEq

/-- Cuts the inside of brackets at the hyphens that make ranges. The first `least` characters of a
piece belong to it whatever they are; a hyphen at the very end belongs to the last piece. -/
def rangePieces : Nat → Nat → List Char → List (List Char)
  | 0, _, cs => [cs]
  | fuel + 1, least, cs =>
    let piece := cs.take least ++ (cs.drop least).takeWhile (· != '-')
    match cs.drop piece.length with
    | [] => [cs]
    | [_] => [piece ++ ['-']]
    | _ :: rest => piece :: rangePieces fuel 2 rest

/-- Takes out ranges that are empty because their ends stand in the wrong order; what stood on both
sides of such a range becomes one piece. -/
def withoutEmptyRanges : List (List Char) → List (List Char)
  | [] => []
  | piece :: rest =>
    match withoutEmptyRanges rest with
    | [] => [piece]
    | next :: more =>
      match piece.getLast?, next with
      | some low, high :: tail =>
        if high < low then (piece.dropLast ++ tail) :: more else piece :: next :: more
      | _, _ => piece :: next :: more

def singleRanges (cs : List Char) : List CharRange := cs.map fun c => ⟨c.toNat, c.toNat⟩

/-- The ranges of several pieces, between which there are hyphens. A hyphen with nothing before it
stands for itself. -/
def rangesOf (piece : List Char) : List (List Char) → List CharRange
  | [] => singleRanges piece
  | next :: more =>
    match piece.getLast?, next with
    | some low, high :: tail =>
      singleRanges piece.dropLast ++ ⟨low.toNat, high.toNat⟩ :: rangesOf tail more
    | _, _ => singleRanges (piece ++ ['-']) ++ rangesOf next more

/-- The set that the inside of brackets writes. An exclamation mark that stands first once empty
ranges are out negates it; a set with nothing else in it then admits everything. -/
def bracketSet (inside : List Char) : NameItem :=
  let least := if inside.head? == some '!' then 2 else 1
  match withoutEmptyRanges (rangePieces inside.length least inside) with
  | ['!'] :: [] => .any
  | ('!' :: piece) :: more => .oneOf true (rangesOf piece more)
  | piece :: more => .oneOf false (rangesOf piece more)
  | [] => .oneOf false []

/-- The inside of brackets and what follows them. A closing bracket right at the beginning is part
of the set. -/
def bracketed (cs : List Char) : Option (List Char × List Char) :=
  let (mark, body) := match cs with
    | '!' :: rest => (['!'], rest)
    | _ => ([], cs)
  let (first, body) := match body with
    | ']' :: rest => ([']'], rest)
    | _ => ([], body)
  let inside := body.takeWhile (· != ']')
  match body.drop inside.length with
  | _ :: rest => some (mark ++ first ++ inside, rest)
  | [] => none

/-- The items of a pattern for a name, of which each uses up a character. A bracket without an end
stands for itself. -/
def nameItems : Nat → List Char → List NameItem
  | 0, _ | _, [] => []
  | fuel + 1, c :: rest =>
    if c == '*' then .many :: nameItems fuel rest
    else if c == '?' then .any :: nameItems fuel rest
    else if c == '[' then
      match bracketed rest with
      | some (inside, rest) => bracketSet inside :: nameItems fuel rest
      | none => .char '[' :: nameItems fuel rest
    else .char c :: nameItems fuel rest

def NameItem.admits (c : Char) : NameItem → Bool
  | .char d => c == d
  | .any | .many => true
  | .oneOf negated ranges =>
    ranges.any (fun r => r.low ≤ c.toNat && c.toNat ≤ r.high) != negated

/-- Whether a name fits some items from its first character to its last. -/
def fits : List NameItem → List Char → Bool
  | [], cs => cs.isEmpty
  | .many :: items, cs =>
    let rec anySuffix : List Char → Bool
      | [] => fits items []
      | c :: rest => fits items (c :: rest) || anySuffix rest
    anySuffix cs
  | item :: items, c :: rest => item.admits c && fits items rest
  | _ :: _, [] => false

/-! ## Patterns -/

/-- One component of a pattern. -/
inductive Selector where
  /-- The entry with this name, which may also be two dots. -/
  | exact (name : String)
  | wildcard (items : List NameItem)
  /-- Any number of folders. -/
  | deep
  deriving Repr, DecidableEq

/-- A pattern: its components, and whether only folders are meant. -/
structure Pattern where
  selectors : List Selector
  foldersOnly : Bool
  deriving Repr, DecidableEq

def hasWildcard (s : String) : Bool := s.toList.any fun c => c == '*' || c == '?' || c == '['

/-- Two stars with anything beside them in one component are refused. -/
def Selector.parse (component : String) : Except Fault Selector :=
  if component == "**" then .ok .deep
  else if Text.holds "**" component then
    .error (.invalid "Invalid pattern: '**' can only be an entire path component")
  else if hasWildcard component then
    .ok (.wildcard (nameItems component.length component.toList))
  else .ok (.exact component)

/-- Reads a pattern. It has at least one component and does not start at the root; a slash at its
end means that only folders are wanted. -/
def Pattern.parse (s : String) : Except Fault Pattern := do
  if s.isEmpty then throw (.invalid ("Unacceptable pattern: " ++ Text.quoted s))
  let p := PathName.parse s
  if p.isAbsolute then throw .absolutePattern
  let foldersOnly := s.toList.getLast? == some '/'
  if p.parts.isEmpty then throw (if foldersOnly then .noSuchMember else .badPosition)
  let selectors ← p.parts.mapM Selector.parse
  return ⟨selectors, foldersOnly⟩

/-- The folders below an entry, links left aside, each with its path below the entry, which is the
first of them itself. -/
def foldersBelow : Entry → List (List String)
  | .folder entries => [] :: inner entries
  | _ => []
where
  inner : List (String × Entry) → List (List String)
    | [] => []
    | (name, entry) :: rest => (foldersBelow entry).map (name :: ·) ++ inner rest

namespace Files

/-- The entries of the folder that a path name leads to. -/
def list (files : Files) (path : PathName) : Folder :=
  match files.lookUp path with
  | .ok (.folder entries) => entries
  | _ => []

def failure (path : PathName) (e : SystemError) : Fault := .system e path.display

/-- The path names below the folder `base` that some components select. Every name but the last
must be a folder; the last one too if only folders are meant. -/
def select (files : Files) (foldersOnly : Bool) :
    List Selector → PathName → Except Fault (List PathName)
  | [], base => .ok [base]
  | selector :: rest, base =>
    let asFolder := foldersOnly || !rest.isEmpty
    let wanted (path : PathName) : Except Fault Bool :=
      (if asFolder then files.isFolder path else files.exists? path).mapError (failure path)
    match selector with
    | .exact name => do
      let path := base.child name
      if ← wanted path then files.select foldersOnly rest path else return []
    | .wildcard items => do
      let names := (files.list base).map (·.1)
      let found ← names.mapM fun name => do
        if fits items name.toList then
          let path := base.child name
          let folder ←
            if asFolder then (files.isFolder path).mapError (failure path) else pure true
          if folder then files.select foldersOnly rest path else return []
        else return []
      return found.flatten
    | .deep => do
      let below := match files.lookUp base with
        | .ok entry => foldersBelow entry
        | .error _ => []
      let found ← below.mapM fun parts =>
        files.select foldersOnly rest ⟨base.anchor, base.parts ++ parts⟩
      return found.flatten.eraseDups

/-- All path names below the folder `base` that a pattern selects. -/
def glob (files : Files) (base : PathName) (pattern : Pattern) : Except Fault (List PathName) := do
  if ← (files.isFolder base).mapError (failure base) then
    files.select pattern.foldersOnly pattern.selectors base
  else return []

end Files

end BuildBench
