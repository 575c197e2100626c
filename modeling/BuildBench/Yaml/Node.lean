import BuildBench.Yaml.Token
import BuildBench.Yaml.Graph

/-!
# Nodes from tokens

A document is read token by token. No token is asked for before it is needed, and a node is there as
soon as it begins, so that of several defects the first one that a reader meets counts.
-/

namespace BuildBench.Yaml

/-- The tokens that are left, the handles of tags, the nodes read so far, and those that anchors
name. -/
structure Reading where
  scanner : Scanner
  /-- No document has more tokens than this. -/
  most : Nat
  handles : List (String × String) := []
  graph : Graph := {}
  anchors : List (String × NodeId) := []
  /-- The collections whose ends have not been read yet. -/
  unfinished : List NodeId := []
  /-- Whether some collection lies inside itself. -/
  isCyclic : Bool := false

abbrev Read := StateT Reading (Except Defect)

namespace Read

def fail {α : Type} : Read α := fun _ => malformed

/-- The next token, or nothing at the end. -/
def peek : Read (Option Token) := fun r => do
  let scanner ← r.scanner.prepare r.most
  return (scanner.pending.head?, { r with scanner := scanner })

/-- Takes the next token off. It has been looked at before. -/
def skip : Read Unit := modify fun r => { r with scanner := r.scanner.take }

/-- Whether the next token is one of these. -/
def sees (tokens : List Token) : Read Bool := do
  return (← peek).any tokens.contains

/-- Takes the next token off if it is this one. -/
def accept (token : Token) : Read Bool := do
  if ← sees [token] then
    skip
    return true
  else return false

/-- Adds a node. -/
def add (tag : String) (content : Content) : Read NodeId := fun r =>
  let (id, graph) := r.graph.add ⟨tag, content⟩
  .ok (id, { r with graph := graph })

/-- A scalar that is not there. -/
def nothing : Read NodeId := add (coreTag "null") (.scalar "")

/-- The directives in front of a document: a version is given at most once, and so is a handle. -/
def directives : Nat → Bool → List (String × String) → Read (List (String × String))
  | 0, _, _ => fail
  | fuel + 1, versioned, handles => do
    match ← peek with
    | some (.version major) =>
      if versioned || major != 1 then fail
      else
        skip
        directives fuel true handles
    | some (.tagHandle handle start) =>
      if handles.any (·.1 == handle) then fail
      else
        skip
        directives fuel versioned ((handle, start) :: handles)
    | some .otherDirective =>
      skip
      directives fuel versioned handles
    | _ => return handles

/-- The handles that need no directive. -/
def standardHandles : List (String × String) := [("!", "!"), ("!!", coreTag "")]

/-- Anchor and tag in front of a node, in either order. -/
def properties : Read (Option String × Option (Option String × String)) := do
  match ← peek with
  | some (.anchor name) =>
    skip
    match ← peek with
    | some (.tag handle suffix) =>
      skip
      return (some name, some (handle, suffix))
    | _ => return (some name, none)
  | some (.tag handle suffix) =>
    skip
    match ← peek with
    | some (.anchor name) =>
      skip
      return (some name, some (handle, suffix))
    | _ => return (none, some (handle, suffix))
  | _ => return (none, none)

/-- The whole tag that a handle and a suffix write. -/
def wholeTag : Option (Option String × String) → Read (Option String)
  | none => return none
  | some (none, suffix) => return some suffix
  | some (some handle, suffix) => do
    match (← get).handles.find? (·.1 == handle) with
    | some (_, start) => return some (start ++ suffix)
    | none => fail

/-- Makes sure that an anchor is new. Each anchor names one node. -/
def requireNew : Option String → Read Unit
  | none => return ()
  | some name => do
    if (← get).anchors.any (·.1 == name) then fail

/-- Gives an anchor its node. -/
def settle (anchor : Option String) (id : NodeId) : Read Unit := do
  if let some name := anchor then
    modify fun r => { r with anchors := (name, id) :: r.anchors }

/-- The node that an anchor named before. -/
def aliased (name : String) : Read NodeId := do
  match (← get).anchors.find? (·.1 == name) with
  | some (_, id) =>
    modify fun r => { r with isCyclic := r.isCyclic || r.unfinished.contains id }
    return id
  | none => fail

/-- The tag of a collection: the one given, unless that leaves the choice open. -/
def collectionTag (tag : Option String) (kind : String) : String :=
  match tag with
  | some t => if t == "!" then coreTag kind else t
  | none => coreTag kind

/-- A scalar with its anchor. -/
def scalarNode (anchor : Option String) (tag text : String) : Read NodeId := do
  requireNew anchor
  let id ← add tag (.scalar text)
  settle anchor id
  return id

/-- Collections may nest this deep. -/
def mostNested : Nat := 490

/-- A collection with its anchor. It is there before its content is read. -/
def collection (anchor : Option String) (tag : String) (read : Read Content) : Read NodeId := do
  requireNew anchor
  let id ← add tag (.sequence [])
  settle anchor id
  modify fun r => { r with unfinished := id :: r.unfinished }
  if mostNested < (← get).unfinished.length then throw .tooDeep
  let content ← read
  modify fun r =>
    { r with graph := r.graph.setContent id content, unfinished := r.unfinished.erase id }
  return id

def sequenceNode (anchor tag : Option String) (items : Read (List NodeId)) : Read NodeId :=
  collection anchor (collectionTag tag "seq") (do return .sequence (← items))

def mappingNode (anchor tag : Option String) (entries : Read (List (NodeId × NodeId))) :
    Read NodeId :=
  collection anchor (collectionTag tag "map") (do return .mapping (← entries))

def scalarTag (tag : Option String) (text : String) (plain : Bool) : String :=
  match tag with
  | some t => if t == "!" then impliedTag text else t
  | none => if plain then impliedTag text else coreTag "str"

/-- The comma between two items in brackets. -/
def separator : Read Unit := do
  unless ← accept .flowEntry do fail

mutual

/-- One node. `block` allows block collections, `indentless` a sequence that is not indented. -/
def node (block indentless : Bool) : Nat → Read NodeId
  | 0 => fail
  | fuel + 1 => do
    if let some (.alias name) ← peek then
      skip
      return ← aliased name
    let (anchor, written) ← properties
    let tag ← wholeTag written
    match ← peek with
    | some (.scalar text plain) =>
      skip
      scalarNode anchor (scalarTag tag text plain) text
    | some .flowSequence => sequenceNode anchor tag (do skip; flowItems true fuel)
    | some .flowMapping => mappingNode anchor tag (do skip; flowEntries true fuel)
    | next =>
      if indentless && next == some .blockEntry then
        sequenceNode anchor tag (indentlessItems fuel)
      else if block && next == some .blockSequence then
        sequenceNode anchor tag (do skip; blockItems fuel)
      else if block && next == some .blockMapping then
        mappingNode anchor tag (do skip; blockEntries fuel)
      else if anchor.isSome || tag.isSome then
        scalarNode anchor (scalarTag tag "" true) ""
      else fail

/-- A node, or nothing in front of a token that ends it. -/
def nodeBefore (ends : List Token) (block indentless : Bool) : Nat → Read NodeId
  | 0 => fail
  | fuel + 1 => do
    if ← sees ends then nothing else node block indentless fuel

def blockItems : Nat → Read (List NodeId)
  | 0 => fail
  | fuel + 1 => do
    if ← accept .blockEntry then
      let item ← nodeBefore [.blockEntry, .blockEnd] true false fuel
      return item :: (← blockItems fuel)
    else if ← accept .blockEnd then return []
    else fail

def indentlessItems : Nat → Read (List NodeId)
  | 0 => fail
  | fuel + 1 => do
    if ← accept .blockEntry then
      let item ← nodeBefore [.blockEntry, .key, .value, .blockEnd] true false fuel
      return item :: (← indentlessItems fuel)
    else return []

def blockEntries : Nat → Read (List (NodeId × NodeId))
  | 0 => fail
  | fuel + 1 => do
    if ← accept .key then
      let key ← nodeBefore [.key, .value, .blockEnd] true true fuel
      let value ←
        if ← accept .value then nodeBefore [.key, .value, .blockEnd] true true fuel
        else nothing
      return (key, value) :: (← blockEntries fuel)
    else if ← accept .blockEnd then return []
    else fail

/-- The items of a bracketed sequence. A key makes an item a mapping of one entry. -/
def flowItems (first : Bool) : Nat → Read (List NodeId)
  | 0 => fail
  | fuel + 1 => do
    if ← accept .flowSequenceEnd then return []
    else
      unless first do separator
      if ← accept .key then
        let item ← mappingNode none none do
          let key ← nodeBefore [.value, .flowEntry, .flowSequenceEnd] false false fuel
          let value ←
            if ← accept .value then nodeBefore [.flowEntry, .flowSequenceEnd] false false fuel
            else nothing
          return [(key, value)]
        return item :: (← flowItems false fuel)
      else if ← accept .flowSequenceEnd then return []
      else
        let item ← node false false fuel
        return item :: (← flowItems false fuel)

def flowEntries (first : Bool) : Nat → Read (List (NodeId × NodeId))
  | 0 => fail
  | fuel + 1 => do
    if ← accept .flowMappingEnd then return []
    else
      unless first do separator
      if ← accept .key then
        let key ← nodeBefore [.value, .flowEntry, .flowMappingEnd] false false fuel
        let value ←
          if ← accept .value then nodeBefore [.flowEntry, .flowMappingEnd] false false fuel
          else nothing
        return (key, value) :: (← flowEntries false fuel)
      else if ← accept .flowMappingEnd then return []
      else
        let key ← node false false fuel
        let value ← nothing
        return (key, value) :: (← flowEntries false fuel)

end

def isDirective : Token → Bool
  | .version _ | .tagHandle _ _ | .otherDirective => true
  | _ => false

def skipDocumentEnds : Nat → Read Unit
  | 0 => return ()
  | fuel + 1 => do
    if ← accept .documentEnd then skipDocumentEnds fuel

/-- The one document, if there is one. -/
def document (fuel : Nat) : Read (Option NodeId) := do
  match ← peek with
  | none => return none
  | some first =>
    let root ←
      if isDirective first || first == .documentStart then do
        let handles ← directives fuel false []
        unless ← accept .documentStart do fail
        modify fun r => { r with handles := handles ++ standardHandles }
        match ← peek with
        | none => nothing
        | some next =>
          if isDirective next || next == .documentStart || next == .documentEnd then nothing
          else node true false fuel
      else do
        modify fun r => { r with handles := standardHandles }
        node true false fuel
    skipDocumentEnds fuel
    match ← peek with
    | none => return some root
    | some _ => do
      -- The directives of a second document are read before it is refused.
      let _ ← directives fuel false []
      let _ ← peek
      fail

end Read

/-- The nodes of a document: the root, if there is one, all nodes, and whether a collection lies
inside itself. A character makes at most three tokens, and the end of a document at most one for
each of them; a node needs at most a handful of calls for each of its tokens. -/
def readGraph (text : List Char) : Except Defect (Option NodeId × Graph × Bool) := do
  let most := 4 * text.length + 4
  let (root, r) ← Read.document (8 * most + 16) { scanner := .start text, most := most }
  return (root, r.graph, r.isCyclic)

end BuildBench.Yaml
