import BuildBench.Yaml.Node
import BuildBench.Yaml.Merge

/-!
# Documents

The value of a document. Scalars are read where they are met; a collection is filled when its turn
comes, after all that were met before it. So of several flaws the first one in this order counts,
and collections can hold each other.

A collection that lies inside itself is a value that is written out as far as anyone looks into it;
where it would go on for ever it bears a label.
-/

namespace BuildBench.Yaml

/-- A key, and the node that it was read from. -/
structure Key where
  value : Value
  source : Option NodeId

/-- What was made of a node. -/
inductive Made where
  | plain (key : Key)
  | list (items : List NodeId)
  | pairs (items : List (NodeId × NodeId))
  | table (entries : List (Key × NodeId))
  | set (members : List Key)

/-- The nodes of a document, what was made of them, and the collections that wait to be filled, the
last one first. -/
structure Building where
  graph : Graph
  made : Array (Option Made)
  waiting : List NodeId := []

abbrev Build := StateT Building (Except LoadError)

namespace Build

def fail {α : Type} (e : LoadError) : Build α := fun _ => .error e

def ofResult {α : Type} (result : Except LoadError α) : Build α := fun b =>
  result.map fun a => (a, b)

/-! ## Scalars -/

/-- The text of a node. A mapping stands for the text under its value key, which may be a mapping
again; one that stands for itself has no text. -/
def scalarText (g : Graph) : Nat → NodeId → Except LoadError String
  | 0, _ => .error (.fault (.tooDeep ""))
  | fuel + 1, id =>
    match g.content id with
    | .scalar text => .ok text
    | .mapping entries =>
      match entries.find? fun (key, _) => g.isA "value" key with
      | some (_, value) => scalarText g fuel value
      | none => .error .malformed
    | .sequence _ => .error .malformed

/-- The value of a node that is no collection. A moment has to be written as a scalar of its own. -/
def scalar (g : Graph) (id : NodeId) : Except LoadError Value := do
  if !scalarKinds.any (g.isA · id) then .error .malformed
  let text ← scalarText g (g.nodes.size + 1) id
  match g.isA "timestamp" id, g.content id with
  | true, .mapping _ => .error (.fault .wrongType)
  | _, _ => scalarValue (g.tag id) text

/-- The node that a key counts as read from. There is one value that is no number, unless it was
tagged as a float and is spelled in another way. -/
def sourceOf (g : Graph) (id : NodeId) : Option NodeId :=
  match scalarText g (g.nodes.size + 1) id with
  | .ok text => if isPlainNotANumber text then none else some id
  | .error _ => some id

def collectionKinds : List String := ["seq", "map", "set", "omap", "pairs"]

/-- Reads a scalar, or lets a collection wait. What was made already is not made again. -/
def make (id : NodeId) : Build Unit := do
  let b ← get
  if (b.made[id]?.getD none).isSome then return ()
  else if collectionKinds.any (b.graph.isA · id) then
    set { b with
      made := b.made.setIfInBounds id (some (.list [])), waiting := id :: b.waiting }
  else
    let v ← ofResult (scalar b.graph id)
    modify fun b =>
      { b with made := b.made.setIfInBounds id (some (.plain ⟨v, sourceOf b.graph id⟩)) }

/-- Reads a key. A collection is none. -/
def key (id : NodeId) : Build Key := do
  make id
  match (← get).made[id]?.getD none with
  | some (.plain k) => return k
  | _ => fail .malformed

/-! ## Collections -/

/-- Whether two keys are the same: by value, and the value that is no number by where it was read.
-/
def Key.same (a b : Key) : Bool :=
  a.value.sameKey b.value ||
    match a.value, b.value with
    | .float x, .float y => x.isNaN && y.isNaN && a.source == b.source
    | _, _ => false

/-- Puts an entry into a table: a key that is there stays as it is and gets the new value. -/
def insertKey (k : Key) (v : NodeId) : List (Key × NodeId) → List (Key × NodeId)
  | [] => [(k, v)]
  | (other, old) :: rest =>
    if Key.same other k then (other, v) :: rest else (other, old) :: insertKey k v rest

/-- The entries of a mapping after merging. -/
def table (id : NodeId) : Build (List (Key × NodeId)) := do
  match (← get).graph.content id with
  | .mapping _ =>
    let g ← ofResult ((← get).graph.merged id)
    modify fun b => { b with graph := g }
    (g.entries id).foldlM (fun done (k, v) => do
      let k ← key k
      make v
      return insertKey k v done) []
  | _ => fail .malformed

def items (id : NodeId) : Build (List NodeId) := do
  match (← get).graph.content id with
  | .sequence ids =>
    ids.forM make
    return ids
  | _ => fail .malformed

/-- A sequence of mappings of one entry each. -/
def pairs (id : NodeId) : Build (List (NodeId × NodeId)) := do
  match (← get).graph.content id with
  | .sequence ids =>
    ids.mapM fun item => do
      match (← get).graph.content item with
      | .mapping [(k, v)] =>
        make k
        make v
        return (k, v)
      | _ => fail .malformed
  | _ => fail .malformed

/-- Fills a collection. -/
def fill (id : NodeId) : Build Unit := do
  let g := (← get).graph
  let content ←
    if g.isA "map" id then pure (Made.table (← table id))
    else if g.isA "set" id then pure (Made.set ((← table id).map (·.1)))
    else if g.isA "seq" id then pure (Made.list (← items id))
    else pure (Made.pairs (← pairs id))
  modify fun b => { b with made := b.made.setIfInBounds id (some content) }

/-- Fills the collections that wait, in turn, and those that they let wait. Each is filled once, so
`fuel` collections are filled. -/
def fillAll : Nat → Build Unit
  | 0 => return ()
  | fuel + 1 => do
    match (← get).waiting with
    | [] => return ()
    | waiting =>
      modify fun b => { b with waiting := [] }
      waiting.reverse.forM fill
      fillAll fuel

end Build

/-! ## Values -/

/-- The nodes that a collection holds. -/
def Made.parts : Made → List NodeId
  | .plain _ | .set _ => []
  | .list items => items
  | .pairs items => items.flatMap fun (k, v) => [k, v]
  | .table entries => entries.map (·.2)

abbrev Builds := Array (Option Made)

def partsOf (made : Builds) (id : NodeId) : List NodeId :=
  ((made[id]?.getD none).map Made.parts).getD []

/-- The nodes that some nodes lead to, in at most `fuel` rounds. -/
def reached (made : Builds) : Nat → List NodeId → List NodeId → List NodeId
  | 0, done, _ => done
  | fuel + 1, done, fresh =>
    let next := (fresh.flatMap (partsOf made)).eraseDups.filter (!done.contains ·)
    if next.isEmpty then done else reached made fuel (done ++ next) next

/-- Whether a collection lies inside itself. -/
def liesInItself (made : Builds) (id : NodeId) : Bool :=
  (reached made (made.size + 1) [] [id]).contains id

/-- Someone who takes a value apart goes this deep. From there on a collection is written out only
once on the way to itself. -/
def openDepth : Nat := 4

/-- The value of a node. `above` holds the nodes on the way to it, the nearest one first. -/
def valueOf (made : Builds) (knots : List NodeId) : Nat → List NodeId → NodeId → Value
  | 0, _, _ => .null
  | fuel + 1, above, id =>
    let inner := valueOf made knots fuel (id :: above)
    let whole (_ : Unit) : Value :=
      match made[id]?.getD none with
      | none => .null
      | some (.plain k) => k.value
      | some (.list items) => .list (items.map inner)
      | some (.pairs items) => .list (items.map fun (k, v) => .pair (inner k) (inner v))
      | some (.table entries) => .map (entries.map fun (k, v) => (k.value, inner v))
      | some (.set members) => .set (members.map (·.value))
    if knots.contains id then
      if (above.take (above.length - openDepth)).contains id then .knot id (emptied made id)
      else .knot id (whole ())
    else whole ()
where
  /-- The kind of a collection without its content. -/
  emptied (made : Builds) (id : NodeId) : Value :=
    match made[id]?.getD none with
    | some (.table _) => .map []
    | _ => .list []

/-- The value of the root of a graph. -/
def Graph.value (g : Graph) (isCyclic : Bool) (root : NodeId) : Except LoadError Value := do
  let n := g.nodes.size
  let build : Build Unit := do
    Build.make root
    Build.fillAll (n + 1)
  let (_, b) ← build { graph := g, made := Array.replicate n none }
  let knots := if isCyclic then (List.range n).filter (liesInItself b.made) else []
  return valueOf b.made knots (n + openDepth + 2) [] root

/-- Characters that a document may hold. -/
def isPrintable (c : Char) : Bool :=
  let n := c.toNat
  n = 9 || n = 10 || n = 13 || (32 ≤ n && n ≤ 126) || n = 0x85 ||
    (0xA0 ≤ n && n ≤ 0xD7FF) || (0xE000 ≤ n && n ≤ 0xFFFD) || 0x10000 ≤ n

def Defect.toLoadError : Defect → LoadError
  | .malformed => .malformed
  | .noCharacter n =>
    if n < Nat.pow 2 31 then .fault (.invalid "chr() arg not in range(0x110000)")
    else .fault .tooLarge
  | .tooManyDigits count => .fault (.invalid (Decimal.tooManyDigits count))
  | .tooDeep => .fault (.tooDeep "")

/-- The value of a document. Line ends of all three conventions are the same, and an empty document
is null. -/
def load (document : String) : Except LoadError Value :=
  let text := Text.plainNewlines document.toList
  if !text.all isPrintable then .error .malformed
  else
    match readGraph text with
    | .error defect => .error defect.toLoadError
    | .ok (none, _, _) => .ok .null
    | .ok (some root, graph, isCyclic) => graph.value isCyclic root

end BuildBench.Yaml
