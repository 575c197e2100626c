import BuildBench.Yaml.Form

/-!
# Graphs of nodes

The nodes of a document are rows of a table and refer to each other by their numbers. An alias
refers to a row that is there already, perhaps to one whose own items are still being read, so that
a collection can lie inside itself.
-/

namespace BuildBench.Yaml

abbrev NodeId := Nat

inductive Content where
  | scalar (text : String)
  | sequence (items : List NodeId)
  | mapping (entries : List (NodeId × NodeId))
  deriving Inhabited

structure Node where
  tag : String
  content : Content
  deriving Inhabited

structure Graph where
  nodes : Array Node := #[]

namespace Graph

/-- The node of some number. Every number that a graph holds is that of a node. -/
def node (g : Graph) (id : NodeId) : Node := g.nodes[id]?.getD default

def tag (g : Graph) (id : NodeId) : String := (g.node id).tag

def content (g : Graph) (id : NodeId) : Content := (g.node id).content

/-- Whether a node has the tag of some kind. -/
def isA (g : Graph) (kind : String) (id : NodeId) : Bool := g.tag id == coreTag kind

/-- A graph with one more node, and that node's number. -/
def add (g : Graph) (node : Node) : NodeId × Graph := (g.nodes.size, ⟨g.nodes.push node⟩)

def setContent (g : Graph) (id : NodeId) (content : Content) : Graph :=
  ⟨g.nodes.modify id ({ · with content := content })⟩

def setTag (g : Graph) (id : NodeId) (tag : String) : Graph :=
  ⟨g.nodes.modify id ({ · with tag := tag })⟩

/-- The entries of a mapping; other nodes have none. -/
def entries (g : Graph) (id : NodeId) : List (NodeId × NodeId) :=
  match g.content id with
  | .mapping entries => entries
  | _ => []

/-- How many entries all mappings have together. -/
def entryCount (g : Graph) : Nat :=
  g.nodes.foldl (fun n node =>
    match node.content with
    | .mapping entries => n + entries.length
    | _ => n) 0

end Graph

end BuildBench.Yaml
