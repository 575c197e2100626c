import BuildBench.Yaml.Graph
import BuildBench.Yaml.Scalar

/-!
# Merging

A mapping takes over the entries of other mappings through merge keys. What it takes over comes
first, so that its own entries count more; of several mappings that one key names, the last one
comes first. The mapping that is merged into changes for everyone who refers to it, and so does the
tag of a value key, which is text from then on.
-/

namespace BuildBench.Yaml

open BuildBench.Yaml.Graph

/-- The first merge key of a mapping: its place, and what it names. -/
def firstMerge (g : Graph) (id : NodeId) : Option (Nat × NodeId) :=
  ((g.entries id).zipIdx.find? fun ((key, _), _) => g.isA "merge" key).map
    fun ((_, value), place) => (place, value)

/-- The value keys of a mapping become text. -/
def settleValueKeys (g : Graph) (id : NodeId) : Graph :=
  (g.entries id).foldl (fun g (key, _) =>
    if g.isA "value" key then g.setTag key (coreTag "str") else g) g

/-- Merges the mappings among some nodes, one after the other, and gives their entries. -/
def mergeAll (merge : Graph → NodeId → Except LoadError Graph) (g : Graph) :
    List NodeId → Except LoadError (Graph × List (List (NodeId × NodeId)))
  | [] => .ok (g, [])
  | id :: rest =>
    match g.content id with
    | .mapping _ => do
      let g ← merge g id
      let (after, others) ← mergeAll merge g rest
      return (after, g.entries id :: others)
    | _ => .error .malformed

/-- Merges into a mapping what its merge keys name; `taken` is what it took over already. Every
merge key is taken out before what it names is looked at, so `fuel` merge keys are followed. -/
def mergeInto (id : NodeId) :
    Nat → List (NodeId × NodeId) → Graph → Except LoadError Graph
  | 0, _, _ => .error .malformed
  | fuel + 1, taken, g =>
    match firstMerge g id with
    | none =>
      let g := settleValueKeys g id
      .ok (if taken.isEmpty then g else g.setContent id (.mapping (taken ++ g.entries id)))
    | some (place, value) => do
      let g := g.setContent id (.mapping ((g.entries id).eraseIdx place))
      let (g, lists) ← match g.content value with
        | .mapping _ => mergeAll (fun g id => mergeInto id fuel [] g) g [value]
        | .sequence items => mergeAll (fun g id => mergeInto id fuel [] g) g items
        | .scalar _ => .error .malformed
      mergeInto id fuel (taken ++ lists.reverse.flatten) g

/-- A graph in which a mapping has no merge keys. -/
def Graph.merged (g : Graph) (id : NodeId) : Except LoadError Graph :=
  mergeInto id (g.entryCount + 1) [] g

end BuildBench.Yaml
