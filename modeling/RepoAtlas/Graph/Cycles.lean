import RepoAtlas.Graph.Basic
import RepoAtlas.Graph.Component
import Std.Data.HashMap

/-!
# Cycles of imports

Files import each other in a circle when they lie in a strongly connected component with at least
two members.
-/

namespace RepoAtlas

/-- The place of each id among the nodes; of a repeated id, its last place. -/
def Node.places (nodes : List Node) : Std.HashMap Text Nat :=
  Std.HashMap.ofList (nodes.zipIdx.map fun (node, i) => (node.id, i))

/-- The ends of an edge as places of two different nodes. -/
def Edge.arc? (places : Std.HashMap Text Nat) (edge : Edge) : Option (Nat × Nat) :=
  match places[edge.source]?, places[edge.target]? with
  | some s, some t => if s = t then none else some (s, t)
  | _, _ => none

/-- The successors of each of `size` vertices, in the order of the arcs. -/
def successorTable (size : Nat) (arcs : List (Nat × Nat)) : Array (List Nat) :=
  arcs.foldr (fun (s, t) table => table.modify s (t :: ·)) (Array.replicate size [])

/-- All cycles. A cycle stands behind every other one that it reaches over imports. -/
def Cycle.find (nodes : List Node) (edges : List Edge) : List Cycle :=
  let places := Node.places nodes
  let table := successorTable nodes.length (edges.filterMap (Edge.arc? places))
  let members := nodes.toArray
  ((Component.components nodes.length fun v => table.getD v []).filter (1 < ·.length)).map
    fun component =>
      let chosen := component.filterMap fun i => members[i]?
      { ids := chosen.map (·.id), paths := chosen.map (·.path) }

end RepoAtlas
