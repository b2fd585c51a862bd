import RepoAtlas.Graph.Basic
import RepoAtlas.Number.Binary

/-!
# Rankings and roles

Nodes ranked by how many others they import or are imported by, and the role that follows from
these counts. Half of the largest count is taken with binary precision.
-/

namespace RepoAtlas

/-- The first `n` items, or all but the last `-n`. -/
def takeSlice {α : Type} (n : Int) (items : List α) : List α :=
  if 0 ≤ n then items.take n.toNat else items.take (items.length - n.natAbs)

/-- The ids of the `n` nodes with the largest positive counts; nodes of equal count keep their
order. -/
def Node.top (count : Node → Int) (n : Int) (nodes : List Node) : List Text :=
  let ranked := nodes.mergeSort fun a b => decide (count b ≤ count a)
  ((takeSlice n ranked).filter fun node => decide (0 < count node)).map (·.id)

inductive Role where
  | core | peripheral | connector
  deriving DecidableEq, Repr

namespace Role

def name : Role → Text
  | core => "core"
  | peripheral => "peripheral"
  | connector => "connector"

/-- The largest count, at least one. -/
def peak (count : Node → Int) (nodes : List Node) : Int :=
  nodes.foldl (fun m node => max m (count node)) 1

/-- The largest count as it is stored; `none` out of range. -/
def storedPeak? (count : Node → Int) (nodes : List Node) : Option Int :=
  (Number.whole? (peak count nodes).toNat).map Int.ofNat

/-- Whether a count is at least two and at least half of the largest. -/
def isLarge (count peak : Int) : Bool := decide (max 4 peak ≤ 2 * count)

def of (peakIn peakOut fanIn fanOut : Int) : Role :=
  if isLarge fanIn peakIn && decide (fanOut ≤ 3) then core
  else if isLarge fanOut peakOut && decide (fanIn ≤ 3) then connector
  else if fanIn ≤ 1 ∧ fanOut ≤ 1 then peripheral
  else connector

/-- Gives every node its role; `none` when a count is out of range. -/
def assign? (nodes : List Node) : Option (List Node) := do
  let peakIn ← storedPeak? (·.fanIn) nodes
  let peakOut ← storedPeak? (·.fanOut) nodes
  return nodes.map fun node =>
    { node with role := some (of peakIn peakOut node.fanIn node.fanOut).name }

end Role

end RepoAtlas
