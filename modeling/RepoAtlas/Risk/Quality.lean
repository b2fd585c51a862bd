import RepoAtlas.Graph.Basic
import RepoAtlas.Number.Binary

/-!
# Quality

The quality of a file is what its risk score leaves of a hundred. The quality of a project is the
mean over its files, a half being rounded up. Negative scores lift files above a hundred; a mean
above that is taken with binary precision.
-/

namespace RepoAtlas

def Node.quality (node : Node) : Int := max 0 (100 - (node.risk.map (·.score)).getD 0)

namespace Quality

/-- A mean, a half being rounded up. -/
def mean (total count : Nat) : Nat := (2 * total + count) / (2 * count)

/-- As `mean`, with the quotient and its sum with a half stored one after the other; `none` out of
range. -/
def storedMean? (total count : Nat) : Option Nat :=
  (Number.grains? total count).map fun grains =>
    Number.roundBits (2 * grains + Number.unit) 2 / Number.unit

/-- The mean quality, a hundred when there are no files; `none` out of range. -/
def ofNodes? (nodes : List Node) : Option Int :=
  let total := ((nodes.map Node.quality).foldr (· + ·) 0).toNat
  let count := nodes.length
  if nodes.isEmpty then some 100
  else if total ≤ 100 * count then some (mean total count)
  else (storedMean? total count).map Int.ofNat

end Quality

end RepoAtlas
