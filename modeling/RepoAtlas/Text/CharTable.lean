import RepoAtlas.Text.Basic

/-!
# Tables of characters

A class of characters is given by the ranges of code points that belong to it, in rising order.
-/

namespace RepoAtlas

/-- Ranges `(first, last)` of code points, both ends included, in rising order. -/
abbrev CharTable := Array (Nat × Nat)

namespace CharTable

/-- Whether one of the ranges from number `lo` up to, but without, number `hi` holds `n`. The
middle one tells on which side to go on. Each step leaves fewer ranges, so `hi - lo` steps are
always enough. -/
def holdsBetween (table : CharTable) (n : Nat) : (steps lo hi : Nat) → Bool
  | 0, _, _ => false
  | steps + 1, lo, hi =>
    if lo < hi then
      let mid := lo + (hi - lo) / 2
      let (first, last) := table.getD mid (0, 0)
      if n < first then holdsBetween table n steps lo mid
      else if last < n then holdsBetween table n steps (mid + 1) hi
      else true
    else false

def containsCode (table : CharTable) (n : Nat) : Bool :=
  table.holdsBetween n table.size 0 table.size

def contains (table : CharTable) (c : Char) : Bool := table.containsCode c.toNat

end CharTable

end RepoAtlas
