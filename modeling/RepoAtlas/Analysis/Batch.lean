/-!
# Work in batches

Items are worked on in batches. The items of a batch may be finished in any order; each result is
put in the place of its item.
-/

namespace RepoAtlas.Batch

/-- Consecutive places in groups of `size`, from `start` on; `fuel` bounds the number of groups. -/
def groupsFrom (size count : Nat) : (fuel start : Nat) → List (List Nat)
  | 0, _ => []
  | fuel + 1, start =>
    if start < count then
      List.range' start (min size (count - start)) :: groupsFrom size count fuel (start + size)
    else []

def groups (size count : Nat) : List (List Nat) := groupsFrom size count count 0

/-- Puts the results of a batch in their places, in the order in which they are finished. -/
def finish {β : Type} (work : Nat → β) (results : Array (Option β)) (batch : List Nat) :
    Array (Option β) :=
  batch.foldl (fun results i => results.setIfInBounds i (some (work i))) results

/-- The results for all places below `count`. The argument `order` gives the order in which the
places of a batch are finished. -/
def collect {β : Type} (order : List Nat → List Nat) (work : Nat → β) (size count : Nat) :
    List (Option β) :=
  (((groups size count).map order).foldl (finish work) (Array.replicate count none)).toList

end RepoAtlas.Batch
