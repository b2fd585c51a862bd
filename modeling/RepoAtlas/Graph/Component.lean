/-!
# Strongly connected components

A depth-first search that keeps the path to the place being visited as a list of segments. Each
segment is a set of vertices known to reach one another, together with the successors of these
vertices that are still to be looked at. A successor inside an outer segment closes a circle, and
all segments in between become one. A segment with nothing left to look at is a component.
-/

namespace RepoAtlas.Component

/-- What is known about a vertex; an active one carries its number in order of discovery. -/
inductive Mark where
  | unseen
  | active (number : Nat)
  | done
  deriving DecidableEq, Repr, Inhabited

/-- Vertices that reach one another, the latest first, and the successors still to be looked at.
`number` is that of the vertex discovered first. -/
structure Segment where
  number : Nat
  members : List Nat
  pending : List Nat

structure Search where
  /-- Vertices from which the search is still to be started. -/
  roots : List Nat
  /-- The segments of the current path, the innermost first. -/
  path : List Segment := []
  marks : Array Mark
  /-- The number of vertices discovered so far. -/
  count : Nat := 0
  /-- The components found, the latest first. -/
  found : List (List Nat) := []

namespace Search

def mark (s : Search) (v : Nat) : Mark := s.marks.getD v .done

/-- Discovers a vertex. -/
def visit (successors : Nat → List Nat) (v : Nat) : Search → Search
  | ⟨roots, path, marks, count, found⟩ =>
    ⟨roots, ⟨count, [v], successors v⟩ :: path, marks.setIfInBounds v (.active count), count + 1,
      found⟩

/-- Makes one segment of those inside the one that holds a vertex of the given number, and of
that one. -/
def collapse (number : Nat) (path : List Segment) : List Segment :=
  let inner := path.takeWhile fun seg => number < seg.number
  match path.dropWhile fun seg => number < seg.number with
  | [] => path
  | seg :: outer =>
    ⟨seg.number, (inner.map (·.members)).flatten ++ seg.members,
      (inner.map (·.pending)).flatten ++ seg.pending⟩ :: outer

/-- The innermost segment becomes a component. -/
def close (seg : Segment) (outer : List Segment) : Search → Search
  | ⟨roots, _, marks, count, found⟩ =>
    ⟨roots, outer, seg.members.foldl (fun marks v => marks.setIfInBounds v .done) marks, count,
      seg.members :: found⟩

/-- One step; a search with neither a path nor a root left stays as it is. -/
def step (successors : Nat → List Nat) (s : Search) : Search :=
  match s.path with
  | [] => match s.roots with
    | [] => s
    | r :: roots =>
      let s := { s with roots }
      if s.mark r = .unseen then s.visit successors r else s
  | seg :: outer => match seg.pending with
    | [] => s.close seg outer
    | w :: pending =>
      let s := { s with path := { seg with pending } :: outer }
      match s.mark w with
      | .unseen => s.visit successors w
      | .active number => { s with path := collapse number s.path }
      | .done => s

def run (successors : Nat → List Nat) : (steps : Nat) → Search → Search
  | 0, s => s
  | steps + 1, s => run successors steps (s.step successors)

end Search

/-- A bound on the steps of a search over `size` vertices: each vertex is tried as a root, and
closes at most one segment; each successor is looked at once. -/
def limit (size : Nat) (successors : Nat → List Nat) : Nat :=
  2 * size + ((List.range size).map fun v => (successors v).length).foldr (· + ·) 0

/-- The components of the graph on the vertices below `size`, in the order in which they are
closed; the members of each from the latest discovered to the first. -/
def components (size : Nat) (successors : Nat → List Nat) : List (List Nat) :=
  let start : Search := { roots := List.range size, marks := Array.replicate size .unseen }
  (start.run successors (limit size successors)).found.reverse

end RepoAtlas.Component
