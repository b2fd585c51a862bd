import RepoAtlas.Files.Listing

/-!
# Walking a repository

The files below a root in a fixed order: each folder's children in listing order, a folder's files
in its place. The walk keeps the entries still to be visited on a stack and stops at a limit.
-/

namespace RepoAtlas

/-- A file or folder met on a walk. `trail` ends in the folder that holds it. -/
structure WalkItem where
  name : Text
  /-- The path relative to the root. -/
  path : Path
  trail : Entry.Trail
  entry : Entry

/-- Which folders are not entered, by name. -/
abbrev FolderFilter := Text → Bool

namespace WalkItem

/-- The children of a folder on a walk, in the order of the folder. -/
def children (top : Entry) (skips : FolderFilter) (trail : Entry.Trail) (path : Path)
    (entries : List (Text × Entry)) : List WalkItem :=
  entries.filterMap fun (name, entry) =>
    let item : WalkItem := { name, path := childPath path name, trail, entry }
    match top.nature trail entry with
    | .folder => if skips name then none else some item
    | .file => some item
    | _ => none

def isFolder (item : WalkItem) : Bool :=
  match item.entry with
  | .folder _ => true
  | _ => false

def key (item : WalkItem) : ListingKey := .of item.isFolder item.name

/-- The children of a folder that survive the filter, in listing order. -/
def listing (top : Entry) (skips : FolderFilter) (trail : Entry.Trail) (path : Path)
    (entries : List (Text × Entry)) : List WalkItem :=
  sortListing key (children top skips trail path entries)

end WalkItem

/-- The files visited, and whether the limit stopped the walk. -/
structure WalkResult where
  files : List WalkItem
  truncated : Bool

namespace Walk

/-- Visits the entries on the stack; `visited` has the files so far, the last one first. -/
def run (top : Entry) (skips : FolderFilter) : (fuel limit : Nat) → (visited : List WalkItem) →
    (stack : List WalkItem) → WalkResult
  | 0, _, visited, _ => ⟨visited.reverse, false⟩
  | _, _, visited, [] => ⟨visited.reverse, false⟩
  | fuel + 1, limit, visited, item :: stack => match item.entry with
    | .folder entries =>
      let inside := WalkItem.listing top skips ((item.name, item.entry) :: item.trail) item.path entries
      run top skips fuel limit visited (inside ++ stack)
    | _ => match limit with
      | 0 => ⟨visited.reverse, true⟩
      | limit + 1 => run top skips fuel limit (item :: visited) stack

/-- The first `limit` files below a folder. -/
def files (top : Entry) (skips : FolderFilter) (limit : Nat) (trail : Entry.Trail)
    (entries : List (Text × Entry)) : WalkResult :=
  run top skips (Entry.sizeAll entries) limit [] (WalkItem.listing top skips trail [] entries)

end Walk

end RepoAtlas
