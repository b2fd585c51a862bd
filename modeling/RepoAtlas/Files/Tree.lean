import RepoAtlas.Files.Listing
import RepoAtlas.Files.Resolve

/-!
# Folder trees

All files and folders below a root for browsing, without version control and common build output.
Linked folders are left out; any other link is shown as a file.

A tree grows from its root. A folder is first put in its place without children, and gets these
when its turn comes; the folders still to be listed are kept on a stack.
-/

namespace RepoAtlas

inductive FileTree where
  | file (id name : Text) (path : Path)
  | folder (id name : Text) (path : Path) (children : List FileTree)

namespace FileTree

def skips (name : Text) : Bool :=
  ["node_modules".toList, ".next".toList, "dist".toList, "build".toList].contains name ||
    Text.startsWith ".git" name

def name : FileTree → Text
  | file _ name _ => name
  | folder _ name _ _ => name

def key : FileTree → ListingKey
  | file _ name _ => .of false name
  | folder _ name _ _ => .of true name

/-- A path below a folder, which may be the top. -/
def idBelow (id name : Text) : Text := Path.join id name

/-- Gives the folder at a place its children. A place is given by the names on the way down. -/
def graft (children : List FileTree) : (place : List Text) → FileTree → FileTree
  | _, file id name path => file id name path
  | [], folder id name path _ => folder id name path children
  | next :: place, folder id name path old =>
    folder id name path (old.map fun t => if t.name == next then graft children place t else t)

/-- A folder whose children are still to be listed. -/
structure Task where
  place : List Text
  id : Text
  path : Path
  trail : Entry.Trail
  entries : List (Text × Entry)

namespace Task

/-- A child as it is first listed; a folder has no children yet. -/
def listed? (top : Entry) (task : Task) : Text × Entry → Option FileTree
  | (name, e) =>
    let id := idBelow task.id name
    let path := childPath task.path name
    if skips name then none
    else match top.nature task.trail e with
      | .folder => some (folder id name path [])
      | .linkedFolder => none
      | _ => some (file id name path)

/-- The children of the folder, in listing order. -/
def listing (top : Entry) (task : Task) : List FileTree :=
  sortListing key (task.entries.filterMap (task.listed? top))

/-- The task for a folder among the children. -/
def inner (task : Task) (child : Text × List (Text × Entry)) : Task where
  place := task.place ++ [child.1]
  id := idBelow task.id child.1
  path := childPath task.path child.1
  trail := (child.1, .folder child.2) :: task.trail
  entries := child.2

end Task

end FileTree

/-- Why a root cannot be looked at. -/
inductive TreeError where
  | unresolved (e : ResolveError)
  | unreachable (root : Path) (e : FileError)
  deriving DecidableEq, Repr

namespace FileTree

/-- The tree of the folder at a root; `none` when there is no such folder. -/
def atRoot (top : Entry) (root : Path) (tree : Task → FileTree) :
    Except TreeError (Option FileTree) := do
  let root ← (top.resolve root).mapError TreeError.unresolved
  match top.locate root with
  | .error .nameTooLong => throw (.unreachable root .nameTooLong)
  | .error _ => return none
  | .ok trail => match top.reached trail with
    | .folder entries => return some (tree { place := [], id := root, path := [], trail, entries })
    | _ => return none

/-- The tree of a folder without children. -/
def bare (task : Task) : FileTree := folder task.id (Path.name task.id) task.path []

end FileTree

end RepoAtlas
