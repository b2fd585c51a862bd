import RepoAtlas.Files.Entry

/-!
# Listings

The children of a folder come in a fixed order: folders first, then by name in lower case, then by
name.
-/

namespace RepoAtlas

/-- What a child of a folder is when links are followed. -/
inductive Nature where
  | folder
  | file
  | linkedFolder
  | broken
  deriving DecidableEq, Repr

/-- The nature of an entry in the folder at the end of a trail. -/
def Entry.nature (top : Entry) (trail : Entry.Trail) : Entry → Nature
  | .file _ => .file
  | .folder _ => .folder
  | .link target =>
    match top.follow (Entry.maxLinks - 1) (Entry.linkStart trail target) (Path.segments target) with
    | .error _ => .broken
    | .ok found => match top.reached found with
      | .folder _ => .linkedFolder
      | .file _ => .file
      | .link _ => .broken

/-- What a name is sorted by: whether it is no folder, the name in lower case, the name. -/
structure ListingKey where
  notFolder : Bool
  lowered : Text
  name : Text
  deriving DecidableEq

namespace ListingKey

def of (isFolder : Bool) (name : Text) : ListingKey := ⟨!isFolder, Text.lower name, name⟩

def le (a b : ListingKey) : Bool :=
  if a.notFolder != b.notFolder then b.notFolder
  else if a.lowered != b.lowered then Text.le a.lowered b.lowered
  else Text.le a.name b.name

end ListingKey

/-- Sorts things that have a listing key. -/
def sortListing {α : Type} (key : α → ListingKey) (items : List α) : List α :=
  ((items.map fun a => (key a, a)).mergeSort fun a b => a.1.le b.1).map (·.2)

/-- A path below another one, which may be empty. -/
def childPath (parent : Path) (name : Text) : Path :=
  if parent.isEmpty then name else parent ++ '/' :: name

end RepoAtlas
