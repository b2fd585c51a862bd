import RepoAtlas.Document.Value
import RepoAtlas.Files.Tree

/-!
# Documents of folder trees

The shape in which folder trees are handed to other programs: a table for each file and folder.
-/

namespace RepoAtlas.FileTree

/-- The depth of the deepest tree that is written. -/
def maxDepth : Nat := 495

def fields (id name : Text) (kind : String) (path : Path) : Table :=
  [("id".toList, .text id), ("name".toList, .text name), ("type".toList, .text kind.toList),
   ("path".toList, .text path)]

mutual

/-- The document of a tree that is at most so deep. -/
def documentWithin? : (depth : Nat) → FileTree → Option Value
  | 0, _ => none
  | _ + 1, file id name path => some (.table (fields id name "file" path))
  | depth + 1, folder id name path children => do
    let inside ← documentsWithin? depth children
    return .table (fields id name "folder" path ++ [("children".toList, .list inside)])

def documentsWithin? : (depth : Nat) → List FileTree → Option (List Value)
  | _, [] => some []
  | depth, t :: ts => do
    let v ← documentWithin? depth t
    let vs ← documentsWithin? depth ts
    return v :: vs

end

/-- The document of a tree; `none` when it is too deep. -/
def document? (t : FileTree) : Option Value := documentWithin? maxDepth t

end RepoAtlas.FileTree
