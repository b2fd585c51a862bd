import RepoAtlas.Language.Registry
import RepoAtlas.Path
import Std.Data.HashMap

/-!
# The files that imports can refer to

The index knows the id of each file. For languages whose targets are ends of paths it also groups
the files, in the order of their paths, by the last segments of their paths and of their folders.
-/

namespace RepoAtlas

/-- Files by language name and the last segments of a path. -/
abbrev PathGroups := Std.HashMap (Text × Path) (List Path)

structure FileIndex where
  ids : Std.HashMap Path Text
  files : PathGroups
  folders : PathGroups

namespace FileIndex

/-- The most segments that are compared. -/
def maxSegments : Nat := 4

/-- The last segments of a path: at most four of them, then fewer and fewer, at least one. -/
def endings (segments : List Text) : List Path :=
  (List.range (min maxSegments segments.length)).map fun i =>
    Path.ofSegments (segments.drop (segments.length - (min maxSegments segments.length - i)))

def addTo (language : Text) (file : Path) (groups : PathGroups) (ending : Path) : PathGroups :=
  groups.insert (language, ending) (file :: groups.getD (language, ending) [])

/-- The name of the language of a file that is found by the end of its path. -/
def groupedBy? (registry : Registry) (file : Path) : Option Text :=
  (registry.find? (Path.splitExtension file).2).bind fun language =>
    if language.strategy = .modulePath then some language.name else none

/-- The segments of a path without its extension. -/
def stemSegments (file : Path) : List Text := Path.segments (Path.splitExtension file).1

def addFile (registry : Registry) (file : Path) (groups : PathGroups) : PathGroups :=
  match groupedBy? registry file with
  | none => groups
  | some language => (endings (stemSegments file)).foldl (addTo language file) groups

def addFolder (registry : Registry) (file : Path) (groups : PathGroups) : PathGroups :=
  match groupedBy? registry file with
  | none => groups
  | some language => (endings (stemSegments file).dropLast).foldl (addTo language file) groups

/-- The index of files with their ids; the last id given for a path counts. -/
def ofList (registry : Registry) (entries : List (Path × Text)) : FileIndex :=
  let ids := Std.HashMap.ofList entries
  let sorted := ids.keys.mergeSort Text.le
  { ids
    files := sorted.foldr (addFile registry) ∅
    folders := sorted.foldr (addFolder registry) ∅ }

/-- The id of a file, if it has one that is not empty. -/
def id? (index : FileIndex) (file : Path) : Option Text :=
  match index.ids[file]? with
  | some id => if id.isEmpty then none else some id
  | none => none

end FileIndex

end RepoAtlas
