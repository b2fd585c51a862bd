import RepoAtlas.Files.Entry

/-!
# Changes

Making and removing files, folders and links. Each single change happens as a whole or not at all;
`Change.put` first makes the folders above a path, and those stay when it fails later.
-/

namespace RepoAtlas

namespace Entry

def setChild (name : Text) (e : Entry) : List (Text × Entry) → List (Text × Entry)
  | [] => [(name, e)]
  | (n, old) :: rest => if n == name then (n, e) :: rest else (n, old) :: setChild name e rest

/-- The top with another entry at the end of a trail. -/
def replace (top : Entry) : Trail → Entry → Entry
  | [], e => e
  | (name, _) :: outer, e => match reached top outer with
    | folder children => replace top outer (folder (setChild name e children))
    | _ => top

/-- The folder that holds the last segment of a path, links being followed on the way to it. -/
def above (top : Entry) (p : Path) : Except FileError (Trail × List (Text × Entry)) := do
  if isLongPath p then throw .nameTooLong
  let trail ← top.locate (Path.parent p)
  match top.reached trail with
  | folder children =>
    if isLongName (Path.name p) then throw .nameTooLong
    return (trail, children)
  | _ => throw .notAFolder

/-- Whether a last segment names a folder in any case. -/
def isDots (name : Text) : Bool := name.isEmpty || name == ['.'] || name == ['.', '.']

/-- Adds an entry under a name that its folder does not have yet. -/
def addNew (e : Entry) (p : Path) (top : Entry) : Except FileError Entry := do
  let (trail, children) ← top.above p
  let name := Path.name p
  if isDots name || (children.lookup name).isSome then throw .exists_
  return top.replace trail (folder (setChild name e children))

def makeFolder (p : Path) (top : Entry) : Except FileError Entry := addNew (folder []) p top

def makeLink (target : Path) (p : Path) (top : Entry) : Except FileError Entry :=
  if target.isEmpty then .error .notFound
  else if isLongPath target then .error .nameTooLong
  else addNew (link target) p top

/-- Writes a file; links are followed, also to a file that does not exist yet. -/
def writeFile (bytes : Encoding.Bytes) (p : Path) (top : Entry) : Except FileError Entry := do
  if isLongPath p then throw .nameTooLong
  match ← top.seek maxLinks [] (Path.segments p) with
  | .free trail name => match top.reached trail with
    | folder children => return top.replace trail (folder (setChild name (file bytes) children))
    | _ => throw .notAFolder
  | .taken trail => match top.reached trail with
    | folder _ => throw .isAFolder
    | _ => return top.replace trail (file bytes)

/-- Removes a file, or a link itself. -/
def removeFile (p : Path) (top : Entry) : Except FileError Entry := do
  let (trail, children) ← top.above p
  let name := Path.name p
  if isDots name then throw .isAFolder
  match children.lookup name with
  | none => throw .notFound
  | some (folder _) => throw .isAFolder
  | some _ => return top.replace trail (folder (children.filter fun (n, _) => n != name))

end Entry

/-- Why a change fails. -/
inductive ChangeError where
  | file (e : FileError) (p : Path)
  /-- A link to a target cannot be made. -/
  | link (e : FileError) (target p : Path)
  /-- More folders have to be made than is possible at once. -/
  | tooDeep
  deriving DecidableEq, Repr

def ChangeError.message? : ChangeError → Option Text
  | file e p => some (e.message p)
  | link e target p => some (e.message target ++ " -> ".toList ++ Text.quoted p)
  | tooDeep => none

/-- A change of the file system; what was done before a failure stays. -/
abbrev Change := ExceptT ChangeError (StateM Entry)

namespace Change

/-- A change that happens as a whole or not at all. -/
def atomic (fault : FileError → ChangeError) (f : Entry → Except FileError Entry) :
    Change Unit := do
  match f (← get) with
  | .ok top => set top
  | .error e => throw (fault e)

/-- Passes over a failure to make a folder that is there already. -/
def orExists (p : Path) (e : FileError) : Change Unit := do
  if (← get).isFolder p then return
  throw (.file e p)

/-- Makes a folder and the folders above it, as far as they are missing. -/
def makeFolders : (depth : Nat) → Path → Change Unit
  | 0, _ => throw .tooDeep
  | depth + 1, p => do
    match (← get).makeFolder p with
    | .ok top => set top
    | .error .notFound =>
      makeFolders depth (Path.parent p)
      match (← get).makeFolder p with
      | .ok top => set top
      | .error e => orExists p e
    | .error e => orExists p e

/-- The most folders that are made at once. -/
def maxDepth : Nat := 975

/-- Puts a file, a link or a folder at a path. -/
def put (e : Entry) (p : Path) : Change Unit := do
  match e with
  | .folder _ => makeFolders maxDepth p
  | .file bytes =>
    makeFolders maxDepth (Path.parent p)
    atomic (.file · p) (Entry.writeFile bytes p)
  | .link target =>
    makeFolders maxDepth (Path.parent p)
    atomic (.link · target p) (Entry.makeLink target p)

/-- Removes a file, or a link itself. -/
def remove (p : Path) : Change Unit := atomic (.file · p) (Entry.removeFile p)

end Change

end RepoAtlas
