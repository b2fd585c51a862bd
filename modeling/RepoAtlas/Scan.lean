import RepoAtlas.Classification.Kind
import RepoAtlas.Files.Cache
import RepoAtlas.Files.Resolve
import RepoAtlas.Files.Walk
import RepoAtlas.Graph.Summary
import RepoAtlas.Language.Registry
import RepoAtlas.Manifest.Basic

/-!
# Scanning a repository

A scan walks a repository once. Each file counts for its extension; manifests are read for
frameworks, files with the names of entry points are noted, and source files become nodes.
-/

namespace RepoAtlas

inductive ScanError where
  /-- The root cannot be listed. -/
  | unlistable (root : Path) (e : FileError)
  | unresolved (e : ResolveError)
  /-- A manifest has a fault that is not tolerated. -/
  | manifest (e : ManifestError)
  deriving DecidableEq, Repr

/-- The explanation of a fault, where there is one beyond its kind. -/
def ScanError.message? : ScanError → Option Text
  | unlistable root e =>
    some ("Cannot list repository root ".toList ++ root ++ ": ".toList ++ e.message root)
  | unresolved _ => none
  | manifest e => e.message?

structure ScanConfig where
  maxFiles : Int := 5000
  /-- The most segments in the path of an entry point. -/
  entryPointDepth : Int := 2

structure Scan where
  nodes : List Node := []
  stats : Stats := {}
  versions : Versions := []
  /-- The texts of the manifests directly in the root, by name. -/
  rootManifests : List (Text × Text) := []
  truncated : Bool := false
  /-- All texts that were read. -/
  cache : Cache := {}

namespace Scan

/-- Folders that are not entered. -/
def skipsFolder (registry : Registry) (name : Text) : Bool :=
  registry.skippedFolders.contains name || Text.endsWith ".egg-info" name

def isManifest (registry : Registry) (name : Text) : Bool :=
  registry.manifests.any fun pattern =>
    if Manifest.hasWildcard pattern then Text.fits pattern name else pattern == name

def extensionOf (name : Text) : Text := Text.lower (Path.suffix name)

def isSource (registry : Registry) (name : Text) : Bool :=
  (registry.find? (extensionOf name)).isSome

def isEntryPoint (registry : Registry) (config : ScanConfig) (item : WalkItem) : Bool :=
  registry.entryPoints.contains item.name &&
    decide ((Path.segments item.path).length ≤ config.entryPointDepth)

/-- The path of a file from the top. -/
def idOf (root : Path) (item : WalkItem) : Text := Path.join root item.path

def node (root : Path) (content : Text) (item : WalkItem) : Node where
  id := idOf root item
  label := item.name
  kind := (Kind.classify item.name item.path content).name
  path := item.path

/-- The languages of files, by extension without its dot. -/
def languages (files : List WalkItem) : Tally :=
  Tally.ofList (files.filterMap fun item =>
    match extensionOf item.name with
    | [] => none
    | _ :: ext => some ext)

/-- The manifests among files with their texts. -/
def manifests (registry : Registry) (text : WalkItem → Text) (files : List WalkItem) :
    List (WalkItem × Text) :=
  (files.filter fun item => isManifest registry item.name).map fun item => (item, text item)

/-- Reads manifests one after the other, with one record of versions. -/
def readManifests (manifests : List (WalkItem × Text)) : Recording (List (List Text)) :=
  manifests.mapM fun (item, content) => Manifest.read item.name content

/-- The manifests directly in the root, by name. -/
def inRoot (manifests : List (WalkItem × Text)) : List (Text × Text) :=
  (manifests.filter fun (item, _) => !item.path.contains '/').map fun (item, content) =>
    (item.name, content)

/-- The scan of the files found on a walk. -/
def ofWalk (registry : Registry) (config : ScanConfig) (top : Entry) (root : Path)
    (walk : WalkResult) : Except ScanError Scan := do
  let needed := walk.files.filter fun item =>
    isManifest registry item.name || isSource registry item.name
  let cache := ({} : Cache).getAll top.readText (needed.map (idOf root))
  let text (item : WalkItem) : Text := (cache.find? (idOf root item)).getD []
  let manifests := manifests registry text walk.files
  let reading := (readManifests manifests).run.run []
  let detected ← reading.1.mapError ScanError.manifest
  let sources := walk.files.filter fun item => isSource registry item.name
  return {
    nodes := sources.map fun item => node root (text item) item
    stats :=
      { languages := languages walk.files
        frameworks := detected.flatten.eraseDups
        entryPoints := (walk.files.filter (isEntryPoint registry config)).map (·.path)
        totalFiles := walk.files.length
        truncated := walk.truncated }
    versions := reading.2
    rootManifests := inRoot manifests
    truncated := walk.truncated
    cache }

/-- Scans the repository at a root. -/
def run (registry : Registry) (config : ScanConfig) (top : Entry) (root : Path) :
    Except ScanError Scan := do
  let root ← (top.resolve root).mapError ScanError.unresolved
  let trail ← (top.locate root).mapError (ScanError.unlistable root)
  match top.reached trail with
  | .folder entries =>
    ofWalk registry config top root
      (Walk.files top (skipsFolder registry) config.maxFiles.toNat trail entries)
  | _ => .error (.unlistable root .notAFolder)

end Scan

end RepoAtlas
