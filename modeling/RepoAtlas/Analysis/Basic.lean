import RepoAtlas.Analysis.Config
import RepoAtlas.Analysis.Edges
import RepoAtlas.Graph.Architecture
import RepoAtlas.Graph.Cycles
import RepoAtlas.Graph.Ranking
import RepoAtlas.Manifest.Runtime
import RepoAtlas.Risk.Quality
import RepoAtlas.Risk.Score
import Std.Data.HashSet

/-!
# Analysis of a repository

An analysis scans a repository, finds out what each file imports and holds, scores the risk of
each file, looks for cycles, and sums up.
-/

namespace RepoAtlas

inductive AnalysisError where
  | scan (e : ScanError)
  /-- A manifest of the root cannot be read for the version of a runtime. -/
  | runtime (e : ManifestError)
  /-- A number is out of range. -/
  | overflow
  deriving DecidableEq, Repr

namespace Analysis

/-- The risk of a node before cycles are known. -/
def withRisk (policy : RiskPolicy) (content : Text) (node : Node) : Node :=
  let profile : RiskProfile :=
    { metrics := node.metrics.getD {}, fanIn := node.fanIn, fanOut := node.fanOut
      extension := node.extension, content }
  let detail := profile.detail policy
  { node with risk := some detail, riskLevel := detail.level }

/-- Marks a node that lies on a cycle, and adds the factor for it. -/
def withCycle (policy : RiskPolicy) (cyclic : Text → Bool) (node : Node) : Node :=
  let inCycle := cyclic node.id
  let node := { node with inCycle }
  if inCycle then node.penalizeCycle policy else node

def withFindings (node : Node) (found : Findings) : Node :=
  { node with metrics := some found.metrics, layer := some found.layer }

/-- The frameworks with their versions; an empty version counts as none. -/
def frameworkVersions (frameworks : List Text) (versions : Versions) : List FrameworkVersion :=
  frameworks.map fun name =>
    { name, version := (versions.get? name).filter (!·.isEmpty) }

/-- Notes the version of a runtime unless it is empty or there is one already. -/
def noteRuntime (known : List (Text × Text)) (demand : Option Runtime.Demand) :
    List (Text × Text) :=
  match demand with
  | some d =>
    if d.version.isEmpty || (known.lookup d.runtime).isSome then known
    else known ++ [(d.runtime, d.version)]
  | none => known

/-- The versions of runtimes that the manifests in the root ask for, in the order of their
names. -/
def runtimes (manifests : List (Text × Text)) : Except ManifestError (List (Text × Text)) := do
  let sorted := manifests.mergeSort fun a b => Text.le a.1 b.1
  let demands ← sorted.mapM fun (name, content) => Runtime.detect name content
  return demands.foldl noteRuntime []

/-- The extensions of source files, without leading dots. -/
def sourceExtensions (registry : Registry) : List Text :=
  registry.extensions.map fun ext => ext.dropWhile (· == '.')

def finishStats (registry : Registry) (config : Config) (scan : Scan) :
    Except ManifestError Stats := do
  let stats := scan.stats
  let facts : ProjectFacts :=
    { hasLanguages := !stats.languages.isEmpty, frameworks := stats.frameworks
      entryPoints := stats.entryPoints, manyEntryPoints := config.manyEntryPoints }
  return { stats with
    frameworkVersions := frameworkVersions stats.frameworks scan.versions
    runtimes := ← runtimes scan.rootManifests
    primaryLanguage := primaryLanguage stats.languages (some (sourceExtensions registry))
    architectures := Architecture.detect ArchitectureRule.stock facts }

/-- Insights are ordered by file and line. -/
def insightLe (a b : Insight) : Bool :=
  if a.file == b.file then decide (a.line.getD 0 ≤ b.line.getD 0) else Text.le a.file b.file

/-- The text of a scanned file. -/
def textIn (scan : Scan) (node : Node) : Text := (scan.cache.find? node.id).getD []

/-- The graph of a scanned repository, given the findings of its files. -/
def ofFindings (registry : Registry) (config : Config) (scan : Scan) (findings : List Findings) :
    Except AnalysisError Graph := do
  let edges := Edge.ofFindings scan.nodes findings
  let nodes := Node.withFans edges scan.nodes
  let nodes := nodes.zipWith withFindings findings
  let nodes := nodes.map fun node => withRisk config.policy (textIn scan node) node
  let cycles := Cycle.find nodes edges
  let cyclic := Std.HashSet.ofList (cycles.flatMap (·.ids))
  let nodes := nodes.map (withCycle config.policy cyclic.contains)
  let some nodes := Role.assign? nodes | throw .overflow
  let stats ← (finishStats registry config scan).mapError AnalysisError.runtime
  let some quality := Quality.ofNodes? nodes | throw .overflow
  return {
    nodes
    edges
    stats
    cycles
    mostImported := Node.top (·.fanIn) config.topCount nodes
    mostImporting := Node.top (·.fanOut) config.topCount nodes
    insights := (findings.flatMap (·.insights)).mergeSort insightLe
    layers := Node.layerCounts nodes
    quality }

/-- The graph of a scanned repository whose files are inspected in batches. -/
def ofScanWith (inspect : Inspection) (registry : Registry) (config : Config)
    (order : List Nat → List Nat) (scan : Scan) : Except AnalysisError Graph :=
  ofFindings registry config scan
    (Findings.allWith inspect registry order config.batchSize.toNat (textIn scan) scan.nodes)

/-- The graph of a scanned repository. -/
def ofScan (registry : Registry) (config : Config) (order : List Nat → List Nat) (scan : Scan) :
    Except AnalysisError Graph :=
  ofScanWith (Findings.ofNode registry) registry config order scan

/-- Goes on from a scan. A root that cannot be listed gives the empty graph. -/
abbrev afterScan (graph : Scan → Except AnalysisError Graph) :
    Except ScanError Scan → Except AnalysisError Graph
  | .error (.unlistable _ _) => .ok {}
  | .error e => .error (.scan e)
  | .ok scan => graph scan

/-- Analyzes the repository at a root, with its files inspected in a given way. -/
def runWith (inspect : Inspection) (registry : Registry) (config : Config)
    (order : List Nat → List Nat) (top : Entry) (root : Path) : Except AnalysisError Graph :=
  afterScan (ofScanWith inspect registry config order) (Scan.run registry config.scan top root)

/-- Analyzes the repository at a root. The argument `order` gives the order in which the files of a
batch are finished. -/
def run (registry : Registry) (config : Config) (order : List Nat → List Nat) (top : Entry)
    (root : Path) : Except AnalysisError Graph :=
  afterScan (ofScan registry config order) (Scan.run registry config.scan top root)

end Analysis

end RepoAtlas
