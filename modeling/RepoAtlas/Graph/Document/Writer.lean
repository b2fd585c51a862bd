import RepoAtlas.Document.Value
import RepoAtlas.Graph.Basic

/-!
# Writing graphs as documents

Optional parts of a graph that are not there are left out.
-/

namespace RepoAtlas

namespace Graph

/-- A table of fields, of which those without a value are left out. -/
def fields (entries : List (String × Option Value)) : Value :=
  .table (entries.filterMap fun (key, v) => v.map fun v => (key.toList, v))

def texts (ts : List Text) : Value := .list (ts.map .text)

def counts (entries : List (Text × Int)) : Value :=
  .table (entries.map fun (key, n) => (key, .int n))

def ofMetrics (m : Metrics) : Value := fields [
  ("linesOfCode", some (.int m.lines)), ("cyclomaticComplexity", some (.int m.complexity)),
  ("commentRatio", some (.ofRatio m.commentRatio))]

def ofLayer (l : LayerGuess) : Value := fields [
  ("layer", some (.text l.layer)), ("confidence", some (.ofRatio l.confidence))]

def ofRisk (r : RiskDetail) : Value := fields [
  ("level", some (.text r.level)), ("score", some (.int r.score)),
  ("factors", some (texts r.factors))]

def ofNode (n : Node) : Value := fields [
  ("id", some (.text n.id)), ("label", some (.text n.label)), ("type", some (.text n.kind)),
  ("path", some (.text n.path)), ("riskLevel", some (.text n.riskLevel)),
  ("fanIn", some (.int n.fanIn)), ("fanOut", some (.int n.fanOut)),
  ("moduleRole", n.role.map .text), ("inCycle", some (.bool n.inCycle)),
  ("metrics", n.metrics.map ofMetrics), ("layerClassification", n.layer.map ofLayer),
  ("riskDetail", n.risk.map ofRisk)]

def ofEdge (e : Edge) : Value := fields [
  ("id", some (.text e.id)), ("source", some (.text e.source)), ("target", some (.text e.target)),
  ("type", some (.text e.kind)), ("label", e.label.map .text), ("imports", some (texts e.names))]

def ofFrameworkVersion (f : FrameworkVersion) : Value := fields [
  ("name", some (.text f.name)), ("version", f.version.map .text)]

def ofArchitecture (a : Architecture) : Value := fields [
  ("name", some (.text a.name)), ("confidence", some (.text a.confidence)),
  ("hint", a.hint.map .text)]

def ofInsight (i : Insight) : Value := fields [
  ("type", some (.text i.kind)), ("filePath", some (.text i.file)), ("line", i.line.map .int),
  ("severity", some (.text i.severity)), ("message", some (.text i.message))]

def ofCycle (c : Cycle) : Value := fields [
  ("ids", some (texts c.ids)), ("pathLabels", some (texts c.paths))]

/-- Versions of runtimes; none at all are left out. -/
def ofRuntimes (runtimes : List (Text × Text)) : Option Value :=
  if runtimes.isEmpty then none
  else some (.table (runtimes.map fun (runtime, version) => (runtime, .text version)))

def ofStats (s : Stats) : Value := fields [
  ("languages", some (counts s.languages)), ("languageVersions", ofRuntimes s.runtimes),
  ("frameworks", some (texts s.frameworks)),
  ("frameworkVersions", some (.list (s.frameworkVersions.map ofFrameworkVersion))),
  ("entryPoints", some (texts s.entryPoints)), ("totalFiles", some (.int s.totalFiles)),
  ("primaryLanguage", s.primaryLanguage.map .text),
  ("architecturalPatterns", some (.list (s.architectures.map ofArchitecture))),
  ("truncated", some (.bool s.truncated))]

def toDocument (g : Graph) : Value := fields [
  ("nodes", some (.list (g.nodes.map ofNode))), ("edges", some (.list (g.edges.map ofEdge))),
  ("stats", some (ofStats g.stats)),
  ("circularDependencies", some (.list (g.cycles.map ofCycle))),
  ("highFanInIds", some (texts g.mostImported)), ("highFanOutIds", some (texts g.mostImporting)),
  ("securityInsights", some (.list (g.insights.map ofInsight))),
  ("layerBreakdown", some (counts g.layers)), ("codeQualityScore", some (.int g.quality))]

end Graph

end RepoAtlas
