import RepoAtlas.Graph.Document.Shape

/-!
# Reading graphs from documents

A document is completed first; then each field is read at its type.
-/

namespace RepoAtlas

namespace Graph

/-- A value of one type. -/
abbrev Decoder (α : Type) := Value → Option α

def asText : Decoder Text
  | .text t => some t
  | _ => none

def asInt : Decoder Int
  | .int n => some n
  | _ => none

def asBool : Decoder Bool
  | .bool b => some b
  | _ => none

def asRatio : Decoder Ratio
  | .decimal d => some (.decimal d)
  | .special x => some (.special x)
  | _ => none

def asList {α : Type} (item : Decoder α) : Decoder (List α)
  | .list vs => vs.mapM item
  | _ => none

def asMap {α : Type} (item : Decoder α) : Decoder (List (Text × α))
  | .table t => t.mapM fun (key, v) => (item v).map fun a => (key, a)
  | _ => none

/-- A field that is there. -/
def needed {α : Type} (v : Value) (key : String) (decode : Decoder α) : Option α :=
  (GraphDocument.fieldOf v key.toList).bind decode

/-- A field that may be left out. -/
def possible {α : Type} (v : Value) (key : String) (decode : Decoder α) : Option (Option α) :=
  match GraphDocument.fieldOf v key.toList with
  | none => some none
  | some x => (decode x).map some

def asMetrics : Decoder Metrics := fun v => do
  return {
    lines := ← needed v "linesOfCode" asInt
    complexity := ← needed v "cyclomaticComplexity" asInt
    commentRatio := ← needed v "commentRatio" asRatio }

def asLayer : Decoder LayerGuess := fun v => do
  return { layer := ← needed v "layer" asText, confidence := ← needed v "confidence" asRatio }

def asRisk : Decoder RiskDetail := fun v => do
  return {
    level := ← needed v "level" asText
    score := ← needed v "score" asInt
    factors := ← needed v "factors" (asList asText) }

def asNode : Decoder Node := fun v => do
  return {
    id := ← needed v "id" asText
    label := ← needed v "label" asText
    kind := ← needed v "type" asText
    path := ← needed v "path" asText
    riskLevel := ← needed v "riskLevel" asText
    fanIn := ← needed v "fanIn" asInt
    fanOut := ← needed v "fanOut" asInt
    role := ← possible v "moduleRole" asText
    inCycle := ← needed v "inCycle" asBool
    metrics := ← possible v "metrics" asMetrics
    layer := ← possible v "layerClassification" asLayer
    risk := ← possible v "riskDetail" asRisk }

def asEdge : Decoder Edge := fun v => do
  return {
    id := ← needed v "id" asText
    source := ← needed v "source" asText
    target := ← needed v "target" asText
    kind := ← needed v "type" asText
    label := ← possible v "label" asText
    names := ← needed v "imports" (asList asText) }

def asFrameworkVersion : Decoder FrameworkVersion := fun v => do
  return { name := ← needed v "name" asText, version := ← possible v "version" asText }

def asArchitecture : Decoder Architecture := fun v => do
  return {
    name := ← needed v "name" asText
    confidence := ← needed v "confidence" asText
    hint := ← possible v "hint" asText }

def asInsight : Decoder Insight := fun v => do
  return {
    kind := ← needed v "type" asText
    file := ← needed v "filePath" asText
    severity := ← needed v "severity" asText
    message := ← needed v "message" asText
    line := ← possible v "line" asInt }

def asCycle : Decoder Cycle := fun v => do
  return { ids := ← needed v "ids" (asList asText), paths := ← needed v "pathLabels" (asList asText) }

def asStats : Decoder Stats := fun v => do
  return {
    languages := ← needed v "languages" (asMap asInt)
    runtimes := (← possible v "languageVersions" (asMap asText)).getD []
    frameworks := ← needed v "frameworks" (asList asText)
    frameworkVersions := ← needed v "frameworkVersions" (asList asFrameworkVersion)
    entryPoints := ← needed v "entryPoints" (asList asText)
    totalFiles := ← needed v "totalFiles" asInt
    primaryLanguage := ← possible v "primaryLanguage" asText
    architectures := ← needed v "architecturalPatterns" (asList asArchitecture)
    truncated := ← needed v "truncated" asBool }

def asGraph : Decoder Graph := fun v => do
  return {
    nodes := ← needed v "nodes" (asList asNode)
    edges := ← needed v "edges" (asList asEdge)
    stats := ← needed v "stats" asStats
    cycles := ← needed v "circularDependencies" (asList asCycle)
    mostImported := ← needed v "highFanInIds" (asList asText)
    mostImporting := ← needed v "highFanOutIds" (asList asText)
    insights := ← needed v "securityInsights" (asList asInsight)
    layers := ← needed v "layerBreakdown" (asMap asInt)
    quality := ← needed v "codeQualityScore" asInt }

/-- The graph that a document describes. -/
def ofDocument (v : Value) : Except DocumentError Graph := do
  let t ← GraphDocument.complete v
  match asGraph (.table t) with
  | some g => .ok g
  | none => .error .wrongType

end Graph

end RepoAtlas
