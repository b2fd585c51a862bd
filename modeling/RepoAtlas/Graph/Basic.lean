import RepoAtlas.Number.Decimal
import RepoAtlas.Path

/-!
# Graphs of files

The result of an analysis: a node for each source file, an edge for each import between two of
them, and what was found out about the project as a whole. Names of kinds, levels, layers and
roles are texts here, since documents may hold names of their own.
-/

namespace RepoAtlas

structure Metrics where
  lines : Int := 0
  complexity : Int := 1
  commentRatio : Ratio := .decimal ⟨0, -1⟩
  deriving DecidableEq, Repr

/-- An architectural layer, with a confidence between zero and one. -/
structure LayerGuess where
  layer : Text
  confidence : Ratio
  deriving DecidableEq, Repr

/-- A risk score with what contributed to it, in order. -/
structure RiskDetail where
  level : Text := "low"
  score : Int := 0
  factors : List Text := []
  deriving DecidableEq, Repr

/-- A suspicious line. -/
structure Insight where
  kind : Text
  file : Path
  severity : Text
  message : Text
  line : Option Int := none
  deriving DecidableEq, Repr

structure Node where
  id : Text
  label : Text
  kind : Text
  path : Path
  riskLevel : Text := "low"
  fanIn : Int := 0
  fanOut : Int := 0
  role : Option Text := none
  inCycle : Bool := false
  metrics : Option Metrics := none
  layer : Option LayerGuess := none
  risk : Option RiskDetail := none
  deriving DecidableEq, Repr

/-- The part of a label from its last dot on, in lower case; a leading dot alone starts none. -/
def labelExtension (label : Text) : Text :=
  match Text.cutLast? '.' label with
  | none => []
  | some (stem, ext) => if stem.isEmpty then [] else Text.lower ('.' :: ext)

def Node.extension (node : Node) : Text := labelExtension node.label

/-- What one file imports from another. -/
structure Edge where
  id : Text
  source : Text
  target : Text
  kind : Text := "static"
  label : Option Text := none
  names : List Text := []
  deriving DecidableEq, Repr

/-- Adds names that are not yet there, in order. -/
def Edge.merge (edge : Edge) (names : List Text) : Edge :=
  { edge with
    names := names.foldl (fun known n => if known.contains n then known else known ++ [n])
      edge.names }

structure FrameworkVersion where
  name : Text
  version : Option Text := none
  deriving DecidableEq, Repr

/-- A guess at how the project is built. -/
structure Architecture where
  name : Text
  confidence : Text
  hint : Option Text := none
  deriving DecidableEq, Repr

structure Stats where
  /-- Files for each extension. -/
  languages : List (Text × Int) := []
  runtimes : List (Text × Text) := []
  frameworks : List Text := []
  frameworkVersions : List FrameworkVersion := []
  entryPoints : List Path := []
  totalFiles : Int := 0
  primaryLanguage : Option Text := none
  architectures : List Architecture := []
  /-- The scan stopped at the file limit. -/
  truncated : Bool := false
  deriving DecidableEq, Repr

/-- Files that import each other in a circle. -/
structure Cycle where
  ids : List Text
  paths : List Path
  deriving DecidableEq, Repr

structure Graph where
  nodes : List Node := []
  edges : List Edge := []
  stats : Stats := {}
  cycles : List Cycle := []
  mostImported : List Text := []
  mostImporting : List Text := []
  insights : List Insight := []
  layers : List (Text × Int) := []
  quality : Int := 100
  deriving DecidableEq, Repr

def Graph.node? (g : Graph) (id : Text) : Option Node := g.nodes.find? (·.id == id)

end RepoAtlas
