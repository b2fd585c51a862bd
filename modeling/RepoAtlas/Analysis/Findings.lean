import RepoAtlas.Analysis.Batch
import RepoAtlas.Classification.Layer
import RepoAtlas.Import.Resolve
import RepoAtlas.Security

/-!
# What is found in a file

The findings of one file depend on its text and on the index of all files. A file whose import
statements cannot be read keeps its layer and nothing else.
-/

namespace RepoAtlas

/-- An imported file and the names imported from it. -/
structure Target where
  id : Text
  names : List Text
  deriving DecidableEq, Repr

structure Findings where
  targets : List Target := []
  metrics : Metrics := {}
  layer : LayerGuess
  insights : List Insight := []

/-- Finds out about one file, given the index of all files and the text of the file. -/
abbrev Inspection := FileIndex → Text → Node → Except ReadFault Findings

namespace Findings

def layerOf (node : Node) : LayerGuess := Layer.classify (Kind.ofName? node.kind) node.path

/-- The files that a text imports, its own left out. -/
def targetsOf (registry : Registry) (index : FileIndex) (content : Text) (node : Node) :
    Except ReadFault (List Target) := do
  let some language := registry.find? node.extension | return []
  let imports ← Import.extract language content
  return imports.filterMap fun i =>
    (index.resolve language node.path i.path).bind fun id =>
      if id.isEmpty || id == node.id then none else some ⟨id, i.names⟩

/-- The findings of a file. -/
def ofNode (registry : Registry) (index : FileIndex) (content : Text) (node : Node) :
    Except ReadFault Findings := do
  return {
    targets := ← targetsOf registry index content node
    metrics := Metrics.ofText content
    layer := layerOf node
    insights := Insight.scan content node.path }

/-- The findings of a file, or its layer alone. -/
def orLayer (node : Node) : Except ReadFault Findings → Findings
  | .ok found => found
  | .error _ => { layer := layerOf node }

/-- The findings of all files, worked on in batches. A file that cannot be inspected does not keep
the others from theirs. -/
def allWith (inspect : Inspection) (registry : Registry) (order : List Nat → List Nat)
    (batchSize : Nat) (content : Node → Text) (nodes : List Node) : List Findings :=
  let index := FileIndex.ofList registry (nodes.map fun node => (node.path, node.id))
  let items := nodes.toArray
  let work (i : Nat) : Option Findings := items[i]?.map fun node =>
    orLayer node (inspect index (content node) node)
  (Batch.collect order work batchSize nodes.length).filterMap Option.join

/-- What is found by reading each file. -/
def all (registry : Registry) (order : List Nat → List Nat) (batchSize : Nat)
    (content : Node → Text) (nodes : List Node) : List Findings :=
  allWith (ofNode registry) registry order batchSize content nodes

end Findings

end RepoAtlas
