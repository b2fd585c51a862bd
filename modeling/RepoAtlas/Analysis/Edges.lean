import RepoAtlas.Analysis.Findings
import Std.Data.HashMap

/-!
# Edges

One edge for each pair of a file and a file that it imports; the names of repeated imports are
merged.
-/

namespace RepoAtlas

namespace Edge

/-- Adds an imported file to the edges of a source. -/
def addTarget (labels : Std.HashMap Text Text) (node : Node) (edges : List Edge) (t : Target) :
    List Edge :=
  match edges with
  | [] =>
    let label := node.label ++ " → ".toList ++ labels.getD t.id []
    let edge : Edge :=
      { id := node.id ++ '-' :: t.id, source := node.id, target := t.id, label := some label }
    [edge.merge t.names]
  | edge :: rest =>
    if edge.target == t.id then edge.merge t.names :: rest
    else edge :: addTarget labels node rest t

/-- The edges of all files, in the order of the files and of their imports. -/
def ofFindings (nodes : List Node) (findings : List Findings) : List Edge :=
  let labels := Std.HashMap.ofList (nodes.map fun node => (node.id, node.label))
  (nodes.zip findings).flatMap fun (node, found) => found.targets.foldl (addTarget labels node) []

end Edge

/-- How often each text occurs. -/
def countAll (ts : List Text) : Std.HashMap Text Nat :=
  ts.foldl (fun counts t => counts.insert t (counts.getD t 0 + 1)) ∅

/-- Notes how many edges start and end at each node. -/
def Node.withFans (edges : List Edge) (nodes : List Node) : List Node :=
  let sources := countAll (edges.map (·.source))
  let targets := countAll (edges.map (·.target))
  nodes.map fun node =>
    { node with fanIn := targets.getD node.id 0, fanOut := sources.getD node.id 0 }

end RepoAtlas
