import RepoAtlas.Proofs.Analysis.Returns

/-!
# The schedule of an analysis does not show

Files are worked on in batches, and the files of a batch are finished in some order. Each file gets
its own findings, and the graph is the same for all sizes of batches and all orders:
`Analysis.run_schedule`.
-/

namespace RepoAtlas

namespace Findings

variable {registry : Registry} {order : List Nat → List Nat} {nodes : List Node} {i : Nat}

/-- A file that can be read has its findings, any other one its layer alone. -/
theorem getElem?_all (horder : ∀ places, (order places).Perm places) (hsize : 0 < size)
    (content : Node → Text) (hnode : nodes[i]? = some node) :
    (all registry order size content nodes)[i]? = some
      (match ofNode registry (Analysis.indexOf registry nodes) (content node) node with
      | .ok found => found
      | .error _ => { layer := layerOf node }) := by
  rw [all_eq horder hsize, List.getElem?_map, hnode, Option.map_some, ofText, ← Analysis.indexOf]
  cases ofNode registry (Analysis.indexOf registry nodes) (content node) node <;> rfl

end Findings

namespace Analysis

variable {registry : Registry} {config : Config} {order order' : List Nat → List Nat}

theorem conclude_batchSize (size : Int) (scan : Scan) :
    conclude registry { config with batchSize := size } scan = conclude registry config scan := by
  unfold conclude Stage.conclude finishStats
  rfl

/-- Once the files have their findings, nothing depends on the size of a batch. -/
theorem ofScan_schedule (horder : ∀ places, (order places).Perm places)
    (horder' : ∀ places, (order' places).Perm places) (hsize : 1 ≤ config.batchSize)
    (hsize' : 1 ≤ size) (scan : Scan) :
    ofScan registry config order scan =
      ofScan registry { config with batchSize := size } order' scan := by
  have hpos : 0 < config.batchSize.toNat := by omega
  have hpos' : 0 < ({ config with batchSize := size } : Config).batchSize.toNat := by
    simp only
    omega
  rw [ofScan_eq horder hpos, ofScan_eq horder' hpos']
  simp only [conclude_batchSize]

/-- The batches of a list of files tile it, each file gets its own findings, and the graph is the
same for all schedules. -/
theorem run_schedule :
    (∀ registry (order : List Nat → List Nat) size content (nodes : List Node),
      (∀ places, (order places).Perm places) → 0 < size →
      (Batch.groups size nodes.length).flatten = List.range nodes.length ∧
      (∀ batch ∈ Batch.groups size nodes.length, batch.length ≤ size) ∧
      (Findings.all registry order size content nodes).length = nodes.length ∧
      ∀ (i : Nat) node, nodes[i]? = some node →
        (Findings.all registry order size content nodes)[i]? = some
          (match Findings.ofNode registry (indexOf registry nodes) (content node) node with
          | .ok found => found
          | .error _ => { layer := Findings.layerOf node })) ∧
    ∀ registry (config : Config) (order order' : List Nat → List Nat) (size : Int) top root,
      (∀ places, (order places).Perm places) → (∀ places, (order' places).Perm places) →
      1 ≤ config.batchSize → 1 ≤ size →
      run registry config order top root =
        run registry { config with batchSize := size } order' top root := by
  constructor
  · intro registry order size content nodes horder hsize
    refine ⟨Batch.flatten_groups hsize _, fun _ => Batch.length_of_mem_groupsFrom, ?_,
      fun i node => Findings.getElem?_all horder hsize content⟩
    rw [Findings.all_eq horder hsize, List.length_map]
  · intro registry config order order' size top root horder horder' hsize hsize'
    unfold run
    have hscan : ({ config with batchSize := size } : Config).scan = config.scan := rfl
    rw [hscan]
    cases Scan.run registry config.scan top root with
    | error e => cases e <;> rfl
    | ok scan => exact ofScan_schedule horder horder' hsize hsize' scan

/-- Three files in batches of two, and the graph of two files in batches of one and in one batch
that is finished from its end. -/
theorem run_schedule_sample :
    (Findings.all Scan.Sample.registry List.reverse 2 (fun _ => [])
      (List.replicate 3 (Scan.Sample.sourceNode "a.js" "b"))).length = 3 ∧
    ∃ g, run Scan.Sample.registry {} List.reverse Scan.Sample.top "/repo".toList = .ok g ∧
      run Scan.Sample.registry { batchSize := 1 } id Scan.Sample.top "/repo".toList = .ok g ∧
      g.nodes.map (·.id) = ["/repo/a.js".toList, "/repo/b.js".toList] := by
  obtain ⟨hfindings, hgraph⟩ := run_schedule
  refine ⟨(hfindings _ _ _ _ _ List.reverse_perm (by decide)).2.2.1, ?_⟩
  obtain ⟨g, hg, hids, -⟩ := Sample.exists_graph List.reverse_perm
  refine ⟨g, hg, ?_, hids⟩
  rw [← hg]
  exact (hgraph _ {} List.reverse id 1 _ _ List.reverse_perm (fun _ => .refl _) (by decide)
    (by decide)).symm

end Analysis

end RepoAtlas
