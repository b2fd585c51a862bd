import RepoAtlas.Proofs.Analysis.Returns
import RepoAtlas.Proofs.Graph.ClosedWalk

/-!
# Cycles and risk in the graph of an analysis

`Analysis.run_risk`: a node is marked exactly if it lies on a closed walk along the edges of the
graph, and its risk is that of one scoring of its file with this mark.
-/

namespace RepoAtlas.Analysis

variable {registry : Registry} {config : Config} {order : List Nat → List Nat} {top : Entry}
  {root : Path} {scan : Scan} {g : Graph} {policy : RiskPolicy}

theorem isCyclic_iff (id : Text) :
    isCyclic registry policy scan id = true ↔ OnClosedWalk (edgesOf registry scan) id := by
  have hids : (scan.nodes.map (Stage.scored (findingsOf registry scan) policy scan)).map Node.id =
      scan.nodes.map Node.id := by
    rw [List.map_map]
    exact List.map_congr_left fun node _ => rfl
  rw [isCyclic, Stage.isCyclic, Std.HashSet.contains_ofList, List.contains_iff_mem, Stage.cycles]
  refine Cycle.mem_find_iff_onClosedWalk fun e he => ?_
  rw [hids]
  exact edgesOf_ends he

theorem run_risk (horder : ∀ places, (order places).Perm places)
    (hconfig : config.check = .ok config) (h : run registry config order top root = .ok g) :
    ∀ node ∈ g.nodes, (node.inCycle = true ↔ OnClosedWalk g.edges node.id) ∧
      ∃ metrics detail, node.metrics = some metrics ∧ node.risk = some detail ∧
        detail.Agrees ((profileOf node metrics (Cache.textOf top.readText node.id)).detail
          config.policy) ∧
        node.riskLevel = detail.level ∧
        detail.level = (config.policy.level detail.score).name := by
  intro node hnode
  rcases run_inv h with rfl | ⟨scan, hscan, hg⟩
  · cases hnode
  · obtain ⟨final, hedges, hnodes, hfinal⟩ := ofScan_inv horder hconfig hg
    rw [hnodes] at hnode
    obtain ⟨scanned, hmem, rfl⟩ := List.mem_map.mp hnode
    obtain ⟨role, hrole⟩ := hfinal scanned
    obtain ⟨detail, hrisk, hagrees, hlevel⟩ :=
      finished_agrees registry config.policy scan scanned
    obtain ⟨risk, riskLevel, hframe⟩ := finished_frame registry config.policy scan scanned
    -- From here on only the frame of the finished node matters.
    generalize finished registry config.policy scan scanned = done at hrole hrisk hagrees hlevel hframe
    have hid : done.id = scanned.id := by rw [hframe]
    have hcycle : done.inCycle = isCyclic registry config.policy scan scanned.id := by rw [hframe]
    have hmetrics : done.metrics = some (findingsOf registry scan scanned).metrics := by
      rw [hframe]
    rw [textIn_eq hscan hmem, ← hid] at hagrees
    rw [hrole]
    refine ⟨?_, _, detail, hmetrics, hrisk, hagrees, hlevel, ?_⟩
    · rw [hcycle, hedges, hid]
      exact isCyclic_iff scanned.id
    · rw [hagrees.score]
      exact hagrees.level

theorem run_risk_sample : ∃ g,
    run Scan.Sample.registry {} List.reverse Scan.Sample.top "/repo".toList = .ok g ∧
      ∃ node ∈ g.nodes, node.id = "/repo/a.js".toList ∧ node.inCycle = true ∧
        ∃ detail, node.risk = some detail ∧ RiskFactor.inCycle.text ∈ detail.factors := by
  obtain ⟨g, hg, hids, ⟨there, hthere, ha, hb⟩, back, hback, hb', ha'⟩ :=
    Sample.exists_graph List.reverse_perm
  obtain ⟨node, hnode, hid⟩ : ∃ node ∈ g.nodes, node.id = "/repo/a.js".toList := by
    have hmem : "/repo/a.js".toList ∈ g.nodes.map (·.id) := by rw [hids]; exact .head _
    simpa using hmem
  obtain ⟨hcycle, metrics, detail, -, hdetail, hagrees, -⟩ :=
    run_risk List.reverse_perm (by rfl) hg node hnode
  have hwalk : OnClosedWalk g.edges node.id := by
    refine ⟨["/repo/b.js".toList], ?_, "/repo/b.js".toList, .head _, by rw [hid]; decide⟩
    rw [hid]
    exact .cons_cons ⟨there, hthere, ha, hb⟩ (.cons_cons ⟨back, hback, hb', ha'⟩ (.singleton _))
  refine ⟨g, hg, node, hnode, hid, hcycle.mpr hwalk, detail, hdetail, ?_⟩
  refine hagrees.factors.mem_iff.mpr (List.mem_map_of_mem ?_)
  exact (RiskProfile.inCycle_mem_iff _ _).mpr (hcycle.mpr hwalk)

end RepoAtlas.Analysis
