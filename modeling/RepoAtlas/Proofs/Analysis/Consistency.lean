import RepoAtlas.Proofs.Analysis.Returns

/-!
# The graph of an analysis is consistent

`Analysis.run_consistent`: nodes have different ids, edges join different nodes and no two of them
the same ones, fans count edges, and an edge says what is imported along it, each name once and in
the order of the text.
-/

namespace RepoAtlas

/-- What the nodes and edges of a graph say about each other; `text` gives the texts of the
files. -/
structure Graph.Consistent (registry : Registry) (text : Path → Text) (g : Graph) : Prop where
  ids : (g.nodes.map (·.id)).Nodup
  ends : ∀ e ∈ g.edges, e.source ∈ g.nodes.map (·.id) ∧ e.target ∈ g.nodes.map (·.id) ∧
    e.source ≠ e.target
  pairs : (g.edges.map fun e => (e.source, e.target)).Nodup
  fans : ∀ node ∈ g.nodes, node.fanOut = g.edges.countP (·.source == node.id) ∧
    node.fanIn = g.edges.countP (·.target == node.id)
  totals : (g.nodes.map (·.fanOut)).foldr (· + ·) (0 : Int) = g.edges.length ∧
    (g.nodes.map (·.fanIn)).foldr (· + ·) (0 : Int) = g.edges.length
  names : ∀ e ∈ g.edges, ∀ node ∈ g.nodes, node.id = e.source → e.names.Nodup ∧
    e.names = (((node.imports registry (text node.id)).filter fun i =>
      node.importedFile? registry (Analysis.indexOf registry g.nodes) i =
        some e.target).flatMap (·.names)).eraseDups
  /-- There is an edge wherever a file imports another one. -/
  complete : ∀ a ∈ g.nodes, ∀ b ∈ g.nodes, (∃ e ∈ g.edges, e.source = a.id ∧ e.target = b.id) ↔
    a.id ≠ b.id ∧ ∃ i ∈ a.imports registry (text a.id),
      a.importedFile? registry (Analysis.indexOf registry g.nodes) i = some b.id

namespace Analysis

variable {registry : Registry} {config : Config} {order : List Nat → List Nat} {top : Entry}
  {root : Path} {scan : Scan} {g : Graph}

/-- A node that is returned comes from a scanned one and has the fans of its file. -/
structure Returned (edges : List Edge) (scanned node : Node) : Prop where
  id : node.id = scanned.id
  path : node.path = scanned.path
  label : node.label = scanned.label
  fanOut : node.fanOut = edges.countP (·.source == node.id)
  fanIn : node.fanIn = edges.countP (·.target == node.id)

theorem returned_finished (registry : Registry) (policy : RiskPolicy) (scan : Scan)
    (node : Node) (role : Option Text) :
    Returned (edgesOf registry scan) node { finished registry policy scan node with role } := by
  obtain ⟨risk, riskLevel, hframe⟩ := finished_frame registry policy scan node
  rw [hframe]
  refine ⟨rfl, rfl, rfl, ?_, ?_⟩
  · simp [List.count, List.countP_map, Function.comp_def]
  · simp [List.count, List.countP_map, Function.comp_def]

theorem Returned.imports (h : Returned edges scanned node) (content : Text) :
    node.imports registry content = scanned.imports registry content := by
  simp only [Node.imports, Node.extension, h.label]

theorem Returned.importedFile? (h : Returned edges scanned node) (index : FileIndex) :
    node.importedFile? registry index = scanned.importedFile? registry index := by
  funext i
  simp only [Node.importedFile?, Node.extension, h.label, h.path]

/-- A fan taken over all nodes counts every edge once. -/
theorem total_fan {nodes : List Node} {edges : List Edge} {fan : Node → Int} {endOf : Edge → Text}
    (hnodup : (nodes.map (·.id)).Nodup) (hends : ∀ e ∈ edges, endOf e ∈ nodes.map (·.id))
    (hfan : ∀ node ∈ nodes, fan node = edges.countP (endOf · == node.id)) :
    (nodes.map fan).foldr (· + ·) (0 : Int) = edges.length := by
  have hcount : nodes.map fan =
      (nodes.map (·.id)).map fun id => ((edges.map endOf).count id : Int) := by
    rw [List.map_map]
    refine List.map_congr_left fun node hnode => ?_
    simp [hfan node hnode, List.count, List.countP_map, Function.comp_def]
  have hall : ∀ t ∈ edges.map endOf, t ∈ nodes.map (·.id) := by simpa using hends
  have htotal := totalCount_eq_length hnodup hall
  rw [totalCount, List.length_map] at htotal
  rw [hcount, htotal]

theorem run_consistent (hw : top.WellFormed) (horder : ∀ places, (order places).Perm places)
    (hconfig : config.check = .ok config) (h : run registry config order top root = .ok g) :
    g.Consistent registry (Cache.textOf top.readText) := by
  rcases run_inv h with rfl | ⟨scan, hscan, hg⟩
  · constructor <;> simp
  · obtain ⟨final, hedges, hnodes, hfinal⟩ := ofScan_inv horder hconfig hg
    obtain ⟨hnodup, hnonempty⟩ := Scan.run_ids hw hscan
    have hreturned : ∀ node, Returned g.edges node (final node) := by
      intro node
      obtain ⟨role, hrole⟩ := hfinal node
      rw [hrole, hedges]
      exact returned_finished registry config.policy scan node role
    have hscanned : ∀ node ∈ g.nodes, ∃ scanned ∈ scan.nodes, Returned g.edges scanned node := by
      intro node hnode
      rw [hnodes] at hnode
      obtain ⟨scanned, hmem, rfl⟩ := List.mem_map.mp hnode
      exact ⟨scanned, hmem, hreturned scanned⟩
    have hids : g.nodes.map (·.id) = scan.nodes.map (·.id) := by
      rw [hnodes, List.map_map]
      exact List.map_congr_left fun node _ => (hreturned node).id
    have hindex : indexOf registry g.nodes = indexOf registry scan.nodes := by
      rw [indexOf, indexOf, hnodes, List.map_map]
      refine congrArg (FileIndex.ofList registry) (List.map_congr_left fun node _ => ?_)
      exact Prod.ext (hreturned node).path (hreturned node).id
    have hends : ∀ e ∈ g.edges, e.source ∈ g.nodes.map (·.id) ∧ e.target ∈ g.nodes.map (·.id) ∧
        e.source ≠ e.target := by
      intro e he
      rw [hids]
      exact edgesOf_ends (hedges ▸ he)
    have hfans : ∀ node ∈ g.nodes, node.fanOut = g.edges.countP (·.source == node.id) ∧
        node.fanIn = g.edges.countP (·.target == node.id) := by
      intro node hnode
      obtain ⟨scanned, -, hr⟩ := hscanned node hnode
      exact ⟨hr.fanOut, hr.fanIn⟩
    refine
      { ids := hids ▸ hnodup
        ends := hends
        pairs := hedges ▸ Edge.nodup_ofFindings hnodup
        fans := hfans
        totals := ⟨total_fan (hids ▸ hnodup) (fun e he => (hends e he).1)
            fun node hnode => (hfans node hnode).1,
          total_fan (hids ▸ hnodup) (fun e he => (hends e he).2.1)
            fun node hnode => (hfans node hnode).2⟩
        names := ?_
        complete := ?_ }
    · intro e he node hnode hsource
      obtain ⟨scanned, hmem, hr⟩ := hscanned node hnode
      have hnames := edgesOf_names hnodup (hedges ▸ he) hmem (hr.id.symm.trans hsource)
      rw [hindex, hr.imports, hr.importedFile?, hr.id, ← textIn_eq hscan hmem, ← hnames]
      exact ⟨hnames ▸ Grouping.nodup_eraseDups _, rfl⟩
    · intro a ha b hb
      obtain ⟨scanned, hmem, hr⟩ := hscanned a ha
      obtain ⟨scanned', hmem', hr'⟩ := hscanned b hb
      rw [hindex, hr.imports, hr.importedFile?, hr.id, hr'.id, hedges, ← textIn_eq hscan hmem]
      exact exists_edge_iff hnodup hmem (hnonempty scanned' hmem')

theorem run_consistent_sample : ∃ g,
    run Scan.Sample.registry {} List.reverse Scan.Sample.top "/repo".toList = .ok g ∧
      g.nodes.map (·.id) = ["/repo/a.js".toList, "/repo/b.js".toList] ∧
      (∃ e ∈ g.edges, e.source = "/repo/a.js".toList ∧ e.target = "/repo/b.js".toList) ∧
      g.Consistent Scan.Sample.registry (Cache.textOf Scan.Sample.top.readText) := by
  obtain ⟨g, hg, hids, hedge, -⟩ := Sample.exists_graph List.reverse_perm
  exact ⟨g, hg, hids, hedge,
    run_consistent Scan.Sample.wellFormed List.reverse_perm (by rfl) hg⟩

end Analysis

end RepoAtlas
