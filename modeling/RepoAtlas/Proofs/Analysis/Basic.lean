import RepoAtlas.Analysis.Basic
import RepoAtlas.Proofs.Analysis.Edges
import RepoAtlas.Proofs.Analysis.Findings
import RepoAtlas.Proofs.Graph.Role
import RepoAtlas.Proofs.Import.Resolve
import RepoAtlas.Proofs.Risk.Score
import RepoAtlas.Proofs.Scan

/-!
# The stages of an analysis

Nodes are given fans, findings, risks, marks for cycles and roles, one after the other. `finished` is
what becomes of one node, all stages but the last taken together, so that a graph that is returned
has the scanned nodes under one map. Batches and the order in which they are worked off do not
matter.
-/

namespace RepoAtlas.Analysis

variable {registry : Registry} {config : Config} {order : List Nat → List Nat} {top : Entry}
  {root : Path} {scan : Scan} {g : Graph} {policy : RiskPolicy}

-- -------------------------------------
-- The stages of a node
-- -------------------------------------

/-- The index of the files of nodes. -/
def indexOf (registry : Registry) (nodes : List Node) : FileIndex :=
  FileIndex.ofList registry (nodes.map fun node => (node.path, node.id))

/-- What an inspection finds in a scanned file. -/
def foundBy (inspect : Inspection) (registry : Registry) (scan : Scan) (node : Node) : Findings :=
  Findings.orLayer node (inspect (indexOf registry scan.nodes) (textIn scan node) node)

namespace Stage

-- What becomes of the nodes of a scan depends on how their findings came about only through these.
variable (found : Node → Findings) (policy : RiskPolicy) (scan : Scan) (node : Node)

def edges : List Edge := Edge.ofFindings scan.nodes (scan.nodes.map found)

/-- A node with its fans, its findings and its risk without cycles. -/
def scored : Node :=
  withRisk policy (textIn scan node) (withFindings
    { node with
      fanIn := ((edges found scan).map (·.target)).count node.id
      fanOut := ((edges found scan).map (·.source)).count node.id }
    (found node))

def cycles : List Cycle :=
  Cycle.find (scan.nodes.map (scored found policy scan)) (edges found scan)

def isCyclic : Text → Bool :=
  (Std.HashSet.ofList ((cycles found policy scan).flatMap (·.ids))).contains

/-- A node as an analysis returns it, apart from its role. -/
def finished : Node := withCycle policy (isCyclic found policy scan) (scored found policy scan node)

/-- What is returned once the nodes are finished. -/
def conclude (registry : Registry) (config : Config) (nodes : List Node) :
    Except AnalysisError Graph :=
  match finishStats registry config scan, Quality.ofNodes? nodes with
  | .error e, _ => .error (.runtime e)
  | .ok _, none => .error .overflow
  | .ok stats, some quality => .ok
    { nodes, edges := edges found scan, stats
      cycles := cycles found config.policy scan
      mostImported := Node.top (·.fanIn) config.topCount nodes
      mostImporting := Node.top (·.fanOut) config.topCount nodes
      insights := ((scan.nodes.map found).flatMap (·.insights)).mergeSort insightLe
      layers := Node.layerCounts nodes
      quality }

end Stage

def findingsOf (registry : Registry) (scan : Scan) (node : Node) : Findings :=
  Findings.ofText registry (indexOf registry scan.nodes) (textIn scan node) node

def edgesOf (registry : Registry) (scan : Scan) : List Edge :=
  Stage.edges (findingsOf registry scan) scan

def isCyclic (registry : Registry) (policy : RiskPolicy) (scan : Scan) : Text → Bool :=
  Stage.isCyclic (findingsOf registry scan) policy scan

def finished (registry : Registry) (policy : RiskPolicy) (scan : Scan) (node : Node) : Node :=
  Stage.finished (findingsOf registry scan) policy scan node

def conclude (registry : Registry) (config : Config) (scan : Scan) (nodes : List Node) :
    Except AnalysisError Graph :=
  Stage.conclude (findingsOf registry scan) scan registry config nodes

theorem assign?_eq (h : Role.assign? nodes = some assigned) :
    ∃ role : Node → Text, assigned = nodes.map fun node => { node with role := some (role node) } :=
  ⟨fun node => (Role.among nodes node).name, (Role.assign?_eq_some_iff.mp h).2⟩

/-- Cycles change the risk of a node and nothing else. -/
theorem withCycle_frame (policy : RiskPolicy) (cyclic : Text → Bool) (node : Node) :
    ∃ risk riskLevel, withCycle policy cyclic node =
      { node with inCycle := cyclic node.id, risk, riskLevel } := by
  simp only [withCycle, Node.penalizeCycle]
  split
  · split
    · exact ⟨_, _, rfl⟩
    · exact ⟨_, _, rfl⟩
  · exact ⟨_, _, rfl⟩

theorem Stage.finished_frame (found : Node → Findings) (policy : RiskPolicy) (scan : Scan)
    (node : Node) :
    ∃ risk riskLevel, finished found policy scan node =
      { node with
        fanIn := ((edges found scan).map (·.target)).count node.id
        fanOut := ((edges found scan).map (·.source)).count node.id
        metrics := some (found node).metrics
        layer := some (found node).layer
        inCycle := isCyclic found policy scan node.id
        risk, riskLevel } := by
  obtain ⟨risk, riskLevel, hframe⟩ := withCycle_frame policy (isCyclic found policy scan)
    (scored found policy scan node)
  rw [finished, hframe]
  simp only [scored, withRisk, withFindings]
  exact ⟨risk, riskLevel, rfl⟩

theorem finished_frame (registry : Registry) (policy : RiskPolicy) (scan : Scan) (node : Node) :
    ∃ risk riskLevel, finished registry policy scan node =
      { node with
        fanIn := ((edgesOf registry scan).map (·.target)).count node.id
        fanOut := ((edgesOf registry scan).map (·.source)).count node.id
        metrics := some (findingsOf registry scan node).metrics
        layer := some (findingsOf registry scan node).layer
        inCycle := isCyclic registry policy scan node.id
        risk, riskLevel } :=
  Stage.finished_frame (findingsOf registry scan) policy scan node

/-- A node that is returned is about the file that was scanned, and has a layer. -/
theorem Stage.file_of_finished {node final : Node}
    (h : ∃ role, final = { finished found policy scan node with role }) :
    final.id = node.id ∧ final.label = node.label ∧ final.path = node.path ∧
      final.layer.isSome = true := by
  obtain ⟨role, hrole⟩ := h
  obtain ⟨risk, riskLevel, hframe⟩ := finished_frame found policy scan node
  rw [hrole, hframe]
  exact ⟨rfl, rfl, rfl, rfl⟩

theorem ofFindings_eq (registry : Registry) (config : Config) (scan : Scan)
    (found : Node → Findings) :
    ofFindings registry config scan (scan.nodes.map found) =
      match Role.assign? (scan.nodes.map (Stage.finished found config.policy scan)) with
      | none => .error .overflow
      | some nodes => Stage.conclude found scan registry config nodes := by
  unfold ofFindings
  extract_lets edges fanned findings risky cycles cyclic nodes
  have hedges : edges = Stage.edges found scan := rfl
  have hrisky : risky = scan.nodes.map (Stage.scored found config.policy scan) := by
    simp only [risky, findings, fanned]
    rw [hedges, Node.withFans_eq, List.zipWith_map, List.zipWith_self, List.map_map]
    rfl
  have hcycles : cycles = Stage.cycles found config.policy scan := by
    simp only [cycles, Stage.cycles, hrisky, hedges]
  have hnodes : nodes = scan.nodes.map (Stage.finished found config.policy scan) := by
    simp only [nodes, cyclic, hcycles, hrisky, List.map_map]
    refine List.map_congr_left fun node _ => ?_
    rw [Stage.finished, Stage.isCyclic, Function.comp_apply]
  rw [hnodes, hedges, hcycles]
  cases Role.assign? (scan.nodes.map (Stage.finished found config.policy scan)) with
  | none => rfl
  | some nodes =>
    simp only [Stage.conclude, bind, Except.bind]
    cases finishStats registry config scan with
    | error e => rfl
    | ok stats => cases Quality.ofNodes? nodes <;> rfl

theorem ofScanWith_eq (inspect : Inspection) (horder : ∀ places, (order places).Perm places)
    (hsize : 0 < config.batchSize.toNat) :
    ofScanWith inspect registry config order scan =
      ofFindings registry config scan (scan.nodes.map (foundBy inspect registry scan)) :=
  congrArg (ofFindings registry config scan)
    (Findings.allWith_eq inspect horder hsize (textIn scan) scan.nodes)

theorem ofScan_eq (horder : ∀ places, (order places).Perm places)
    (hsize : 0 < config.batchSize.toNat) :
    ofScan registry config order scan =
      match Role.assign? (scan.nodes.map (finished registry config.policy scan)) with
      | none => .error .overflow
      | some nodes => conclude registry config scan nodes := by
  have hscan : ofScan registry config order scan =
      ofFindings registry config scan (scan.nodes.map (findingsOf registry scan)) :=
    ofScanWith_eq _ horder hsize
  have hfinished : Stage.finished (findingsOf registry scan) config.policy scan =
      finished registry config.policy scan := rfl
  rw [hscan, ofFindings_eq, hfinished]
  cases Role.assign? (scan.nodes.map (finished registry config.policy scan)) <;> rfl

-- -------------------------------------
-- The edges of a scan
-- -------------------------------------

theorem importedFile?_mem {node : Node} {nodes : List Node}
    (h : node.importedFile? registry (indexOf registry nodes) i = some t) :
    t ∈ nodes.map (·.id) := by
  obtain ⟨language, -, hresolve⟩ := Option.bind_eq_some_iff.mp h
  have hmem := (FileIndex.resolve_known hresolve).mem
  rwa [List.map_map] at hmem

theorem edgesOf_ends (he : e ∈ edgesOf registry scan) : e.source ∈ scan.nodes.map (·.id) ∧
    e.target ∈ scan.nodes.map (·.id) ∧ e.source ≠ e.target := by
  obtain ⟨node, hnode, hsource, htarget, -⟩ := Edge.mem_ofFindings he
  obtain ⟨-, hself, i, -, hi⟩ := (Findings.mem_targets_iff _).mp htarget
  rw [hsource]
  exact ⟨List.mem_map_of_mem hnode, importedFile?_mem hi, hself.symm⟩

/-- The names on an edge are those of the imports that refer to its target. -/
theorem edgesOf_names (hnodup : (scan.nodes.map (·.id)).Nodup) (he : e ∈ edgesOf registry scan)
    (hnode : node ∈ scan.nodes) (hsource : node.id = e.source) :
    e.names = (((node.imports registry (textIn scan node)).filter fun i =>
      node.importedFile? registry (indexOf registry scan.nodes) i =
        some e.target).flatMap (·.names)).eraseDups := by
  obtain ⟨node', hnode', hsource', htarget, hnames⟩ := Edge.mem_ofFindings he
  cases List.inj_on_of_nodup_map hnodup hnode hnode' (hsource.trans hsource')
  obtain ⟨hne, hself, -⟩ := (Findings.mem_targets_iff _).mp htarget
  rw [hnames, Edge.namesFrom, findingsOf, Findings.names_targets _ hne hself]

theorem exists_edge_iff (hnodup : (scan.nodes.map (·.id)).Nodup) (hnode : node ∈ scan.nodes)
    (ht : t ≠ []) : (∃ e ∈ edgesOf registry scan, e.source = node.id ∧ e.target = t) ↔
      node.id ≠ t ∧ ∃ i ∈ node.imports registry (textIn scan node),
        node.importedFile? registry (indexOf registry scan.nodes) i = some t := by
  have htarget : t ∈ (findingsOf registry scan node).targets.map (·.id) ↔ _ :=
    Findings.mem_targets_iff (textIn scan node)
  constructor
  · rintro ⟨e, he, hsource, rfl⟩
    obtain ⟨node', hnode', hsource', he', -⟩ := Edge.mem_ofFindings he
    cases List.inj_on_of_nodup_map hnodup hnode hnode' (hsource.symm.trans hsource')
    obtain ⟨-, hself, himport⟩ := htarget.mp he'
    exact ⟨hself.symm, himport⟩
  · rintro ⟨hself, himport⟩
    exact Edge.exists_mem_ofFindings hnode (htarget.mpr ⟨ht, hself.symm, himport⟩)

-- -------------------------------------
-- The risk of a finished node
-- -------------------------------------

/-- What is known of a node when its risk is scored. -/
def profileOf (node : Node) (metrics : Metrics) (content : Text) : RiskProfile where
  metrics := metrics
  fanIn := node.fanIn
  fanOut := node.fanOut
  extension := node.extension
  content := content
  inCycle := node.inCycle

/-- Marking a node that was scored without cycles scores it with them. -/
theorem withCycle_agrees {node : Node} {profile : RiskProfile} (cyclic : Text → Bool)
    (hrisk : node.risk = some ({ profile with inCycle := false }.detail policy))
    (hlevel : node.riskLevel = ({ profile with inCycle := false }.detail policy).level) :
    ∃ detail, (withCycle policy cyclic node).risk = some detail ∧
      detail.Agrees ({ profile with inCycle := cyclic node.id }.detail policy) ∧
      (withCycle policy cyclic node).riskLevel = detail.level := by
  unfold withCycle
  cases hc : cyclic node.id with
  | false => exact ⟨_, hrisk, .refl _, hlevel⟩
  | true => exact Node.penalizeCycle_agrees hrisk

/-- The profile of a finished node is the one it was scored with, its mark apart. -/
theorem Stage.profileOf_finished (found : Node → Findings) (policy : RiskPolicy) (scan : Scan)
    (node : Node) (metrics : Metrics) (content : Text) :
    profileOf (finished found policy scan node) metrics content =
      { profileOf (scored found policy scan node) metrics content with
        inCycle := isCyclic found policy scan node.id } := by
  obtain ⟨risk, riskLevel, hframe⟩ := finished_frame found policy scan node
  rw [hframe]
  simp only [profileOf, scored, withRisk, withFindings, Node.extension]

theorem Stage.finished_agrees (found : Node → Findings) (policy : RiskPolicy) (scan : Scan)
    (node : Node) :
    ∃ detail, (finished found policy scan node).risk = some detail ∧
      detail.Agrees ((profileOf (finished found policy scan node) (found node).metrics
        (textIn scan node)).detail policy) ∧
      (finished found policy scan node).riskLevel = detail.level := by
  rw [profileOf_finished]
  have hrisk : (scored found policy scan node).risk =
      some ({ profileOf (scored found policy scan node) (found node).metrics
        (textIn scan node) with inCycle := false }.detail policy) := by
    simp only [profileOf, scored, withRisk, withFindings, Node.extension, Option.getD_some]
  have hlevel : (scored found policy scan node).riskLevel =
      ({ profileOf (scored found policy scan node) (found node).metrics
        (textIn scan node) with inCycle := false }.detail policy).level := by
    simp only [profileOf, scored, withRisk, withFindings, Node.extension, Option.getD_some]
  exact withCycle_agrees (isCyclic found policy scan) hrisk hlevel

theorem finished_agrees (registry : Registry) (policy : RiskPolicy) (scan : Scan) (node : Node) :
    ∃ detail, (finished registry policy scan node).risk = some detail ∧
      detail.Agrees ((profileOf (finished registry policy scan node)
        (findingsOf registry scan node).metrics (textIn scan node)).detail policy) ∧
      (finished registry policy scan node).riskLevel = detail.level :=
  Stage.finished_agrees (findingsOf registry scan) policy scan node

-- -------------------------------------
-- Whole runs
-- -------------------------------------

theorem textIn_eq (h : Scan.run registry scanConfig top root = .ok scan)
    (hnode : node ∈ scan.nodes) : textIn scan node = Cache.textOf top.readText node.id := by
  rw [textIn, Scan.run_texts h hnode, Option.getD_some]

theorem batchSize_pos (hconfig : config.check = .ok config) : 0 < config.batchSize.toNat := by
  unfold Config.check at hconfig
  split at hconfig
  · cases hconfig
  · split at hconfig
    · cases hconfig
    · omega

theorem Stage.conclude_ok (h : conclude found scan registry config nodes = .ok g) :
    g.nodes = nodes ∧ g.edges = edges found scan ∧
      g.insights = ((scan.nodes.map found).flatMap (·.insights)).mergeSort insightLe ∧
      finishStats registry config scan = .ok g.stats ∧ g.layers = Node.layerCounts nodes := by
  unfold conclude at h
  split at h
  · cases h
  · cases h
  · rename_i stats quality hstats hquality
    cases h
    exact ⟨rfl, rfl, rfl, hstats, rfl⟩

theorem ofFindings_ok (h : ofFindings registry config scan (scan.nodes.map found) = .ok g) :
    ∃ nodes, Role.assign? (scan.nodes.map (Stage.finished found config.policy scan)) = some nodes ∧
      Stage.conclude found scan registry config nodes = .ok g := by
  rw [ofFindings_eq] at h
  cases hroles : Role.assign? (scan.nodes.map (Stage.finished found config.policy scan)) with
  | none =>
    simp only [hroles] at h
    cases h
  | some nodes =>
    simp only [hroles] at h
    exact ⟨nodes, rfl, h⟩

/-- The nodes that are returned are the scanned ones, finished and with roles. -/
theorem ofFindings_inv (h : ofFindings registry config scan (scan.nodes.map found) = .ok g) :
    ∃ final : Node → Node, g.edges = Stage.edges found scan ∧ g.nodes = scan.nodes.map final ∧
      g.insights = ((scan.nodes.map found).flatMap (·.insights)).mergeSort insightLe ∧
      ∀ node, ∃ role, final node = { Stage.finished found config.policy scan node with role } := by
  obtain ⟨nodes, hroles, hconclude⟩ := ofFindings_ok h
  obtain ⟨hnodes, hedges, hinsights, -⟩ := Stage.conclude_ok hconclude
  obtain ⟨role, hassigned⟩ := assign?_eq hroles
  rw [hassigned, List.map_map] at hnodes
  exact ⟨_, hedges, hnodes, hinsights, fun node => ⟨_, rfl⟩⟩

theorem ofScan_inv (horder : ∀ places, (order places).Perm places)
    (hconfig : config.check = .ok config) (h : ofScan registry config order scan = .ok g) :
    ∃ final : Node → Node, g.edges = edgesOf registry scan ∧ g.nodes = scan.nodes.map final ∧
      ∀ node, ∃ role, final node = { finished registry config.policy scan node with role } := by
  rw [ofScan, ofScanWith_eq _ horder (batchSize_pos hconfig)] at h
  obtain ⟨final, hedges, hnodes, -, hfinal⟩ := ofFindings_inv h
  exact ⟨final, hedges, hnodes, hfinal⟩

theorem ofScan_ids (horder : ∀ places, (order places).Perm places)
    (hconfig : config.check = .ok config) (h : ofScan registry config order scan = .ok g) :
    g.edges = edgesOf registry scan ∧ g.nodes.map (·.id) = scan.nodes.map (·.id) := by
  obtain ⟨final, hedges, hnodes, hfinal⟩ := ofScan_inv horder hconfig h
  refine ⟨hedges, ?_⟩
  rw [hnodes, List.map_map]
  exact List.map_congr_left fun node _ => (Stage.file_of_finished (hfinal node)).1

theorem run_eq (hscan : Scan.run registry config.scan top root = .ok scan) :
    run registry config order top root = ofScan registry config order scan := by
  unfold run
  rw [hscan, afterScan]

/-- A graph that is returned is empty, or that of a scan. -/
theorem runWith_inv {inspect : Inspection}
    (h : runWith inspect registry config order top root = .ok g) :
    g = {} ∨ ∃ scan, Scan.run registry config.scan top root = .ok scan ∧
      ofScanWith inspect registry config order scan = .ok g := by
  unfold runWith afterScan at h
  split at h
  · cases h
    exact .inl rfl
  · cases h
  · rename_i scan hscan
    exact .inr ⟨scan, hscan, h⟩

theorem run_inv (h : run registry config order top root = .ok g) :
    g = {} ∨ ∃ scan, Scan.run registry config.scan top root = .ok scan ∧
      ofScan registry config order scan = .ok g :=
  runWith_inv h

end RepoAtlas.Analysis
