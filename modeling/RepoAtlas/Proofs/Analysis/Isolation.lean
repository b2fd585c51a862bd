import Mathlib.Data.List.Forall2
import RepoAtlas.Proofs.Analysis.Returns

/-!
# Files that cannot be inspected

The inspection of a file may fail, for whatever reason and at whatever point.
`Analysis.run_isolates` compares an analysis in which it fails for some files with the one in which
it does not: the edges from these files, their insights and their metrics are gone, and nothing
else.
-/

namespace RepoAtlas

/-- What becomes of a node when the inspection of the files at `failed` fails. -/
def Node.Isolated (failed : Text → Bool) (node node' : Node) : Prop :=
  ∃ fanIn inCycle risk riskLevel role, node' =
    { node with
      metrics := if failed node.id then some {} else node.metrics
      fanOut := if failed node.id then 0 else node.fanOut
      fanIn, inCycle, risk, riskLevel, role }

/-- A graph without what the inspection of the files at `failed` found. -/
structure Graph.Isolates (failed : Text → Bool) (full rest : Graph) : Prop where
  edges : rest.edges = full.edges.filter fun e => !failed e.source
  nodes : List.Forall₂ (Node.Isolated failed) full.nodes rest.nodes
  insights : rest.insights = full.insights.filter fun i =>
    !full.nodes.any fun node => node.path == i.file && failed node.id
  insightsOf : ∀ node ∈ full.nodes, rest.insights.filter (·.file == node.path) =
    if failed node.id then [] else full.insights.filter (·.file == node.path)

namespace Analysis

variable {registry : Registry} {config : Config} {order order' : List Nat → List Nat}
  {top : Entry} {root : Path} {scan : Scan} {found found' : Node → Findings}
  {failed : Text → Bool}

/-- An inspection that fails for some of the files, which are given by their ids. -/
def failingAt (faults : Text → Option ReadFault) (inspect : Inspection) : Inspection :=
  fun index content node =>
    match faults node.id with
    | some fault => .error fault
    | none => inspect index content node

-- -------------------------------------
-- Sorted insights
-- -------------------------------------

theorem insightLe_total (a b : Insight) : (insightLe a b || insightLe b a) = true := by
  unfold insightLe
  by_cases hfile : a.file = b.file
  · simpa [hfile] using Int.le_total _ _
  · simpa [hfile, Ne.symm hfile] using Text.le_total a.file b.file

theorem insightLe_trans (a b c : Insight) (hab : insightLe a b = true)
    (hbc : insightLe b c = true) : insightLe a c = true := by
  unfold insightLe at *
  by_cases h : a.file = b.file
  · by_cases h' : b.file = c.file
    · simp only [h, h', BEq.rfl, if_true, decide_eq_true_eq] at *
      exact Int.le_trans hab hbc
    · simpa [h, h'] using hbc
  · by_cases h' : b.file = c.file
    · simpa [← h', h] using hab
    · simp only [beq_iff_eq, h, h', if_false] at hab hbc
      have hne : a.file ≠ c.file := fun hac => h (Text.le_antisymm hab (hac ▸ hbc))
      simpa [hne] using Text.le_trans hab hbc

/-- A sorted list is cut in one place only by an item that stands behind the first part. -/
theorem append_inj_of_cut {α : Type} {le : α → α → Bool} {a : α} {l₁ l₂ m₁ m₂ : List α}
    (h : l₁ ++ l₂ = m₁ ++ m₂) (hl₁ : ∀ b ∈ l₁, (!le a b) = true) (hl₂ : ∀ b ∈ l₂, le a b = true)
    (hm₁ : ∀ b ∈ m₁, (!le a b) = true) (hm₂ : ∀ b ∈ m₂, le a b = true) : l₁ = m₁ ∧ l₂ = m₂ := by
  have hcut : ∀ {front back : List α}, (∀ b ∈ front, (!le a b) = true) →
      (∀ b ∈ back, le a b = true) → (front ++ back).takeWhile (fun b => !le a b) = front := by
    intro front back hfront hback
    rw [List.takeWhile_append_of_pos hfront]
    cases back with
    | nil => simp
    | cons b back => simp [hback b (.head _)]
  have hfront : l₁ = m₁ := by rw [← hcut hl₁ hl₂, h, hcut hm₁ hm₂]
  subst hfront
  exact ⟨rfl, List.append_cancel_left h⟩

/-- Sorting is stable, so that items can be left out before or after it. -/
theorem filter_mergeSort {α : Type} {le : α → α → Bool}
    (htrans : ∀ a b c, le a b = true → le b c = true → le a c = true)
    (htotal : ∀ a b, (le a b || le b a) = true) (p : α → Bool) (l : List α) :
    (l.mergeSort le).filter p = (l.filter p).mergeSort le := by
  have hbehind : ∀ {a : α} {l front back : List α}, (a :: l).mergeSort le = front ++ a :: back →
      ∀ b ∈ back, le a b = true := by
    intro a l front back heq b hb
    have hsorted := @List.pairwise_mergeSort _ le htrans htotal (a :: l)
    rw [heq, List.pairwise_append] at hsorted
    exact (List.pairwise_cons.mp hsorted.2.1).1 b hb
  induction l with
  | nil => simp
  | cons a l ih =>
    obtain ⟨l₁, l₂, hcons, hrest, hfront⟩ := List.mergeSort_cons htrans htotal a l
    have hsplit : l₁.filter p ++ l₂.filter p = (l.filter p).mergeSort le := by
      rw [← ih, hrest, List.filter_append]
    rw [hcons, List.filter_append]
    by_cases hp : p a = true
    · obtain ⟨m₁, m₂, hcons', hrest', hfront'⟩ :=
        List.mergeSort_cons htrans htotal a (l.filter p)
      obtain ⟨h₁, h₂⟩ := append_inj_of_cut (hsplit.trans hrest')
        (fun b hb => hfront b (List.mem_filter.mp hb).1)
        (fun b hb => hbehind hcons b (List.mem_filter.mp hb).1) hfront' (hbehind hcons')
      rw [List.filter_cons_of_pos hp, List.filter_cons_of_pos hp, hcons', h₁, h₂]
    · rw [List.filter_cons_of_neg hp, List.filter_cons_of_neg hp, hsplit]

theorem file_of_mem_scan (hi : i ∈ Insight.scan content file) : i.file = file := by
  unfold Insight.scan at hi
  obtain ⟨⟨line, number⟩, -, hi⟩ := List.mem_flatMap.mp hi
  obtain ⟨threat, -, rfl⟩ := List.mem_map.mp hi
  cases threat <;> rfl

-- -------------------------------------
-- Findings, edges and insights
-- -------------------------------------

theorem ofText_layer (registry : Registry) (index : FileIndex) (content : Text) (node : Node) :
    (Findings.ofText registry index content node).layer = Findings.layerOf node := by
  unfold Findings.ofText Findings.ofNode
  cases Findings.targetsOf registry index content node <;> rfl

theorem file_of_mem_insights (hi : i ∈ (findingsOf registry scan node).insights) :
    i.file = node.path := by
  unfold findingsOf Findings.ofText Findings.ofNode at hi
  cases htargets : Findings.targetsOf registry (indexOf registry scan.nodes) (textIn scan node)
      node with
  | error fault =>
    rw [htargets] at hi
    cases hi
  | ok targets =>
    rw [htargets] at hi
    exact file_of_mem_scan hi

/-- Findings that are left out for some files, apart from the layers. -/
def LeavesOut (failed : Text → Bool) (found found' : Node → Findings) : Prop :=
  ∀ node, found' node = if failed node.id then { layer := (found node).layer } else found node

theorem leavesOut_failingAt (registry : Registry) (scan : Scan)
    (faults : Text → Option ReadFault) :
    LeavesOut (fun id => (faults id).isSome) (findingsOf registry scan)
      (foundBy (failingAt faults (Findings.ofNode registry)) registry scan) := by
  intro node
  rw [findingsOf, ofText_layer, foundBy, failingAt]
  cases hfault : faults node.id with
  | none => simp [hfault, Findings.ofText]
  | some fault => simp [hfault, Findings.orLayer]

theorem LeavesOut.edges (h : LeavesOut failed found found') (scan : Scan) :
    Stage.edges found' scan = (Stage.edges found scan).filter fun e => !failed e.source := by
  unfold Stage.edges
  rw [Edge.ofFindings_map, Edge.ofFindings_map, List.filter_flatMap]
  refine List.flatMap_congr fun node _ => ?_
  -- All edges of a node start there, so that they are kept or left out together.
  rw [h node, List.filter_map]
  cases hfailed : failed node.id with
  | true => simp [hfailed, Edge.between, Function.comp_def]
  | false => simp [hfailed, Edge.between, Function.comp_def]

theorem LeavesOut.ends (h : LeavesOut failed (findingsOf registry scan) found') :
    ∀ e ∈ Stage.edges found' scan,
      e.source ∈ scan.nodes.map (·.id) ∧ e.target ∈ scan.nodes.map (·.id) := by
  intro e he
  rw [h.edges] at he
  obtain ⟨hsource, htarget, -⟩ := edgesOf_ends (List.mem_filter.mp he).1
  exact ⟨hsource, htarget⟩

theorem LeavesOut.count_sources (h : LeavesOut failed found found') (scan : Scan) (id : Text) :
    ((Stage.edges found' scan).map (·.source)).count id =
      if failed id then 0 else ((Stage.edges found scan).map (·.source)).count id := by
  have hsources : (Stage.edges found' scan).map (·.source) =
      ((Stage.edges found scan).map (·.source)).filter fun source => !failed source := by
    rw [h.edges, List.filter_map]
    rfl
  rw [hsources]
  split
  · rename_i hfailed
    refine List.count_eq_zero.mpr fun hmem => ?_
    simpa [hfailed] using (List.mem_filter.mp hmem).2
  · rename_i hfailed
    exact List.count_filter (by simpa using hfailed)

theorem LeavesOut.insights (h : LeavesOut failed found found') {nodes : List Node}
    (hfile : ∀ node ∈ nodes, ∀ i ∈ (found node).insights, i.file = node.path)
    (hpaths : ∀ a ∈ nodes, ∀ b ∈ nodes, a.path = b.path → a.id = b.id) :
    (nodes.map found').flatMap (·.insights) =
      ((nodes.map found).flatMap (·.insights)).filter fun i =>
        !nodes.any fun node => node.path == i.file && failed node.id := by
  rw [List.flatMap_map, List.flatMap_map, List.filter_flatMap]
  refine List.flatMap_congr fun node hnode => ?_
  rw [h node]
  cases hfailed : failed node.id with
  | true =>
    refine (List.filter_eq_nil_iff.mpr fun i hi => ?_).symm
    simp only [Bool.not_eq_true', Bool.not_eq_false, List.any_eq_true]
    exact ⟨node, hnode, by simp [hfile node hnode i hi, hfailed]⟩
  | false =>
    refine (List.filter_eq_self.mpr fun i hi => ?_).symm
    simp only [Bool.not_eq_true', List.any_eq_false, Bool.and_eq_true, beq_iff_eq, not_and]
    intro other hother hpath
    rw [hfile node hnode i hi] at hpath
    rw [hpaths other hother node hnode hpath, hfailed]
    exact Bool.false_ne_true

-- -------------------------------------
-- Graphs
-- -------------------------------------

theorem LeavesOut.finished (h : LeavesOut failed found found') (policy : RiskPolicy) (scan : Scan)
    (node : Node) (role role' : Option Text) :
    Node.Isolated failed { Stage.finished found policy scan node with role }
      { Stage.finished found' policy scan node with role := role' } := by
  obtain ⟨risk, riskLevel, hframe⟩ := Stage.finished_frame found policy scan node
  obtain ⟨risk', riskLevel', hframe'⟩ := Stage.finished_frame found' policy scan node
  refine ⟨((Stage.edges found' scan).map (·.target)).count node.id,
    Stage.isCyclic found' policy scan node.id, risk', riskLevel', role', ?_⟩
  rw [hframe, hframe', h.count_sources scan, h node]
  cases failed node.id <;> simp

/-- Where nodes with one path have one id, the insights of failed files are left out file by file. -/
theorem filter_insights_of_path {nodes : List Node} (hnode : node ∈ nodes)
    (hids : ∀ other ∈ nodes, other.path = node.path → other.id = node.id)
    (insights : List Insight) :
    (insights.filter fun i =>
      !nodes.any fun other => other.path == i.file && failed other.id).filter
        (·.file == node.path) =
      if failed node.id then [] else insights.filter (·.file == node.path) := by
  have hany : ∀ i : Insight, i.file = node.path →
      (nodes.any fun other => other.path == i.file && failed other.id) = failed node.id := by
    intro i hi
    rw [hi, Bool.eq_iff_iff, List.any_eq_true]
    constructor
    · rintro ⟨other, hother, hfailed⟩
      rw [Bool.and_eq_true, beq_iff_eq] at hfailed
      rw [← hids other hother hfailed.1]
      exact hfailed.2
    · intro hfailed
      exact ⟨node, hnode, by simp [hfailed]⟩
  rw [List.filter_filter]
  split
  · rename_i hfailed
    refine List.filter_eq_nil_iff.mpr fun i _ => ?_
    rw [Bool.and_eq_true, beq_iff_eq]
    rintro ⟨hi, hleft⟩
    simp [hany i hi, hfailed] at hleft
  · rename_i hfailed
    refine List.filter_congr fun i _ => ?_
    by_cases hi : i.file = node.path
    · simp [hany i hi, hfailed]
    · simp [hi]

theorem isolates_of_leavesOut (h : LeavesOut failed found found')
    (hfile : ∀ node ∈ scan.nodes, ∀ i ∈ (found node).insights, i.file = node.path)
    (hpaths : ∀ a ∈ scan.nodes, ∀ b ∈ scan.nodes, a.path = b.path → a.id = b.id)
    (hg : ofFindings registry config scan (scan.nodes.map found) = .ok g)
    (hg' : ofFindings registry config scan (scan.nodes.map found') = .ok g') :
    g.Isolates failed g' := by
  obtain ⟨final, hedges, hnodes, hinsights, hfinal⟩ := ofFindings_inv hg
  obtain ⟨final', hedges', hnodes', hinsights', hfinal'⟩ := ofFindings_inv hg'
  have hscanned : ∀ node, (final node).id = node.id ∧ (final node).path = node.path := by
    intro node
    obtain ⟨hid, -, hpath, -⟩ := Stage.file_of_finished (hfinal node)
    exact ⟨hid, hpath⟩
  have hkept : g'.insights = g.insights.filter fun i =>
      !g.nodes.any fun node => node.path == i.file && failed node.id := by
    rw [hinsights', hinsights, h.insights hfile hpaths, hnodes,
      filter_mergeSort insightLe_trans insightLe_total]
    simp only [List.any_map, Function.comp_def, hscanned]
  constructor
  case edges => rw [hedges', hedges, h.edges]
  case nodes =>
    rw [hnodes, hnodes', List.forall₂_map_left_iff, List.forall₂_map_right_iff, List.forall₂_same]
    intro node _
    obtain ⟨role, hrole⟩ := hfinal node
    obtain ⟨role', hrole'⟩ := hfinal' node
    rw [hrole, hrole']
    exact h.finished config.policy scan node role role'
  case insights => exact hkept
  case insightsOf =>
    intro node hnode
    rw [hkept]
    refine filter_insights_of_path hnode ?_ g.insights
    rw [hnodes] at hnode ⊢
    obtain ⟨scanned, hscan, rfl⟩ := List.mem_map.mp hnode
    refine List.forall_mem_map.mpr fun other hother => ?_
    simpa only [hscanned] using hpaths other hother scanned hscan

-- -------------------------------------
-- Whole runs
-- -------------------------------------

/-- Unless a number is out of range, it depends on the runtimes alone whether there is a graph. -/
theorem ofFindings_outcome (registry : Registry) (config : Config) (scan : Scan)
    (found : Node → Findings) :
    ofFindings registry config scan (scan.nodes.map found) = .error .overflow ∨
      ((∃ g, ofFindings registry config scan (scan.nodes.map found) = .ok g) ↔
        ∃ stats, finishStats registry config scan = .ok stats) := by
  rw [ofFindings_eq]
  cases Role.assign? (scan.nodes.map (Stage.finished found config.policy scan)) with
  | none => exact .inl rfl
  | some nodes =>
    simp only [Stage.conclude]
    cases finishStats registry config scan with
    | error e => exact .inr (by simp)
    | ok stats =>
      cases Quality.ofNodes? nodes with
      | none => exact .inl rfl
      | some quality => exact .inr (by simp)

/-- Where the inspection fails for some files, the graph is the one without their findings. Only
with negative weights, or with more files than can be counted, can a number be out of range
instead. -/
theorem run_isolates (hw : top.WellFormed) (horder : ∀ places, (order places).Perm places)
    (horder' : ∀ places, (order' places).Perm places) (hconfig : config.check = .ok config)
    (faults : Text → Option ReadFault) (h : run registry config order top root = .ok g) :
    (∃ g', runWith (failingAt faults (Findings.ofNode registry)) registry config order' top root =
        .ok g' ∧ g.Isolates (fun id => (faults id).isSome) g') ∨
      runWith (failingAt faults (Findings.ofNode registry)) registry config order' top root =
        .error .overflow ∧
      ¬((∀ f : RiskFactor, 0 ≤ f.weight config.policy) ∧ config.maxFiles < Number.exactBound) := by
  unfold run at h
  unfold runWith
  cases hscan : Scan.run registry config.scan top root with
  | error e =>
    rw [hscan] at h
    cases e with
    | unlistable path reason =>
      cases h
      exact .inl ⟨{}, rfl, rfl, .nil, rfl, fun _ hnode => nomatch hnode⟩
    | _ => cases h
  | ok scan =>
    rw [hscan] at h
    simp only [afterScan] at h ⊢
    rw [ofScan, ofScanWith_eq _ horder (batchSize_pos hconfig)] at h
    rw [ofScanWith_eq _ horder' (batchSize_pos hconfig)]
    have hleaves := leavesOut_failingAt registry scan faults
    have hisolates : ∀ g', ofFindings registry config scan (scan.nodes.map
        (foundBy (failingAt faults (Findings.ofNode registry)) registry scan)) = .ok g' →
        g.Isolates (fun id => (faults id).isSome) g' := fun g' hg' =>
      isolates_of_leavesOut hleaves (fun _ _ _ => file_of_mem_insights)
        (fun _ ha _ hb => Scan.run_id_of_path hscan ha hb) h hg'
    have hstats : ∃ stats, finishStats registry config scan = .ok stats := by
      rcases ofFindings_outcome registry config scan
        (foundBy (Findings.ofNode registry) registry scan) with hoverflow | hreturns
      · rw [hoverflow] at h
        cases h
      · exact hreturns.mp ⟨g, h⟩
    by_cases htame : (∀ f : RiskFactor, 0 ≤ f.weight config.policy) ∧
        config.maxFiles < Number.exactBound
    · obtain ⟨g', hg'⟩ := ofFindings_returns (Scan.run_ids hw hscan).1 hleaves.ends
        (scan_length_lt htame.2 hscan) htame.1 hstats
      exact .inl ⟨g', hg', hisolates g' hg'⟩
    · rcases ofFindings_outcome registry config scan
        (foundBy (failingAt faults (Findings.ofNode registry)) registry scan) with
        hoverflow | hreturns
      · exact .inr ⟨hoverflow, htame⟩
      · obtain ⟨g', hg'⟩ := hreturns.mpr hstats
        exact .inl ⟨g', hg', hisolates g' hg'⟩

/-- Of two files that import each other one cannot be inspected. -/
theorem run_isolates_sample :
    let faults : Text → Option ReadFault :=
      fun id => if id = "/repo/a.js".toList then some .unreadable else none
    ∃ g g', run Scan.Sample.registry {} List.reverse Scan.Sample.top "/repo".toList = .ok g ∧
      runWith (failingAt faults (Findings.ofNode Scan.Sample.registry)) Scan.Sample.registry {} id
        Scan.Sample.top "/repo".toList = .ok g' ∧
      (∃ e ∈ g.edges, e.source = "/repo/a.js".toList) ∧
      (∀ e ∈ g'.edges, e.source ≠ "/repo/a.js".toList) ∧
      ∃ e ∈ g'.edges, e.source = "/repo/b.js".toList ∧ e.target = "/repo/a.js".toList := by
  intro faults
  obtain ⟨g, hg, -, ⟨there, hthere, ha, -⟩, back, hback, hb, htarget⟩ :=
    Sample.exists_graph List.reverse_perm
  rcases run_isolates Scan.Sample.wellFormed List.reverse_perm (fun _ => .refl _) (by rfl) faults
    hg with ⟨g', hg', hisolates⟩ | ⟨-, hwild⟩
  · have hfailed : ∀ id, (faults id).isSome = decide (id = "/repo/a.js".toList) := by
      intro id
      simp only [faults]
      split
      · rename_i hid
        rw [decide_eq_true hid, Option.isSome_some]
      · rename_i hid
        rw [decide_eq_false hid, Option.isSome_none]
    have hmem : ∀ e, e ∈ g'.edges ↔ e ∈ g.edges ∧ e.source ≠ "/repo/a.js".toList := by
      intro e
      simp only [hisolates.edges, List.mem_filter, hfailed, Bool.not_eq_true',
        decide_eq_false_iff_not, ne_eq]
    refine ⟨g, g', hg, hg', ⟨there, hthere, ha⟩, fun e he => ((hmem e).mp he).2, back, ?_⟩
    exact ⟨(hmem back).mpr ⟨hback, by rw [hb]; decide⟩, hb, htarget⟩
  · exact absurd ⟨Sample.weight_nonneg, by decide⟩ hwild

end Analysis

end RepoAtlas
