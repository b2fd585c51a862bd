import Mathlib.Data.List.Perm.Subperm
import RepoAtlas.Proofs.Analysis.Basic
import RepoAtlas.Proofs.Risk.Quality

/-!
# An analysis returns a graph

Only a manifest of the root that cannot be read, or a number out of range, keeps the analysis of a
scan from returning. No fan is larger than the number of files, and no file has a quality above a
hundred unless some weight is negative, so that numbers stay in range.
-/

namespace RepoAtlas

-- -------------------------------------
-- Numbers in range
-- -------------------------------------

/-- Where every pair of ends is joined once, no more edges end at a place than there are places. -/
theorem Edge.count_le_length {edges : List Edge} {endOf other : Edge → Text} {ids : List Text}
    (hpairs : edges.Pairwise fun a b => endOf a = endOf b → other a ≠ other b)
    (hids : ∀ e ∈ edges, other e ∈ ids) (id : Text) :
    (edges.map endOf).count id ≤ ids.length := by
  have hothers : ((edges.filter (endOf · == id)).map other).Nodup := by
    rw [List.Nodup, List.pairwise_map]
    refine (hpairs.sublist List.filter_sublist).imp_of_mem fun {a b} ha hb hab => hab ?_
    have hend : ∀ e ∈ edges.filter (endOf · == id), endOf e = id := by simp
    rw [hend a ha, hend b hb]
  have hsub : (edges.filter (endOf · == id)).map other ⊆ ids := by
    intro t ht
    obtain ⟨e, he, rfl⟩ := List.mem_map.mp ht
    exact hids e (List.mem_filter.mp he).1
  calc (edges.map endOf).count id = ((edges.filter (endOf · == id)).map other).length := by
        rw [List.count, List.countP_map, List.length_map, ← List.countP_eq_length_filter]
        rfl
    _ ≤ ids.length := (hothers.subperm hsub).length_le

theorem RiskProfile.score_nonneg {policy : RiskPolicy} (h : ∀ f : RiskFactor, 0 ≤ f.weight policy)
    (profile : RiskProfile) : 0 ≤ profile.score policy := by
  unfold score
  induction profile.factors policy with
  | nil => exact Int.le_refl 0
  | cons f factors ih => exact Int.add_nonneg (h f) ih

theorem Quality.ofNodes?_returns (h : ∀ node ∈ nodes, node.quality ≤ 100) :
    ∃ quality, ofNodes? nodes = some quality := by
  by_cases hne : nodes = []
  · exact ⟨100, by rw [hne]; rfl⟩
  · exact ⟨_, ofNodes?_eq_mean hne h⟩

namespace Analysis

section
variable {registry : Registry} {config : Config} {order : List Nat → List Nat} {top : Entry}
  {root : Path} {scan : Scan} {policy : RiskPolicy}

theorem Stage.finished_fans {found : Node → Findings} (policy : RiskPolicy)
    (hids : (scan.nodes.map (·.id)).Nodup)
    (hends : ∀ e ∈ edges found scan,
      e.source ∈ scan.nodes.map (·.id) ∧ e.target ∈ scan.nodes.map (·.id)) (node : Node) :
    (finished found policy scan node).fanIn ≤ scan.nodes.length ∧
      (finished found policy scan node).fanOut ≤ scan.nodes.length := by
  have hpairs : ((edges found scan).map fun e => (e.source, e.target)).Nodup :=
    Edge.nodup_ofFindings hids
  rw [List.Nodup, List.pairwise_map] at hpairs
  obtain ⟨risk, riskLevel, hframe⟩ := finished_frame found policy scan node
  rw [hframe, ← List.length_map (·.id)]
  constructor
  · refine Int.ofNat_le.mpr (Edge.count_le_length ?_ (fun e he => (hends e he).1) node.id)
    exact hpairs.imp fun hab htarget hsource => hab (Prod.ext hsource htarget)
  · refine Int.ofNat_le.mpr (Edge.count_le_length ?_ (fun e he => (hends e he).2) node.id)
    exact hpairs.imp fun hab hsource htarget => hab (Prod.ext hsource htarget)

/-- Fans stay in range, so that every file is given a role. -/
theorem Stage.finished_assigned {found : Node → Findings} (policy : RiskPolicy)
    (hids : (scan.nodes.map (·.id)).Nodup)
    (hends : ∀ e ∈ edges found scan,
      e.source ∈ scan.nodes.map (·.id) ∧ e.target ∈ scan.nodes.map (·.id))
    (hsize : scan.nodes.length < Number.exactBound) :
    ∃ assigned, Role.assign? (scan.nodes.map (finished found policy scan)) = some assigned := by
  refine Role.assign?_returns fun node hnode => ?_
  obtain ⟨scanned, -, rfl⟩ := List.mem_map.mp hnode
  obtain ⟨hin, hout⟩ := finished_fans policy hids hends scanned
  have hrange : Number.exactBound ≤ Number.rangeEnd := by decide +kernel
  have hlength : (scan.nodes.length : Int) < Number.rangeEnd := by omega
  exact ⟨Int.lt_of_le_of_lt hin hlength, Int.lt_of_le_of_lt hout hlength⟩

theorem finished_assigned (registry : Registry) (policy : RiskPolicy)
    (hids : (scan.nodes.map (·.id)).Nodup) (hsize : scan.nodes.length < Number.exactBound) :
    ∃ assigned, Role.assign? (scan.nodes.map (finished registry policy scan)) = some assigned :=
  Stage.finished_assigned policy hids
    (fun _ he => ⟨(edgesOf_ends he).1, (edgesOf_ends he).2.1⟩) hsize

theorem Stage.finished_quality (found : Node → Findings)
    (hweights : ∀ f : RiskFactor, 0 ≤ f.weight policy) (node : Node) :
    (finished found policy scan node).quality ≤ 100 := by
  obtain ⟨detail, hrisk, hagrees, -⟩ := finished_agrees found policy scan node
  have hscore : 0 ≤ detail.score := hagrees.score ▸ RiskProfile.score_nonneg hweights _
  rw [Node.quality, hrisk, Option.map_some, Option.getD_some]
  omega

theorem mapM_ok {α β ε : Type} {f : α → Except ε β} {l : List α}
    (h : ∀ a ∈ l, ∃ b, f a = .ok b) : ∃ bs, l.mapM f = .ok bs := by
  induction l with
  | nil => exact ⟨[], rfl⟩
  | cons a l ih =>
    obtain ⟨⟨b, hb⟩, hl⟩ := List.forall_mem_cons.mp h
    obtain ⟨bs, hbs⟩ := ih hl
    refine ⟨b :: bs, ?_⟩
    rw [List.mapM_cons, hb, hbs]
    rfl

theorem bind_ok {α β ε : Type} {x : Except ε α} {next : α → Except ε β} (hx : ∃ a, x = .ok a)
    (hnext : ∀ a, ∃ b, next a = .ok b) : ∃ b, (x >>= next) = .ok b := by
  obtain ⟨a, rfl⟩ := hx
  exact hnext a

theorem runtimes_returns {manifests : List (Text × Text)}
    (h : ∀ m ∈ manifests, ∃ demand, Runtime.detect m.1 m.2 = .ok demand) :
    ∃ found, runtimes manifests = .ok found := by
  unfold runtimes
  refine bind_ok (mapM_ok fun m hm => ?_) fun demands => ⟨_, rfl⟩
  exact h m (List.mem_mergeSort.mp hm)

theorem finishStats_returns (registry : Registry) (config : Config)
    (h : ∀ m ∈ scan.rootManifests, ∃ demand, Runtime.detect m.1 m.2 = .ok demand) :
    ∃ stats, finishStats registry config scan = .ok stats := by
  unfold finishStats
  exact bind_ok (runtimes_returns h) fun found => ⟨_, rfl⟩

theorem ofFindings_returns {found : Node → Findings} (hids : (scan.nodes.map (·.id)).Nodup)
    (hends : ∀ e ∈ Stage.edges found scan,
      e.source ∈ scan.nodes.map (·.id) ∧ e.target ∈ scan.nodes.map (·.id))
    (hsize : scan.nodes.length < Number.exactBound)
    (hweights : ∀ f : RiskFactor, 0 ≤ f.weight config.policy)
    (hstats : ∃ stats, finishStats registry config scan = .ok stats) :
    ∃ g, ofFindings registry config scan (scan.nodes.map found) = .ok g := by
  rw [ofFindings_eq]
  obtain ⟨assigned, hassigned⟩ := Stage.finished_assigned config.policy hids hends hsize
  obtain ⟨stats, hstats⟩ := hstats
  obtain ⟨quality, hquality⟩ : ∃ quality, Quality.ofNodes? assigned = some quality := by
    have hbound : ∀ done ∈ scan.nodes.map (Stage.finished found config.policy scan),
        done.quality ≤ 100 :=
      List.forall_mem_map.mpr fun scanned _ => Stage.finished_quality found hweights scanned
    obtain ⟨role, rfl⟩ := assign?_eq hassigned
    refine Quality.ofNodes?_returns fun node hnode => ?_
    obtain ⟨done, hdone, rfl⟩ := List.mem_map.mp hnode
    exact hbound done hdone
  simp only [hassigned, Stage.conclude, hstats, hquality]
  exact ⟨_, rfl⟩

theorem ofScan_returns (registry : Registry) (horder : ∀ places, (order places).Perm places)
    (hconfig : config.check = .ok config) (hids : (scan.nodes.map (·.id)).Nodup)
    (hsize : scan.nodes.length < Number.exactBound)
    (hweights : ∀ f : RiskFactor, 0 ≤ f.weight config.policy)
    (hmanifests : ∀ m ∈ scan.rootManifests, ∃ demand, Runtime.detect m.1 m.2 = .ok demand) :
    ∃ g, ofScan registry config order scan = .ok g := by
  rw [ofScan, ofScanWith_eq _ horder (batchSize_pos hconfig)]
  exact ofFindings_returns hids (fun _ he => ⟨(edgesOf_ends he).1, (edgesOf_ends he).2.1⟩) hsize
    hweights (finishStats_returns registry config hmanifests)

theorem scan_length_lt (hsize : config.maxFiles < Number.exactBound)
    (hscan : Scan.run registry config.scan top root = .ok scan) :
    scan.nodes.length < Number.exactBound := by
  have hlength := Scan.run_length hscan
  have hpos : 0 < Number.exactBound := by decide
  simp only [Config.scan] at hlength
  omega

/-- An analysis returns a graph where its scan returns, the runtimes can be read off the manifests
and no weight is negative. -/
theorem run_returns (hw : top.WellFormed) (horder : ∀ places, (order places).Perm places)
    (hconfig : config.check = .ok config) (hsize : config.maxFiles < Number.exactBound)
    (hweights : ∀ f : RiskFactor, 0 ≤ f.weight config.policy)
    (hmanifests : ∀ name content, Scan.isManifest registry name = true →
      ∃ demand, Runtime.detect name content = .ok demand)
    (hscan : Scan.run registry config.scan top root = .ok scan) :
    ∃ g, run registry config order top root = .ok g := by
  obtain ⟨g, hg⟩ := ofScan_returns registry horder hconfig (Scan.run_ids hw hscan).1
    (scan_length_lt hsize hscan) hweights fun m hm =>
      hmanifests m.1 m.2 (Scan.run_rootManifests hscan hm)
  exact ⟨g, (run_eq hscan).trans hg⟩

end

-- -------------------------------------
-- The graph of two files that import each other
-- -------------------------------------

namespace Sample

open Scan.Sample

def language : Language := { Language.javaScript with manifests := [] }

theorem exists_edges (hscan : Scan.run registry {} top "/repo".toList = .ok scan) :
    (∃ e ∈ edgesOf registry scan, e.source = "/repo/a.js".toList ∧ e.target = "/repo/b.js".toList) ∧
      ∃ e ∈ edgesOf registry scan, e.source = "/repo/b.js".toList ∧
        e.target = "/repo/a.js".toList := by
  have hids := (Scan.run_ids wellFormed hscan).1
  have hnodes := nodes_eq hscan
  have hindex : (indexOf registry scan.nodes).id? = fun file =>
      (List.lookup file [("b.js".toList, "/repo/b.js".toList),
        ("a.js".toList, "/repo/a.js".toList)]).filter fun id => !id.isEmpty := by
    rw [indexOf, FileIndex.id?_ofList, hnodes]
    rfl
  have ha : sourceNode "a.js" "b" ∈ scan.nodes := by simp [hnodes]
  have hb : sourceNode "b.js" "a" ∈ scan.nodes := by simp [hnodes]
  constructor
  · refine (exists_edge_iff hids ha (by decide)).mpr
      ⟨by decide +kernel, ⟨"./b".toList, ["x".toList]⟩, ?_, ?_⟩
    · rw [textIn_eq hscan ha]
      decide +kernel
    · show (FileIndex.spots language "b".toList).findSome? (indexOf registry scan.nodes).id? = _
      rw [hindex]
      decide +kernel
  · refine (exists_edge_iff hids hb (by decide)).mpr
      ⟨by decide +kernel, ⟨"./a".toList, ["x".toList]⟩, ?_, ?_⟩
    · rw [textIn_eq hscan hb]
      decide +kernel
    · show (FileIndex.spots language "a".toList).findSome? (indexOf registry scan.nodes).id? = _
      rw [hindex]
      decide +kernel

theorem weight_nonneg (f : RiskFactor) : 0 ≤ f.weight ({} : Config).policy := by
  cases f <;> exact Int.natCast_nonneg _

/-- A repository without manifests has a graph. -/
theorem ofScan_ok {registry : Registry} {top : Entry} (hw : top.WellFormed)
    (horder : ∀ places, (order places).Perm places)
    (hscan : Scan.run registry ({} : Config).scan top root = .ok scan)
    (hmanifests : scan.rootManifests = []) : ∃ g, ofScan registry {} order scan = .ok g := by
  refine ofScan_returns registry horder rfl (Scan.run_ids hw hscan).1
    (scan_length_lt (by decide) hscan) weight_nonneg fun m hm => ?_
  rw [hmanifests] at hm
  cases hm

theorem exists_graph (horder : ∀ places, (order places).Perm places) :
    ∃ g, run registry {} order top "/repo".toList = .ok g ∧
      g.nodes.map (·.id) = ["/repo/a.js".toList, "/repo/b.js".toList] ∧
      (∃ e ∈ g.edges, e.source = "/repo/a.js".toList ∧ e.target = "/repo/b.js".toList) ∧
      ∃ e ∈ g.edges, e.source = "/repo/b.js".toList ∧ e.target = "/repo/a.js".toList := by
  obtain ⟨scan, hscan⟩ := Scan.Sample.returns ({} : Config).scan
  have hconfig : ({} : Config).check = .ok {} := rfl
  obtain ⟨g, hg⟩ := run_returns wellFormed horder hconfig (by decide) weight_nonneg
    (fun name _ hname => absurd hname (no_manifests name)) hscan
  have hof : ofScan registry {} order scan = .ok g := by rw [← run_eq hscan, hg]
  obtain ⟨hedges, hids⟩ := ofScan_ids horder hconfig hof
  refine ⟨g, hg, ?_, ?_⟩
  · rw [hids, nodes_eq hscan]
    rfl
  · rw [hedges]
    exact exists_edges hscan

end Sample

end Analysis

end RepoAtlas
