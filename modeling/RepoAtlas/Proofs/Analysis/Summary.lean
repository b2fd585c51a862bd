import RepoAtlas.Proofs.Analysis.Isolation
import RepoAtlas.Proofs.Language.Extension
import RepoAtlas.Proofs.Language.Registry

/-!
# What a graph sums up

A graph has counts of files by extension and by layer, a primary language, and the insights of all
files in one list. These come about at different times: extensions are counted on the way through the
repository, layers when all files are done, and insights arrive file by file.
`Analysis.run_summarizes`: they all agree with the nodes that the graph has.
-/

namespace RepoAtlas

-- -------------------------------------
-- The stock languages
-- -------------------------------------

/-- Every match of the form can be read. -/
def ImportForm.Readable (form : ImportForm) : Prop := ∀ m, ∃ target, form.target m = .ok target

theorem ImportForm.readable_python : ∀ form ∈ Python.forms, form.Readable := by
  simp only [Python.forms, List.forall_mem_cons, List.not_mem_nil, false_imp_iff, implies_true,
    and_true]
  constructor
  · intro m
    simp only [Python.fromTarget]
    split
    · exact ⟨_, rfl⟩
    · exact ⟨_, rfl⟩
  · intro m
    simp only [Python.importTarget]
    split
    · exact ⟨_, rfl⟩
    · exact ⟨_, rfl⟩

theorem Language.readable_stock {language : Language} (h : language ∈ Language.stock) :
    ∀ form ∈ language.forms, form.Readable := by
  have hscript : ∀ form ∈ ImportForm.Script.forms, form.Readable :=
    List.forall_mem_map.mpr fun _ _ _ => ⟨_, rfl⟩
  have hone : ∀ {form : ImportForm}, form.Readable → ∀ other ∈ [form], other.Readable :=
    List.forall_mem_singleton.mpr
  have htwo : ∀ {a b : ImportForm}, a.Readable → b.Readable →
      ∀ other ∈ [a, b], other.Readable := fun ha hb =>
    List.forall_mem_cons.mpr ⟨ha, List.forall_mem_singleton.mpr hb⟩
  simp only [Language.stock, List.mem_cons, List.not_mem_nil, or_false] at h
  rcases h with rfl | rfl | rfl | rfl | rfl | rfl | rfl | rfl | rfl | rfl | rfl | rfl | rfl | rfl |
    rfl | rfl
  · exact hscript
  · exact hscript
  · exact hscript
  · exact hscript
  · exact ImportForm.readable_python
  · exact htwo (fun _ => ⟨_, rfl⟩) fun _ => ⟨_, rfl⟩
  · exact htwo (fun _ => ⟨_, rfl⟩) fun _ => ⟨_, rfl⟩
  · exact hone fun _ => ⟨_, rfl⟩
  · exact hone fun _ => ⟨_, rfl⟩
  · exact hone fun _ => ⟨_, rfl⟩
  · exact hone fun _ => ⟨_, rfl⟩
  · exact hone fun _ => ⟨_, rfl⟩
  · exact htwo (fun _ => ⟨_, rfl⟩) fun _ => ⟨_, rfl⟩
  · exact htwo (fun _ => ⟨_, rfl⟩) fun _ => ⟨_, rfl⟩
  · exact hone fun _ => ⟨_, rfl⟩
  · exact hone fun _ => ⟨_, rfl⟩

theorem Import.extract_returns {language : Language}
    (h : ∀ form ∈ language.forms, form.Readable) (content : Text) :
    ∃ imports, extract language content = .ok imports := by
  unfold extract
  refine Analysis.bind_ok (Analysis.mapM_ok fun form hform => Analysis.mapM_ok fun m _ => ?_)
    fun found => ⟨_, rfl⟩
  obtain ⟨target, htarget⟩ := h form hform m
  unfold ofMatch
  rw [htarget]
  cases target with
  | none => exact ⟨_, rfl⟩
  | some target =>
    simp only [bind, Except.bind]
    split
    · exact ⟨_, rfl⟩
    · split
      · exact ⟨_, rfl⟩
      · exact ⟨_, rfl⟩

namespace Registry

theorem mem_languages_of_find? {registry : Registry} (h : registry.find? ext = some language) :
    language ∈ registry.languages := by
  obtain ⟨i, -, hi⟩ := Option.bind_eq_some_iff.mp h
  exact List.mem_of_getElem? hi

/-- The extensions of the stock languages have one dot, which they start with. -/
theorem stock_extensions : ∀ ext ∈ stock.extensions, ext = '.' :: ext.dropWhile (· == '.') := by
  decide +kernel

theorem stock_find?_of_source :
    ∀ ext ∈ Analysis.sourceExtensions stock, (stock.find? ('.' :: ext)).isSome = true := by
  decide +kernel

end Registry

/-- In a stock language every text can be read for its imports. -/
theorem Findings.ofNode_stock (index : FileIndex) (content : Text) (node : Node) :
    ∃ targets, ofNode .stock index content node = .ok
      { targets, metrics := Metrics.ofText content, layer := layerOf node
        insights := Insight.scan content node.path } := by
  have htargets : ∃ targets, targetsOf .stock index content node = .ok targets := by
    unfold targetsOf
    cases hlanguage : Registry.stock.find? node.extension with
    | none => exact ⟨[], rfl⟩
    | some language =>
      have hmem : language ∈ Language.stock :=
        (Registry.keeps_ofList Language.stock).languages ▸ Registry.mem_languages_of_find? hlanguage
      exact Analysis.bind_ok (Import.extract_returns (Language.readable_stock hmem) content)
        fun imports => ⟨_, rfl⟩
  obtain ⟨targets, htargets⟩ := htargets
  refine ⟨targets, ?_⟩
  unfold ofNode
  rw [htargets]
  rfl

-- -------------------------------------
-- Extensions
-- -------------------------------------

namespace Scan

theorem run_nodup_paths (hw : top.WellFormed) (h : run registry config top root = .ok scan) :
    (scan.nodes.map (·.path)).Nodup := by
  rw [List.Nodup, List.pairwise_map]
  refine (List.pairwise_map.mp (run_ids hw h).1).imp_of_mem fun {a b} ha hb hne hpath => hne ?_
  exact run_id_of_path h ha hb hpath

theorem extensionOf_cons {name : Text} (h : extensionOf name ≠ []) :
    ∃ ext, extensionOf name = '.' :: ext := by
  have hsuffix : Path.suffix name ≠ [] := by
    intro hnil
    rw [extensionOf, hnil] at h
    exact h rfl
  obtain ⟨stem, ext, -, -, hcut⟩ := Path.suffix_ne_nil hsuffix
  rw [extensionOf, hcut]
  exact ⟨_, rfl⟩

theorem count_suffixes (files : List WalkItem) (ext : Text) :
    (suffixes files).count ext = files.countP fun item => extensionOf item.name == '.' :: ext := by
  unfold suffixes
  induction files with
  | nil => rfl
  | cons item files ih =>
    by_cases hnil : extensionOf item.name = []
    · simpa [hnil] using ih
    · obtain ⟨own, hown⟩ := extensionOf_cons hnil
      by_cases hext : own = ext
      · simpa [hown, hext] using ih
      · simpa [hown, hext] using ih

/-- The files counted for an extension of a source language are nodes with this extension. -/
theorem Reports.count_suffixes (h : Reports .stock config top root visited scan)
    (hext : ext ∈ Analysis.sourceExtensions .stock) :
    (suffixes visited).count ext = scan.nodes.countP (·.extension == '.' :: ext) := by
  rw [Scan.count_suffixes, h.nodes, List.countP_map, List.countP_filter]
  refine List.countP_congr fun item _ => ?_
  simp only [Function.comp_apply, Node.extension, node, Bool.and_eq_true, beq_iff_eq]
  constructor
  · intro hitem
    have hsource : isSource .stock item.name = true := by
      rw [isSource, hitem]
      exact Registry.stock_find?_of_source ext hext
    have hsuffix := suffix_ne_nil_of_isSource Registry.stock_find?_nil hsource
    exact ⟨(labelExtension_eq hsuffix).trans hitem, hsource⟩
  · rintro ⟨hlabel, hsource⟩
    have hsuffix := suffix_ne_nil_of_isSource Registry.stock_find?_nil hsource
    exact (labelExtension_eq hsuffix).symm.trans hlabel

theorem Reports.extension {node : Node} (h : Reports .stock config top root visited scan)
    (hnode : node ∈ scan.nodes) :
    ∃ ext ∈ Analysis.sourceExtensions .stock, node.extension = '.' :: ext := by
  rw [h.nodes] at hnode
  obtain ⟨item, hitem, rfl⟩ := List.mem_map.mp hnode
  obtain ⟨-, hsource⟩ := List.mem_filter.mp hitem
  have hsuffix := suffix_ne_nil_of_isSource Registry.stock_find?_nil hsource
  have hknown := Registry.mem_extensions_of_find? hsource
  rw [extensionOf, Text.lower_lower] at hknown
  refine ⟨_, List.mem_map_of_mem hknown, ?_⟩
  rw [← Registry.stock_extensions _ hknown]
  exact labelExtension_eq hsuffix

end Scan

-- -------------------------------------
-- Insights
-- -------------------------------------

theorem Insight.line_insight (threat : Threat) (file : Path) (line : Nat) :
    (threat.insight file line).file = file ∧ (threat.insight file line).line = some (line : Int) := by
  cases threat <;> exact ⟨rfl, rfl⟩

theorem Insight.scan_sorted (content : Text) (file : Path) :
    (Insight.scan content file).Pairwise fun a b => Analysis.insightLe a b = true := by
  have hle : ∀ {threat threat' : Threat} {line line' : Nat}, line ≤ line' →
      Analysis.insightLe (threat.insight file line) (threat'.insight file line') = true := by
    intro threat threat' line line' hline
    obtain ⟨hfile, hnumber⟩ := line_insight threat file line
    obtain ⟨hfile', hnumber'⟩ := line_insight threat' file line'
    simpa [Analysis.insightLe, hfile, hfile', hnumber, hnumber'] using hline
  unfold Insight.scan
  rw [List.pairwise_flatMap]
  constructor
  · rintro ⟨line, number⟩ -
    exact List.pairwise_map.mpr (List.pairwise_of_forall fun _ _ => hle (Nat.le_refl number))
  · have hnumbers : ((Text.lines content).zipIdx 1).Pairwise fun a b => a.2 < b.2 := by
      rw [← List.pairwise_map, List.zipIdx_map_snd]
      exact List.pairwise_lt_range'
    refine hnumbers.imp fun {a b} hab x hx y hy => ?_
    obtain ⟨threat, -, rfl⟩ := List.mem_map.mp hx
    obtain ⟨threat', -, rfl⟩ := List.mem_map.mp hy
    exact hle (Nat.le_of_lt hab)

namespace Analysis

/-- The insights about a file, of those about files with different paths. -/
theorem filter_flatMap_insights {nodes : List Node} {found : Node → List Insight}
    (hpaths : (nodes.map (·.path)).Nodup)
    (hfile : ∀ node ∈ nodes, ∀ i ∈ found node, i.file = node.path) (hnode : node ∈ nodes) :
    (nodes.flatMap found).filter (·.file == node.path) = found node := by
  have hothers : ∀ {others : List Node}, (∀ other ∈ others, other ∈ nodes) →
      (∀ other ∈ others, other.path ≠ node.path) →
      (others.flatMap found).filter (·.file == node.path) = [] := by
    intro others hsub hne
    refine List.filter_eq_nil_iff.mpr fun i hi => ?_
    obtain ⟨other, hother, hi⟩ := List.mem_flatMap.mp hi
    simpa [hfile other (hsub other hother) i hi] using hne other hother
  have hown : (found node).filter (·.file == node.path) = found node :=
    List.filter_eq_self.mpr fun i hi => by simp [hfile node hnode i hi]
  obtain ⟨front, back, rfl⟩ := List.append_of_mem hnode
  rw [List.map_append, List.map_cons, List.nodup_middle, List.nodup_cons] at hpaths
  have hne : ∀ other ∈ front ++ back, other.path ≠ node.path := by
    intro other hother hpath
    exact hpaths.1 (hpath ▸ List.map_append ▸ List.mem_map_of_mem hother)
  rw [List.flatMap_append, List.flatMap_cons, List.filter_append, List.filter_append, hown,
    hothers (by simp +contextual) fun other h => hne other (List.mem_append_left _ h),
    hothers (by simp +contextual) fun other h => hne other (List.mem_append_right _ h)]
  simp

end Analysis

-- -------------------------------------
-- Layers
-- -------------------------------------

namespace Node

/-- The number of nodes in a layer. -/
def layerSize (nodes : List Node) (layer : Text) : Nat :=
  nodes.countP fun node => node.layer.map (·.layer) == some layer

theorem count_layers (nodes : List Node) (layer : Text) :
    (nodes.filterMap fun node => node.layer.map (·.layer)).count layer = layerSize nodes layer := by
  rw [List.count, List.countP_filterMap, layerSize]
  refine List.countP_congr fun node _ => ?_
  cases node.layer <;> simp

theorem mem_layerCounts {nodes : List Node} {layer : Text} {n : Int} :
    (layer, n) ∈ layerCounts nodes ↔ n = layerSize nodes layer ∧ 0 < n := by
  rw [layerCounts, (Tally.sorted_perm _).mem_iff, Tally.mem_ofList, count_layers]

theorem nodup_layerCounts (nodes : List Node) : ((layerCounts nodes).map Prod.fst).Nodup :=
  ((Tally.sorted_perm _).map _).nodup_iff.mpr (Tally.nodup_ofList _)

/-- Where every node has a layer, the counts add up to the number of nodes. -/
theorem total_layerCounts {nodes : List Node} (h : ∀ node ∈ nodes, node.layer.isSome = true) :
    ((layerCounts nodes).map Prod.snd).foldr (· + ·) 0 = (nodes.length : Int) := by
  have hlength : (nodes.filterMap fun node => node.layer.map (·.layer)).length = nodes.length := by
    rw [List.filterMap_length_eq_length]
    simpa using h
  rw [layerCounts, ((Tally.sorted_perm _).map _).foldr_eq, Tally.ofList_eq, List.map_map, ← hlength]
  exact totalCount_eq_length (Grouping.nodup_eraseDups _) fun t ht => List.mem_eraseDups.mpr ht

end Node

-- -------------------------------------
-- Graphs
-- -------------------------------------

/-- The insights of a file, none where it could not be inspected. -/
def Node.insights (failed : Text → Bool) (text : Path → Text) (node : Node) : List Insight :=
  if failed node.id then [] else Insight.scan (text node.id) node.path

theorem Node.insights_sorted (failed : Text → Bool) (text : Path → Text) (node : Node) :
    (node.insights failed text).Pairwise fun a b => Analysis.insightLe a b = true := by
  unfold insights
  split
  · exact .nil
  · exact Insight.scan_sorted _ _

theorem Node.file_of_mem_insights {node : Node} (hi : i ∈ node.insights failed text) :
    i.file = node.path := by
  unfold insights at hi
  split at hi
  · cases hi
  · exact Analysis.file_of_mem_scan hi

/-- The number of nodes with an extension, which is given without its dot. -/
def Graph.filesWith (g : Graph) (ext : Text) : Nat :=
  g.nodes.countP (·.extension == '.' :: ext)

/-- The counts of a graph are those of its nodes, and its insights those of its files. The files at
`failed` could not be inspected; `text` gives the texts of the others. -/
structure Graph.Summarizes (g : Graph) (failed : Text → Bool) (text : Path → Text) : Prop where
  languages : ∀ ext ∈ Analysis.sourceExtensions .stock, ∀ n,
    (ext, n) ∈ g.stats.languages ↔ n = g.filesWith ext ∧ 0 < n
  languagesOnce : (g.stats.languages.map Prod.fst).Nodup
  extensions : ∀ node ∈ g.nodes,
    ∃ ext ∈ Analysis.sourceExtensions .stock, node.extension = '.' :: ext
  noPrimary : g.stats.primaryLanguage = none ↔ g.nodes = []
  /-- The primary language has the most nodes, and of those with as many it is the first. -/
  primary : ∀ ext, g.stats.primaryLanguage = some ext → 0 < g.filesWith ext ∧
    ∀ other, 0 < g.filesWith other → g.filesWith other < g.filesWith ext ∨
      g.filesWith other = g.filesWith ext ∧ Text.le ext other = true
  layers : ∀ layer n, (layer, n) ∈ g.layers ↔ n = Node.layerSize g.nodes layer ∧ 0 < n
  layersOnce : (g.layers.map Prod.fst).Nodup
  layersTotal : (g.layers.map Prod.snd).foldr (· + ·) 0 = (g.nodes.length : Int)
  insights : g.insights.Perm (g.nodes.flatMap (·.insights failed text))
  sorted : g.insights.Pairwise fun a b => Text.le a.file b.file = true ∧
    (a.file = b.file → a.line.getD 0 ≤ b.line.getD 0)
  /-- The insights about one file, and so those about one line, stand as they were found. -/
  insightsOf : ∀ node ∈ g.nodes,
    g.insights.filter (·.file == node.path) = node.insights failed text

namespace Analysis

section
variable {registry : Registry} {config : Config} {order : List Nat → List Nat} {top : Entry}
  {root : Path} {scan : Scan} {g : Graph} {found : Node → Findings}

theorem finishStats_ok {stats : Stats} (h : finishStats registry config scan = .ok stats) :
    stats.languages = scan.stats.languages ∧ stats.primaryLanguage =
      primaryLanguage scan.stats.languages (some (sourceExtensions registry)) := by
  simp only [finishStats, bind, Except.bind] at h
  split at h
  · cases h
  · cases h
    exact ⟨rfl, rfl⟩

theorem ofFindings_summary (h : ofFindings registry config scan (scan.nodes.map found) = .ok g) :
    finishStats registry config scan = .ok g.stats ∧ g.layers = Node.layerCounts g.nodes := by
  obtain ⟨nodes, -, hconclude⟩ := ofFindings_ok h
  obtain ⟨hnodes, -, -, hstats, hlayers⟩ := Stage.conclude_ok hconclude
  exact ⟨hstats, hnodes ▸ hlayers⟩

/-- A node that is returned is the scanned one as far as its file goes, and has a layer. -/
theorem ofFindings_nodes (h : ofFindings registry config scan (scan.nodes.map found) = .ok g) :
    ∃ final : Node → Node, g.nodes = scan.nodes.map final ∧ ∀ node, (final node).id = node.id ∧
      (final node).label = node.label ∧ (final node).path = node.path ∧
      (final node).layer.isSome = true := by
  obtain ⟨final, -, hnodes, -, hfinal⟩ := ofFindings_inv h
  exact ⟨final, hnodes, fun node => Stage.file_of_finished (hfinal node)⟩

theorem pairwise_of_insightLe {insights : List Insight}
    (h : insights.Pairwise fun a b => insightLe a b = true) :
    insights.Pairwise fun a b => Text.le a.file b.file = true ∧
      (a.file = b.file → a.line.getD 0 ≤ b.line.getD 0) := by
  refine h.imp fun {a b} hab => ?_
  unfold insightLe at hab
  split at hab
  · rename_i hfile
    have hfile : a.file = b.file := by simpa using hfile
    refine ⟨?_, fun _ => by simpa using hab⟩
    rcases Text.le_total a.file b.file with hle | hle
    · exact hle
    · rwa [hfile] at hle ⊢
  · rename_i hfile
    exact ⟨hab, fun heq => absurd (by simpa using heq) hfile⟩

/-- The languages that compete are those of the nodes, with as many files as there are nodes. -/
theorem primary_of_languages {languages : Tally} {supported : List Text}
    (hprimary : g.stats.primaryLanguage = primaryLanguage languages (some supported))
    (hlanguages : ∀ ext ∈ supported, ∀ n, (ext, n) ∈ languages ↔ n = g.filesWith ext ∧ 0 < n)
    (hextensions : ∀ node ∈ g.nodes, ∃ ext ∈ supported, node.extension = '.' :: ext) :
    (g.stats.primaryLanguage = none ↔ g.nodes = []) ∧
      ∀ ext, g.stats.primaryLanguage = some ext → 0 < g.filesWith ext ∧
        ∀ other, 0 < g.filesWith other → g.filesWith other < g.filesWith ext ∨
          g.filesWith other = g.filesWith ext ∧ Text.le ext other = true := by
  have hentry : ∀ {ext}, 0 < g.filesWith ext →
      ext ∈ supported ∧ (ext, (g.filesWith ext : Int)) ∈ languages := by
    intro ext hpos
    obtain ⟨node, hnode, hext⟩ := List.countP_pos_iff.mp hpos
    obtain ⟨own, hsupported, hown⟩ := hextensions node hnode
    obtain rfl : own = ext := by simpa [hown] using hext
    exact ⟨hsupported, (hlanguages _ hsupported _).mpr ⟨rfl, Int.natCast_pos.mpr hpos⟩⟩
  rw [hprimary]
  constructor
  · rw [primaryLanguage_eq_none_iff]
    constructor
    · intro hnone
      refine List.eq_nil_iff_forall_not_mem.mpr fun node hnode => ?_
      obtain ⟨ext, -, hext⟩ := hextensions node hnode
      have hpos : 0 < g.filesWith ext :=
        List.countP_pos_iff.mpr ⟨node, hnode, by simp [hext]⟩
      exact hnone _ (hentry hpos).2 (hentry hpos).1
    · rintro hnil ⟨ext, n⟩ hmem hsupported
      obtain ⟨rfl, hpos⟩ := (hlanguages ext hsupported n).mp hmem
      rw [Graph.filesWith, hnil] at hpos
      exact absurd hpos (Int.lt_irrefl 0)
  · intro ext hext
    obtain ⟨n, hmem, hsupported, hleads⟩ := primaryLanguage_leads hext
    obtain ⟨rfl, hpos⟩ := (hlanguages ext hsupported n).mp hmem
    refine ⟨Int.natCast_pos.mp hpos, fun other hother => ?_⟩
    obtain ⟨hcompetes, hlisted⟩ := hentry hother
    rcases hleads other _ hlisted hcompetes with hfewer | ⟨hsame, hle⟩
    · exact .inl (Int.ofNat_lt.mp hfewer)
    · exact .inr ⟨Int.ofNat_inj.mp hsame, hle⟩

/-- What is counted on the way through the repository are the nodes of the graph, which all have
the extension of a source language. -/
theorem ofFindings_languages (hreports : Scan.Reports .stock scanConfig top base visited scan)
    (h : ofFindings .stock config scan (scan.nodes.map found) = .ok g) :
    (∀ ext ∈ sourceExtensions .stock, ∀ n,
      (ext, n) ∈ scan.stats.languages ↔ n = g.filesWith ext ∧ 0 < n) ∧
      ∀ node ∈ g.nodes, ∃ ext ∈ sourceExtensions .stock, node.extension = '.' :: ext := by
  obtain ⟨final, hnodes, hfinal⟩ := ofFindings_nodes h
  have hextension : ∀ node, (final node).extension = node.extension := fun node => by
    rw [Node.extension, (hfinal node).2.1, Node.extension]
  constructor
  · intro ext hext n
    have hfiles : g.filesWith ext = scan.nodes.countP (·.extension == '.' :: ext) := by
      simp only [Graph.filesWith, hnodes, List.countP_map, Function.comp_def, hextension]
    rw [hreports.languages, ← Tally.ofList_eq, Tally.mem_ofList, hreports.count_suffixes hext,
      hfiles]
  · rw [hnodes]
    refine List.forall_mem_map.mpr fun node hnode => ?_
    rw [hextension]
    exact hreports.extension hnode

/-- The insights of a graph are those found in its files, and sorting leaves the insights about one
file as they were found. -/
theorem ofFindings_insights {failed : Text → Bool} {text : Path → Text}
    (hpaths : (scan.nodes.map (·.path)).Nodup)
    (hfound : ∀ node ∈ scan.nodes, (found node).insights = node.insights failed text)
    (h : ofFindings registry config scan (scan.nodes.map found) = .ok g) :
    g.insights.Perm (g.nodes.flatMap (·.insights failed text)) ∧
      ∀ node ∈ g.nodes, g.insights.filter (·.file == node.path) = node.insights failed text := by
  obtain ⟨final, hnodes, hfinal⟩ := ofFindings_nodes h
  obtain ⟨-, -, -, hinsights, -⟩ := ofFindings_inv h
  have hown : ∀ node, (final node).insights failed text = node.insights failed text := fun node => by
    rw [Node.insights, (hfinal node).1, (hfinal node).2.2.1, Node.insights]
  have hflat : (scan.nodes.map found).flatMap (·.insights) =
      scan.nodes.flatMap (·.insights failed text) := by
    rw [List.flatMap_map]
    exact List.flatMap_congr hfound
  rw [hinsights, hflat, hnodes]
  constructor
  · rw [List.flatMap_map]
    simp only [hown]
    exact List.mergeSort_perm _ _
  · refine List.forall_mem_map.mpr fun node hnode => ?_
    rw [hown, (hfinal node).2.2.1, filter_mergeSort insightLe_trans insightLe_total,
      filter_flatMap_insights hpaths (fun _ _ _ => Node.file_of_mem_insights) hnode]
    exact List.mergeSort_of_pairwise (node.insights_sorted failed text)

/-- The graph of a scan sums up, whatever its files were found to hold, as long as the insights are
those of the texts. -/
theorem summarizes_of_findings {failed : Text → Bool} {text : Path → Text}
    (hreports : Scan.Reports .stock scanConfig top base visited scan)
    (hpaths : (scan.nodes.map (·.path)).Nodup)
    (hfound : ∀ node ∈ scan.nodes, (found node).insights = node.insights failed text)
    (h : ofFindings .stock config scan (scan.nodes.map found) = .ok g) :
    g.Summarizes failed text := by
  obtain ⟨hstats, hlayers⟩ := ofFindings_summary h
  obtain ⟨hcounts, hprimary⟩ := finishStats_ok hstats
  obtain ⟨final, hnodes, hfinal⟩ := ofFindings_nodes h
  obtain ⟨hlanguages, hextensions⟩ := ofFindings_languages hreports h
  obtain ⟨hnone, hsome⟩ := primary_of_languages hprimary hlanguages hextensions
  obtain ⟨hperm, hown⟩ := ofFindings_insights hpaths hfound h
  constructor
  case languages => exact hcounts ▸ hlanguages
  case languagesOnce =>
    rw [hcounts, hreports.languages, ← Tally.ofList_eq]
    exact Tally.nodup_ofList _
  case extensions => exact hextensions
  case noPrimary => exact hnone
  case primary => exact hsome
  case layers =>
    intro layer n
    rw [hlayers]
    exact Node.mem_layerCounts
  case layersOnce => exact hlayers ▸ Node.nodup_layerCounts g.nodes
  case layersTotal =>
    rw [hlayers]
    refine Node.total_layerCounts ?_
    rw [hnodes]
    exact List.forall_mem_map.mpr fun node _ => (hfinal node).2.2.2
  case insights => exact hperm
  case sorted =>
    obtain ⟨-, -, -, hinsights, -⟩ := ofFindings_inv h
    rw [hinsights]
    exact pairwise_of_insightLe (List.pairwise_mergeSort insightLe_trans insightLe_total _)
  case insightsOf => exact hown

theorem foundBy_insights (faults : Text → Option ReadFault)
    (hscan : Scan.run .stock scanConfig top root = .ok scan) (hnode : node ∈ scan.nodes) :
    (foundBy (failingAt faults (Findings.ofNode .stock)) .stock scan node).insights =
      node.insights (fun id => (faults id).isSome) (Cache.textOf top.readText) := by
  rw [foundBy, failingAt, Node.insights]
  cases hfault : faults node.id with
  | some fault => rfl
  | none =>
    obtain ⟨targets, htargets⟩ :=
      Findings.ofNode_stock (indexOf .stock scan.nodes) (textIn scan node) node
    simp only [htargets, Findings.orLayer, Option.isSome_none, Bool.false_eq_true, if_false]
    rw [textIn_eq hscan hnode]

/-- The counts and insights of a graph agree with its nodes. This also holds where the inspection of
some files fails, but for the insights of these files. -/
theorem run_summarizes (root : Path) (hw : top.WellFormed)
    (horder : ∀ places, (order places).Perm places) (hconfig : config.check = .ok config) :
    (∀ g, run .stock config order top root = .ok g →
      g.Summarizes (fun _ => false) (Cache.textOf top.readText)) ∧
    ∀ faults g, runWith (failingAt faults (Findings.ofNode .stock)) .stock config order top root =
        .ok g →
      g.Summarizes (fun id => (faults id).isSome) (Cache.textOf top.readText) := by
  have hwith : ∀ faults g,
      runWith (failingAt faults (Findings.ofNode .stock)) .stock config order top root = .ok g →
        g.Summarizes (fun id => (faults id).isSome) (Cache.textOf top.readText) := by
    intro faults g h
    rcases runWith_inv h with rfl | ⟨scan, hscan, hg⟩
    · constructor <;> simp [Graph.filesWith, Node.layerSize]
    · rw [ofScanWith_eq _ horder (batchSize_pos hconfig)] at hg
      obtain ⟨base, trail, entries, -, -, -, hwalk⟩ := Scan.run_inv hscan
      exact summarizes_of_findings (Scan.ofWalk_reports hwalk).1 (Scan.run_nodup_paths hw hscan)
        (fun node hnode => foundBy_insights faults hscan hnode) hg
  exact ⟨hwith fun _ => none, hwith⟩

end

namespace Sample

open Scan.DottedSample

theorem exists_graph_of_two (faults : Text → Option ReadFault) : ∃ g a b,
    runWith (failingAt faults (Findings.ofNode .stock)) .stock {} List.reverse top
      "/repo".toList = .ok g ∧
    g.nodes = [a, b] ∧ a.label = "..go".toList ∧ b.label = "main.go".toList ∧
    b.id = "/repo/main.go".toList ∧ b.path = "main.go".toList := by
  obtain ⟨scan, hscan, hmanifests, hnodes⟩ := returns
  have hscan : Scan.run .stock ({} : Config).scan top "/repo".toList = .ok scan := hscan
  have hstats : ∃ stats, finishStats .stock ({} : Config) scan = .ok stats :=
    finishStats_returns .stock {} (by simp [hmanifests])
  obtain ⟨g, hg⟩ := ofFindings_returns (Scan.run_ids wellFormed hscan).1
    (leavesOut_failingAt .stock scan faults).ends (scan_length_lt (by decide) hscan) weight_nonneg
    hstats
  obtain ⟨final, hfinal, hsame⟩ := ofFindings_nodes hg
  refine ⟨g, final (nodeOf dotted), final (nodeOf main), ?_, ?_, ?_⟩
  · rw [runWith, hscan, afterScan, ofScanWith_eq _ List.reverse_perm (by decide)]
    exact hg
  · rw [hfinal, hnodes]
    rfl
  · simp only [hsame]
    decide +kernel

end Sample

/-- Two files of one language; the second has a line that evaluates code, which is not seen if the
file cannot be inspected. -/
theorem run_summarizes_sample :
    let faults : Text → Option ReadFault :=
      fun id => if id = "/repo/main.go".toList then some .unreadable else none
    ∃ g g', run .stock {} List.reverse Scan.DottedSample.top "/repo".toList = .ok g ∧
      runWith (failingAt faults (Findings.ofNode .stock)) .stock {} List.reverse
        Scan.DottedSample.top "/repo".toList = .ok g' ∧
      ("go".toList, 2) ∈ g.stats.languages ∧ g.stats.primaryLanguage = some "go".toList ∧
      g.insights.filter (·.file == "main.go".toList) =
        [Threat.evaluation.insight "main.go".toList 2] ∧
      g'.insights.filter (·.file == "main.go".toList) = [] := by
  intro faults
  obtain ⟨hall, hfailing⟩ := run_summarizes "/repo".toList Scan.DottedSample.wellFormed
    List.reverse_perm (by rfl : ({} : Config).check = .ok {})
  obtain ⟨g, a, b, hg, hnodes, ha, hb, hid, hpath⟩ := Sample.exists_graph_of_two fun _ => none
  obtain ⟨g', a', b', hg', hnodes', -, -, hid', hpath'⟩ := Sample.exists_graph_of_two faults
  have hrun : run .stock {} List.reverse Scan.DottedSample.top "/repo".toList = .ok g := hg
  have hsum := hall g hrun
  have hfiles : ∀ ext, g.filesWith ext =
      ["..go".toList, "main.go".toList].countP fun label => labelExtension label == '.' :: ext := by
    intro ext
    simp only [Graph.filesWith, hnodes, Node.extension, List.countP_cons, ha, hb, List.countP_nil]
  refine ⟨g, g', hrun, hg', ?_, ?_, ?_, ?_⟩
  · refine (hsum.languages _ (by decide +kernel) 2).mpr ⟨?_, by decide⟩
    rw [hfiles]
    decide +kernel
  · cases hprimary : g.stats.primaryLanguage with
    | none =>
      have hnil := hsum.noPrimary.mp hprimary
      rw [hnodes] at hnil
      cases hnil
    | some ext =>
      obtain ⟨hpos, -⟩ := hsum.primary ext hprimary
      rw [hfiles] at hpos
      obtain ⟨label, hlabel, hext⟩ := List.countP_pos_iff.mp hpos
      have hgo : ∀ label ∈ ["..go".toList, "main.go".toList],
          labelExtension label = '.' :: "go".toList := by decide +kernel
      rw [hgo label hlabel, beq_iff_eq] at hext
      rw [(List.cons.inj hext).2]
  · have hmain := hsum.insightsOf b (by simp [hnodes])
    rw [hpath, Node.insights, hid, hpath] at hmain
    rw [hmain]
    decide +kernel
  · have hmain := (hfailing faults g' hg').insightsOf b' (by simp [hnodes'])
    rw [hpath', Node.insights, hid', hpath'] at hmain
    rw [hmain]
    rfl

end Analysis

end RepoAtlas
