import RepoAtlas.Language.Stock
import RepoAtlas.Proofs.Files.Cache
import RepoAtlas.Proofs.Files.Walk
import RepoAtlas.Proofs.Graph.Summary
import RepoAtlas.Proofs.Manifest.Recording
import RepoAtlas.Scan

/-!
# A scan reports on the first files of a repository

`Scan.run_exact`: a scan that returns has visited the files of the pre-order listing up to its
limit, and its nodes, entry points and languages are those of the files visited. With a higher limit
a scan goes on where the other one stopped.
-/

namespace RepoAtlas.Scan

section
variable {registry : Registry} {config : ScanConfig} {top : Entry} {root : Path}

/-- The extensions of files that have one, without their dots. -/
def suffixes (files : List WalkItem) : List Text :=
  ((files.map fun item => extensionOf item.name).filter (· ≠ [])).map List.tail

theorem languages_eq (files : List WalkItem) :
    languages files =
      (suffixes files).eraseDups.map fun ext => (ext, ((suffixes files).count ext : Int)) := by
  have hsuffixes : languages files = Tally.ofList (suffixes files) := by
    unfold languages
    refine congrArg Tally.ofList ?_
    induction files with
    | nil => rfl
    | cons item files ih =>
      cases he : extensionOf item.name <;>
        simp_all [suffixes]
  rw [hsuffixes]
  exact Tally.ofList_eq _

/-- The nodes, entry points, languages and number of files, as the files visited have them. -/
structure Reports (registry : Registry) (config : ScanConfig) (top : Entry) (root : Path)
    (visited : List WalkItem) (scan : Scan) : Prop where
  nodes : scan.nodes = (visited.filter fun item => isSource registry item.name).map fun item =>
    node root (Cache.textOf top.readText (idOf root item)) item
  entryPoints : scan.stats.entryPoints = (visited.filter fun item =>
    item.name ∈ registry.entryPoints ∧
      (Path.segments item.path).length ≤ config.entryPointDepth).map (·.path)
  languages : scan.stats.languages = (suffixes visited).eraseDups.map fun ext =>
    (ext, ((suffixes visited).count ext : Int))
  totalFiles : scan.stats.totalFiles = visited.length

/-- The texts of the source files among the files visited are those in the cache. -/
theorem ofWalk_reports (h : ofWalk registry config top root walk = .ok scan) :
    Reports registry config top root walk.files scan ∧ scan.truncated = walk.truncated ∧
      scan.stats.truncated = walk.truncated ∧
      ∀ item ∈ walk.files, isSource registry item.name = true →
        scan.cache.find? (idOf root item) = some (Cache.textOf top.readText (idOf root item)) := by
  simp only [ofWalk, bind, Except.bind] at h
  split at h
  · cases h
  · cases h
    have htext : ∀ item ∈ walk.files, isSource registry item.name = true →
        (({} : Cache).getAll top.readText ((walk.files.filter fun item =>
          isManifest registry item.name || isSource registry item.name).map (idOf root))).find?
            (idOf root item) = some (Cache.textOf top.readText (idOf root item)) := by
      intro item hitem hsource
      refine Cache.find?_getAll_empty (List.mem_map_of_mem (List.mem_filter.mpr ⟨hitem, ?_⟩))
      simp [hsource]
    refine ⟨⟨?_, ?_, languages_eq _, rfl⟩, rfl, rfl, htext⟩
    · refine List.map_congr_left fun item hitem => ?_
      obtain ⟨hfile, hsource⟩ := List.mem_filter.mp hitem
      rw [htext item hfile hsource, Option.getD_some]
    · refine congrArg (List.map _) (List.filter_congr fun item _ => ?_)
      simp [isEntryPoint]

theorem ofWalk_rootManifests (h : ofWalk registry config top root walk = .ok scan)
    (hm : m ∈ scan.rootManifests) :
    ∃ item ∈ walk.files, item.name = m.1 ∧ isManifest registry m.1 = true := by
  simp only [ofWalk, bind, Except.bind] at h
  split at h
  · cases h
  · cases h
    obtain ⟨found, hfound, rfl⟩ := List.mem_map.mp hm
    obtain ⟨item, hitem, rfl⟩ := List.mem_map.mp (List.mem_filter.mp hfound).1
    obtain ⟨hfile, hmanifest⟩ := List.mem_filter.mp hitem
    exact ⟨item, hfile, rfl, hmanifest⟩

/-- A scan that returns is the scan of a walk below the resolved root. -/
theorem run_inv (h : run registry config top root = .ok scan) :
    ∃ base trail entries, top.resolve root = .ok base ∧ top.locate base = .ok trail ∧
      top.reached trail = .folder entries ∧
      ofWalk registry config top base
        (Walk.files top (skipsFolder registry) config.maxFiles.toNat trail entries) = .ok scan := by
  simp only [run, bind, Except.bind] at h
  cases hbase : top.resolve root with
  | error e => simp [hbase, Except.mapError] at h
  | ok base =>
    cases htrail : top.locate base with
    | error e => simp [hbase, htrail, Except.mapError] at h
    | ok trail =>
      simp only [hbase, htrail, Except.mapError] at h
      split at h
      · rename_i entries hfolder
        exact ⟨base, trail, entries, rfl, htrail, hfolder, h⟩
      · cases h

/-- The manifests among files, with the texts that the tree has for them. -/
def manifestsIn (registry : Registry) (top : Entry) (root : Path) (files : List WalkItem) :
    List (WalkItem × Text) :=
  manifests registry (fun item => Cache.textOf top.readText (idOf root item)) files

/-- The manifests are read one after the other, and the first one that fails stops the scan. -/
theorem ofWalk_reading (registry : Registry) (config : ScanConfig) (top : Entry) (root : Path)
    (walk : WalkResult) :
    match (readManifests (manifestsIn registry top root walk.files)).run.run [] with
    | (.ok detected, versions) => ∃ scan, ofWalk registry config top root walk = .ok scan ∧
        scan.versions = versions ∧ scan.stats.frameworks = detected.flatten.eraseDups
    | (.error e, _) => ofWalk registry config top root walk = .error (.manifest e) := by
  have htexts : manifests registry (fun item => ((({} : Cache).getAll top.readText
      ((walk.files.filter fun item => isManifest registry item.name ||
        isSource registry item.name).map (idOf root))).find? (idOf root item)).getD []) walk.files =
      manifestsIn registry top root walk.files := by
    refine List.map_congr_left fun item hitem => ?_
    obtain ⟨hfile, hmanifest⟩ := List.mem_filter.mp hitem
    have hneeded : idOf root item ∈ (walk.files.filter fun item => isManifest registry item.name ||
        isSource registry item.name).map (idOf root) :=
      List.mem_map_of_mem (List.mem_filter.mpr ⟨hfile, by simp [hmanifest]⟩)
    simp only [Cache.find?_getAll_empty hneeded, Option.getD_some]
  unfold ofWalk
  simp only [htexts]
  cases (readManifests (manifestsIn registry top root walk.files)).run.run [] with
  | mk result versions =>
    cases result with
    | ok detected => exact ⟨_, rfl, rfl, rfl⟩
    | error e => rfl

theorem ofWalk_returns {walk : WalkResult} (hmanifests : ∀ item ∈ walk.files,
      isManifest registry item.name = true → ∀ content versions, ∃ named after,
        (Manifest.read item.name content).run.run versions = (.ok named, after)) :
    ∃ scan, ofWalk registry config top root walk = .ok scan := by
  have hread : ∃ detected after,
      (readManifests (manifestsIn registry top root walk.files)).run.run [] =
        (.ok detected, after) := by
    refine Recording.run_mapM_ok (fun m hm => ?_) []
    obtain ⟨item, hitem, rfl⟩ := List.mem_map.mp hm
    obtain ⟨hfile, hmanifest⟩ := List.mem_filter.mp hitem
    exact hmanifests item hfile hmanifest _
  obtain ⟨detected, after, hread⟩ := hread
  have hscan := ofWalk_reading registry config top root walk
  rw [hread] at hscan
  obtain ⟨scan, hscan, -⟩ := hscan
  exact ⟨scan, hscan⟩

/-- A scan returns where the root is a folder and every manifest can be read. -/
theorem run_returns (config : ScanConfig) (hbase : top.resolve root = .ok base)
    (htrail : top.locate base = .ok trail) (hfolder : top.reached trail = .folder entries)
    (hmanifests : ∀ name content, isManifest registry name = true → ∀ versions, ∃ named after,
      (Manifest.read name content).run.run versions = (.ok named, after)) :
    ∃ scan, run registry config top root = .ok scan := by
  simp only [run, hbase, htrail, hfolder, Except.mapError, bind, Except.bind]
  exact ofWalk_returns fun item _ hmanifest content => hmanifests item.name content hmanifest

theorem run_texts {source : Node} (h : run registry config top root = .ok scan)
    (hsource : source ∈ scan.nodes) :
    scan.cache.find? source.id = some (Cache.textOf top.readText source.id) := by
  obtain ⟨base, trail, entries, -, -, -, hscan⟩ := run_inv h
  obtain ⟨hreports, -, -, hcache⟩ := ofWalk_reports hscan
  rw [hreports.nodes] at hsource
  obtain ⟨item, hitem, rfl⟩ := List.mem_map.mp hsource
  obtain ⟨hfile, hkept⟩ := List.mem_filter.mp hitem
  exact hcache item hfile hkept

theorem run_rootManifests (h : run registry config top root = .ok scan)
    (hm : m ∈ scan.rootManifests) : isManifest registry m.1 = true := by
  obtain ⟨base, trail, entries, -, -, -, hscan⟩ := run_inv h
  obtain ⟨-, -, -, hmanifest⟩ := ofWalk_rootManifests hscan hm
  exact hmanifest

theorem run_returns_of_no_manifest (hw : top.WellFormed) (hbase : top.resolve root = .ok base)
    (htrail : top.locate base = .ok trail) (hfolder : top.reached trail = .folder entries)
    (hlisting : FolderListing top (skipsFolder registry) trail [] entries listing)
    (hnone : ∀ item ∈ listing, isManifest registry item.name = false) :
    ∃ scan, run registry config top root = .ok scan ∧ scan.rootManifests = [] := by
  have hroot := Entry.folder_wellFormed hw htrail hfolder
  have hvisited : ∀ item ∈ (Walk.files top (skipsFolder registry) config.maxFiles.toNat trail
      entries).files, isManifest registry item.name ≠ true := by
    rw [Walk.files_of_listing hroot hlisting]
    intro item hitem
    simp [hnone item (List.mem_of_mem_take hitem)]
  obtain ⟨scan, hscan⟩ := ofWalk_returns fun item hitem hmanifest =>
    absurd hmanifest (hvisited item hitem)
  refine ⟨scan, ?_, List.eq_nil_iff_forall_not_mem.mpr fun m hm => ?_⟩
  · simp only [run, hbase, htrail, hfolder, Except.mapError, bind, Except.bind]
    exact hscan
  · obtain ⟨item, hitem, hname, hmanifest⟩ := ofWalk_rootManifests hscan hm
    exact hvisited item hitem (hname ▸ hmanifest)

/-- A scan that returns reports on the files of a listing, up to its limit. -/
theorem run_listing (h : run registry config top root = .ok scan) :
    ∃ base trail entries listing, top.locate base = .ok trail ∧
      top.reached trail = .folder entries ∧
      FolderListing top (skipsFolder registry) trail [] entries listing ∧
      Reports registry config top base (listing.take config.maxFiles.toNat) scan := by
  obtain ⟨base, trail, entries, -, htrail, hfolder, hscan⟩ := run_inv h
  obtain ⟨listing, hlisting, hfiles⟩ := Walk.files_eq top (skipsFolder registry) trail entries
  rw [hfiles] at hscan
  exact ⟨base, trail, entries, listing, htrail, hfolder, hlisting, (ofWalk_reports hscan).1⟩

theorem run_length (h : run registry config top root = .ok scan) :
    scan.nodes.length ≤ config.maxFiles.toNat := by
  obtain ⟨_, _, _, listing, -, -, -, hreports⟩ := run_listing h
  rw [hreports.nodes, List.length_map]
  exact Nat.le_trans (List.length_filter_le _ _) (List.length_take_le _ _)

theorem run_ids (hw : top.WellFormed) (h : run registry config top root = .ok scan) :
    (scan.nodes.map (·.id)).Nodup ∧ ∀ node ∈ scan.nodes, node.id ≠ [] := by
  obtain ⟨base, trail, entries, listing, htrail, hfolder, hlisting, hreports⟩ := run_listing h
  have hroot := Entry.folder_wellFormed hw htrail hfolder
  have hsub : ((listing.take config.maxFiles.toNat).filter fun item =>
      isSource registry item.name).Sublist listing :=
    List.filter_sublist.trans (List.take_sublist _ _)
  have hrelative := fun item (hitem : item ∈ _) => hlisting.relative hroot (hsub.mem hitem)
  rw [hreports.nodes]
  constructor
  · rw [List.map_map, List.Nodup, List.pairwise_map]
    have hpaths := List.pairwise_map.mp (hlisting.nodup_paths hroot)
    refine (hpaths.sublist hsub).imp_of_mem fun {a b} ha hb hab hids => hab ?_
    exact Path.join_injective base (hrelative a ha).2 (hrelative b hb).2 hids
  · intro node hnode
    obtain ⟨item, hitem, rfl⟩ := List.mem_map.mp hnode
    exact Path.join_ne_nil base (hrelative item hitem).1

theorem run_id_of_path (h : run registry config top root = .ok scan) (ha : a ∈ scan.nodes)
    (hb : b ∈ scan.nodes) (hpath : a.path = b.path) : a.id = b.id := by
  obtain ⟨base, _, _, _, -, -, -, hreports⟩ := run_listing h
  rw [hreports.nodes] at ha hb
  obtain ⟨item, -, rfl⟩ := List.mem_map.mp ha
  obtain ⟨item', -, rfl⟩ := List.mem_map.mp hb
  exact congrArg (Path.join base) hpath

/-- In a well-formed tree the files that are reported on are read off the listing. -/
theorem run_reports (hw : top.WellFormed) (hbase : top.resolve root = .ok base)
    (htrail : top.locate base = .ok trail) (hfolder : top.reached trail = .folder entries)
    (hlisting : FolderListing top (skipsFolder registry) trail [] entries listing)
    (h : run registry config top root = .ok scan) :
    Reports registry config top base (listing.take config.maxFiles.toNat) scan := by
  obtain ⟨base', trail', entries', hbase', htrail', hfolder', hscan⟩ := run_inv h
  cases hbase.symm.trans hbase'
  cases htrail.symm.trans htrail'
  cases hfolder.symm.trans hfolder'
  rw [Walk.files_of_listing (Entry.folder_wellFormed hw htrail hfolder) hlisting] at hscan
  exact (ofWalk_reports hscan).1

/-- A repository of source files alone has a node for each of them. -/
theorem run_sources (hw : top.WellFormed) (hbase : top.resolve root = .ok base)
    (htrail : top.locate base = .ok trail) (hfolder : top.reached trail = .folder entries)
    (hlisting : FolderListing top (skipsFolder registry) trail [] entries listing)
    (hlimit : listing.length ≤ config.maxFiles.toNat)
    (hsources : ∀ item ∈ listing, isManifest registry item.name = false ∧
      isSource registry item.name = true) :
    ∃ scan, run registry config top root = .ok scan ∧ scan.rootManifests = [] ∧
      scan.nodes = listing.map fun item =>
        node base (Cache.textOf top.readText (idOf base item)) item := by
  obtain ⟨scan, hscan, hmanifests⟩ := run_returns_of_no_manifest hw hbase htrail hfolder hlisting
    fun item hitem => (hsources item hitem).1
  refine ⟨scan, hscan, hmanifests, ?_⟩
  rw [(run_reports hw hbase htrail hfolder hlisting hscan).nodes, List.take_of_length_le hlimit,
    List.filter_eq_self.mpr fun item hitem => (hsources item hitem).2]

/-- What a longer walk adds comes after what a shorter one reports. -/
theorem Reports.extends {config' : ScanConfig} (h : Reports registry config top root front scan)
    (h' : Reports registry config' top root all scan') (hfront : front <+: all)
    (hdepth : config'.entryPointDepth = config.entryPointDepth) :
    scan.nodes <+: scan'.nodes ∧ scan.stats.entryPoints <+: scan'.stats.entryPoints := by
  rw [h.nodes, h'.nodes, h.entryPoints, h'.entryPoints, hdepth]
  exact ⟨(hfront.filter _).map _, (hfront.filter _).map _⟩

end

-- -------------------------------------
-- A small repository
-- -------------------------------------

namespace Sample

def registry : Registry := .ofList [{ Language.javaScript with manifests := [] }]

def importing (name : String) : Entry :=
  .file (Encoding.encodeUtf8 ("import x from './".toList ++ name.toList ++ ['\'']))

def docs : List (Text × Entry) := [("a.md".toList, .file [])]

/-- Two files that import each other, a folder, and a folder that is left out. -/
def entries : List (Text × Entry) :=
  [("b.js".toList, importing "a"), ("a.js".toList, importing "b"), ("docs".toList, .folder docs),
    ("old.egg-info".toList, .folder [("c.js".toList, .file [])])]

def top : Entry := .folder [("repo".toList, .folder entries)]

def trail : Entry.Trail := [("repo".toList, .folder entries)]

theorem wellFormed : top.WellFormed := by
  have hdocs : (Entry.folder docs).WellFormed :=
    Entry.WellFormed.folder_cons_iff.mpr ⟨by decide, by decide, .file _, .folder_nil⟩
  have hold : (Entry.folder [("c.js".toList, .file [])]).WellFormed :=
    Entry.WellFormed.folder_cons_iff.mpr ⟨by decide, by decide, .file _, .folder_nil⟩
  refine Entry.WellFormed.folder_cons_iff.mpr ⟨by decide, by decide, ?_, .folder_nil⟩
  refine Entry.WellFormed.folder_cons_iff.mpr ⟨by decide, by decide, .file _, ?_⟩
  refine Entry.WellFormed.folder_cons_iff.mpr ⟨by decide, by decide, .file _, ?_⟩
  refine Entry.WellFormed.folder_cons_iff.mpr ⟨by decide, by decide, hdocs, ?_⟩
  exact Entry.WellFormed.folder_cons_iff.mpr ⟨by decide, by decide, hold, .folder_nil⟩

/-- The files of the repository; the folder comes first. -/
def listing : List WalkItem :=
  WalkItem.ofChild (("docs".toList, .folder docs) :: trail) "docs".toList
      ("a.md".toList, .file []) ::
    [("a.js".toList, importing "b"), ("b.js".toList, importing "a")].map
      (WalkItem.ofChild trail [])

theorem folderListing : FolderListing top (skipsFolder registry) trail [] entries listing := by
  have hdocs : Preorder top (skipsFolder registry) (listing.take 1) (listing.take 1) :=
    .file rfl .nil
  have hfiles : Preorder top (skipsFolder registry) (listing.drop 1) (listing.drop 1) :=
    .file rfl (.file rfl .nil)
  have hinside : WalkItem.Listed top (skipsFolder registry) (("docs".toList, .folder docs) :: trail)
      "docs".toList docs (listing.take 1) := ⟨.refl _, by decide +kernel⟩
  refine ⟨_, ⟨List.reverse_perm _, by decide +kernel⟩, ?_⟩
  show Preorder top (skipsFolder registry)
    (WalkItem.ofChild trail [] ("docs".toList, .folder docs) :: listing.drop 1) _
  exact .folder rfl hinside hdocs hfiles

theorem resolve_root : top.resolve "/repo".toList = .ok "/repo".toList := by rfl

theorem locate_root : top.locate "/repo".toList = .ok trail := by rfl

theorem reached_root : top.reached trail = .folder entries := by rfl

theorem no_manifests (name : Text) : isManifest registry name ≠ true := Bool.false_ne_true

theorem returns (config : ScanConfig) :
    ∃ scan, run registry config top "/repo".toList = .ok scan :=
  run_returns config resolve_root locate_root reached_root fun name _ hname =>
    absurd hname (no_manifests name)

/-- The node of a file in the root. -/
def sourceNode (name other : String) : Node :=
  node "/repo".toList (Cache.textOf top.readText (Path.join "/repo".toList name.toList))
    (WalkItem.ofChild trail [] (name.toList, importing other))

theorem nodes_eq (h : run registry {} top "/repo".toList = .ok scan) :
    scan.nodes = [sourceNode "a.js" "b", sourceNode "b.js" "a"] := by
  rw [(run_reports wellFormed resolve_root locate_root reached_root folderListing h).nodes]
  rfl

end Sample

end RepoAtlas.Scan
