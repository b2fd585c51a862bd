import RepoAtlas.Proofs.Analysis.Returns
import RepoAtlas.Proofs.Files.Resolve

/-!
# When the ids of edges differ

The id of an edge is made of the paths of its ends, with a dash between them.
`Analysis.run_edgeIds`: two edges have the same id only if one of them starts at a file and the other
one below a folder that is named like this file with a dash at its end. Where there are no such
folders, ids tell edges apart.
-/

namespace RepoAtlas

/-- Two ways to read a text as two parts with a separator between them. -/
theorem Text.append_cons_eq_iff {sep : Char} {a b c d : Text} :
    a ++ sep :: b = c ++ sep :: d ↔ (a = c ∧ b = d) ∨
      (∃ middle, c = a ++ sep :: middle ∧ b = middle ++ sep :: d) ∨
      ∃ middle, a = c ++ sep :: middle ∧ d = middle ++ sep :: b := by
  constructor
  · intro h
    rcases List.append_eq_append_iff.mp h with ⟨between, hc, hb⟩ | ⟨between, ha, hd⟩
    · cases between with
      | nil =>
        rw [List.append_nil] at hc
        exact .inl ⟨hc.symm, (List.cons.inj hb).2⟩
      | cons first middle =>
        obtain ⟨rfl, hrest⟩ := List.cons.inj hb
        exact .inr (.inl ⟨middle, hc, hrest⟩)
    · cases between with
      | nil =>
        rw [List.append_nil] at ha
        exact .inl ⟨ha, (List.cons.inj hd).2.symm⟩
      | cons first middle =>
        obtain ⟨rfl, hrest⟩ := List.cons.inj hd
        exact .inr (.inr ⟨middle, ha, hrest⟩)
  · rintro (⟨rfl, rfl⟩ | ⟨middle, rfl, rfl⟩ | ⟨middle, rfl, rfl⟩)
    · rfl
    · simp
    · simp

namespace Edge

/-- The ends of two edges make the same text although the first source ends before the second. -/
def Overlaps (e e' : Edge) : Prop :=
  ∃ middle, e'.source = e.source ++ '-' :: middle ∧ e.target = middle ++ '-' :: e'.target

theorem id_of_mem_ofFindings {found : Node → Findings}
    (he : e ∈ ofFindings nodes (nodes.map found)) : e.id = e.source ++ '-' :: e.target := by
  rw [ofFindings_map, List.mem_flatMap] at he
  obtain ⟨node, -, he⟩ := he
  obtain ⟨t, -, rfl⟩ := List.mem_map.mp he
  rfl

/-- The target of the first edge is absolute, so that a folder begins behind the dash. -/
theorem Overlaps.below {e e' : Edge} (h : e.Overlaps e') (habsolute : e.target.head? = some '/') :
    e.source ++ ['-', '/'] <+: e'.source := by
  obtain ⟨middle, hsource, htarget⟩ := h
  cases middle with
  | nil =>
    rw [htarget] at habsolute
    cases habsolute
  | cons first rest =>
    rw [htarget] at habsolute
    obtain rfl : first = '/' := Option.some.inj habsolute
    exact ⟨rest, by simp [hsource]⟩

end Edge

/-- What the ids of the edges of a graph say. -/
structure Graph.EdgeIds (g : Graph) : Prop where
  composed : ∀ e ∈ g.edges, e.id = e.source ++ '-' :: e.target
  shared : ∀ e ∈ g.edges, ∀ e' ∈ g.edges,
    e.id = e'.id ↔ (e.source, e.target) = (e'.source, e'.target) ∨ e.Overlaps e' ∨ e'.Overlaps e
  below : ∀ e ∈ g.edges, ∀ e' ∈ g.edges, e.Overlaps e' → e.source ++ ['-', '/'] <+: e'.source
  different : (∀ a ∈ g.nodes, ∀ b ∈ g.nodes, ¬a.id ++ ['-', '/'] <+: b.id) →
    (g.edges.map (·.id)).Nodup

/-- Where sources are absolute paths and no two edges join the same files, only folders that are
named like files with a dash at the end make edges share ids. -/
theorem Graph.edgeIds {g : Graph} (hids : ∀ e ∈ g.edges, e.id = e.source ++ '-' :: e.target)
    (hends : ∀ e ∈ g.edges, e.source ∈ g.nodes.map (·.id) ∧ e.target ∈ g.nodes.map (·.id))
    (hpairs : (g.edges.map fun e => (e.source, e.target)).Nodup)
    (habsolute : ∀ node ∈ g.nodes, node.id.head? = some '/') : g.EdgeIds := by
  have hshared : ∀ e ∈ g.edges, ∀ e' ∈ g.edges, e.id = e'.id ↔
      (e.source, e.target) = (e'.source, e'.target) ∨ e.Overlaps e' ∨ e'.Overlaps e := by
    intro e he e' he'
    rw [hids e he, hids e' he', Text.append_cons_eq_iff, Prod.mk.injEq]
    rfl
  have hbelow : ∀ e ∈ g.edges, ∀ e' ∈ g.edges, e.Overlaps e' →
      e.source ++ ['-', '/'] <+: e'.source := by
    intro e he e' he' h
    obtain ⟨node, hnode, htarget⟩ := List.mem_map.mp (hends e he).2
    exact h.below (htarget ▸ habsolute node hnode)
  refine ⟨hids, hshared, hbelow, fun hnone => ?_⟩
  have hapart : ∀ e ∈ g.edges, ∀ e' ∈ g.edges, ¬e.Overlaps e' := by
    intro e he e' he' h
    obtain ⟨a, ha, hsource⟩ := List.mem_map.mp (hends e he).1
    obtain ⟨b, hb, hsource'⟩ := List.mem_map.mp (hends e' he').1
    have hprefix := hbelow e he e' he' h
    rw [← hsource, ← hsource'] at hprefix
    exact hnone a ha b hb hprefix
  rw [List.Nodup, List.pairwise_map]
  refine (List.pairwise_map.mp hpairs).imp_of_mem fun {e e'} he he' hne hid => ?_
  rcases (hshared e he e' he').mp hid with hsame | hoverlap | hoverlap
  · exact hne hsame
  · exact hapart e he e' he' hoverlap
  · exact hapart e' he' e he hoverlap

theorem Scan.run_absolute {node : Node} (h : run registry config top root = .ok scan)
    (hnode : node ∈ scan.nodes) : node.id.head? = some '/' := by
  obtain ⟨base, trail, entries, hbase, -, -, hscan⟩ := run_inv h
  rw [(ofWalk_reports hscan).1.nodes] at hnode
  obtain ⟨item, -, rfl⟩ := List.mem_map.mp hnode
  exact Path.head?_join (Entry.resolve_absolute hbase) item.path

namespace Analysis

section
variable {registry : Registry} {config : Config} {order : List Nat → List Nat} {top : Entry}
  {root : Path} {scan : Scan} {g : Graph}

/-- In every graph that is returned, edges with different ends share an id exactly if one overlaps
the other, for which there has to be a folder named like a file with a dash at its end. -/
theorem run_edgeIds (hw : top.WellFormed) (horder : ∀ places, (order places).Perm places)
    (hconfig : config.check = .ok config) (h : run registry config order top root = .ok g) :
    g.EdgeIds := by
  rcases run_inv h with rfl | ⟨scan, hscan, hg⟩
  · constructor <;> simp
  · obtain ⟨hedges, hids⟩ := ofScan_ids horder hconfig hg
    refine Graph.edgeIds ?_ ?_ ?_ ?_
    · rw [hedges]
      exact fun e he => Edge.id_of_mem_ofFindings he
    · rw [hedges, hids]
      exact fun e he => ⟨(edgesOf_ends he).1, (edgesOf_ends he).2.1⟩
    · rw [hedges]
      exact Edge.nodup_ofFindings (Scan.run_ids hw hscan).1
    · intro node hnode
      have hmem : node.id ∈ scan.nodes.map (·.id) := hids ▸ List.mem_map_of_mem hnode
      obtain ⟨scanned, hscanned, hid⟩ := List.mem_map.mp hmem
      exact hid ▸ Scan.run_absolute hscan hscanned

end

theorem run_edgeIds_sample : ∃ g,
    run Scan.Sample.registry {} List.reverse Scan.Sample.top "/repo".toList = .ok g ∧
      (∃ e ∈ g.edges, e.id = "/repo/a.js-/repo/b.js".toList) ∧ (g.edges.map (·.id)).Nodup := by
  obtain ⟨g, hg, hids, ⟨e, he, hsource, htarget⟩, -⟩ := Sample.exists_graph List.reverse_perm
  have hedgeIds := run_edgeIds Scan.Sample.wellFormed List.reverse_perm (by rfl) hg
  refine ⟨g, hg, ⟨e, he, ?_⟩, hedgeIds.different fun a ha b hb hprefix => ?_⟩
  · rw [hedgeIds.composed e he, hsource, htarget]
    decide +kernel
  · have hnone : ∀ s ∈ ["/repo/a.js".toList, "/repo/b.js".toList],
        ∀ t ∈ ["/repo/a.js".toList, "/repo/b.js".toList], ¬s ++ ['-', '/'] <+: t := by
      decide +kernel
    exact hnone a.id (hids ▸ List.mem_map_of_mem ha) b.id (hids ▸ List.mem_map_of_mem hb) hprefix

-- -------------------------------------
-- Two edges with one id
-- -------------------------------------

namespace DashSample

open Scan (skipsFolder idOf)

def importing (path : String) : List UInt8 :=
  Encoding.encodeUtf8 ("import '".toList ++ path.toList ++ ['\''])

/-- A file in a folder named like the repository. -/
def branch (file : Text × Entry) : List (Text × Entry) := [("repo".toList, .folder [file])]

def innerFile : Text × Entry := ("y.js".toList, .file (importing "../../z.js"))

def otherFile : Text × Entry := ("z.js".toList, .file [])

def outerFile : Text × Entry := ("x.js".toList, .file (importing "./y.js-/repo/z.js"))

/-- The folders `x.js-` and `y.js-` are named like files with dashes at the end. -/
def entries : List (Text × Entry) :=
  [("x.js-".toList, .folder (branch innerFile)), ("y.js-".toList, .folder (branch otherFile)),
    outerFile, otherFile]

def trail : Entry.Trail := [("repo".toList, .folder entries)]

def top : Entry := .folder trail

theorem wellFormed : top.WellFormed := by
  have hone : ∀ {name : Text} {e : Entry}, Entry.IsName name → e.WellFormed →
      (Entry.folder [(name, e)]).WellFormed := fun hname hw =>
    Entry.WellFormed.folder_cons_iff.mpr ⟨hname, List.not_mem_nil, hw, .folder_nil⟩
  have hinner : (Entry.folder (branch innerFile)).WellFormed :=
    hone (by decide) (hone (by decide) (.file _))
  have hother : (Entry.folder (branch otherFile)).WellFormed :=
    hone (by decide) (hone (by decide) (.file _))
  refine hone (by decide) ?_
  refine Entry.WellFormed.folder_cons_iff.mpr ⟨by decide, by decide, hinner, ?_⟩
  refine Entry.WellFormed.folder_cons_iff.mpr ⟨by decide, by decide, hother, ?_⟩
  exact Entry.WellFormed.folder_cons_iff.mpr
    ⟨by decide, by decide, .file _, hone (by decide) (.file _)⟩

/-- The file of a branch. -/
def bottom (name : Text) (file : Text × Entry) : WalkItem :=
  WalkItem.ofChild (("repo".toList, .folder [file]) :: (name, .folder (branch file)) :: trail)
    (childPath name "repo".toList) file

def listing : List WalkItem :=
  [bottom "x.js-".toList innerFile, bottom "y.js-".toList otherFile,
    WalkItem.ofChild trail [] outerFile, WalkItem.ofChild trail [] otherFile]

theorem branch_listing (name file : Text) (bytes : List UInt8) :
    FolderListing top (skipsFolder .stock) ((name, .folder (branch (file, .file bytes))) :: trail)
      name (branch (file, .file bytes)) [bottom name (file, .file bytes)] := by
  have hfile : Preorder top (skipsFolder .stock) [bottom name (file, .file bytes)]
      [bottom name (file, .file bytes)] := .file rfl .nil
  have hinside : WalkItem.Listed top (skipsFolder .stock)
      (("repo".toList, .folder [(file, .file bytes)]) ::
        (name, .folder (branch (file, .file bytes))) :: trail)
      (childPath name "repo".toList) [(file, .file bytes)] [bottom name (file, .file bytes)] :=
    WalkItem.listed_of_sorted rfl (List.pairwise_singleton _ _)
  refine ⟨_, WalkItem.listed_of_sorted (by rfl) (List.pairwise_singleton _ _), ?_⟩
  exact .folder rfl hinside hfile .nil

theorem folderListing : FolderListing top (skipsFolder .stock) trail [] entries listing := by
  obtain ⟨inside, hinside, hinner⟩ := branch_listing "x.js-".toList "y.js".toList _
  obtain ⟨inside', hinside', hother⟩ := branch_listing "y.js-".toList "z.js".toList _
  refine ⟨_, WalkItem.listed_of_sorted (by rfl) (by decide +kernel), ?_⟩
  exact .folder rfl hinside hinner (.folder rfl hinside' hother (.file rfl (.file rfl .nil)))

def nodeOf (item : WalkItem) : Node :=
  Scan.node "/repo".toList (Cache.textOf top.readText (idOf "/repo".toList item)) item

theorem exists_scan : ∃ scan,
    Scan.run .stock ({} : Config).scan top "/repo".toList = .ok scan ∧
      scan.rootManifests = [] ∧ scan.nodes = listing.map nodeOf :=
  Scan.run_sources wellFormed (by rfl) (by rfl) (by rfl) folderListing (by decide)
    (by decide +kernel)

/-- The file `x.js` imports one file, and the file in `x.js-` another. -/
theorem exists_edges (hscan : Scan.run .stock ({} : Config).scan top "/repo".toList = .ok scan)
    (hnodes : scan.nodes = listing.map nodeOf) :
    (∃ e ∈ edgesOf .stock scan, e.source = "/repo/x.js".toList ∧
        e.target = "/repo/y.js-/repo/z.js".toList) ∧
      ∃ e ∈ edgesOf .stock scan, e.source = "/repo/x.js-/repo/y.js".toList ∧
        e.target = "/repo/z.js".toList := by
  have hids := (Scan.run_ids wellFormed hscan).1
  have hindex : (indexOf .stock scan.nodes).id? = fun file =>
      (List.lookup file (listing.reverse.map fun item =>
        (item.path, idOf "/repo".toList item))).filter fun id => !id.isEmpty := by
    rw [indexOf, FileIndex.id?_ofList, hnodes]
    rfl
  have houter : nodeOf (WalkItem.ofChild trail [] outerFile) ∈ scan.nodes := by
    simp [hnodes, listing]
  have hinner : nodeOf (bottom "x.js-".toList innerFile) ∈ scan.nodes := by
    simp [hnodes, listing]
  constructor
  · refine (exists_edge_iff hids houter (by decide)).mpr
      ⟨by decide +kernel, ⟨"./y.js-/repo/z.js".toList, []⟩, ?_, ?_⟩
    · rw [textIn_eq hscan houter]
      decide +kernel
    · show (FileIndex.spots .javaScript "y.js-/repo/z.js".toList).findSome?
        (indexOf .stock scan.nodes).id? = _
      rw [hindex]
      decide +kernel
  · refine (exists_edge_iff hids hinner (by decide)).mpr
      ⟨by decide +kernel, ⟨"../../z.js".toList, []⟩, ?_, ?_⟩
    · rw [textIn_eq hscan hinner]
      decide +kernel
    · show (FileIndex.spots .javaScript "z.js".toList).findSome?
        (indexOf .stock scan.nodes).id? = _
      rw [hindex]
      decide +kernel

end DashSample

/-- Two edges between different files with one id. -/
theorem run_edgeIds_dashes : ∃ g,
    run .stock {} id DashSample.top "/repo".toList = .ok g ∧
      ∃ e ∈ g.edges, ∃ e' ∈ g.edges, (e.source, e.target) ≠ (e'.source, e'.target) ∧
        e.id = "/repo/x.js-/repo/y.js-/repo/z.js".toList ∧ e'.id = e.id := by
  obtain ⟨scan, hscan, hmanifests, hnodes⟩ := DashSample.exists_scan
  have horder : ∀ places : List Nat, (id places).Perm places := fun _ => .refl _
  obtain ⟨g, hg⟩ := Sample.ofScan_ok DashSample.wellFormed horder hscan hmanifests
  obtain ⟨⟨e, he, hsource, htarget⟩, e', he', hsource', htarget'⟩ :=
    DashSample.exists_edges hscan hnodes
  obtain ⟨hedges, -⟩ := ofScan_ids horder rfl hg
  have hid := Edge.id_of_mem_ofFindings he
  have hid' := Edge.id_of_mem_ofFindings he'
  rw [hsource, htarget] at hid
  rw [hsource', htarget'] at hid'
  refine ⟨g, (run_eq hscan).trans hg, e, hedges ▸ he, e', hedges ▸ he', ?_, ?_, ?_⟩
  · rw [hsource, hsource', htarget, htarget']
    decide +kernel
  · rw [hid]
    decide +kernel
  · rw [hid, hid']
    decide +kernel

end Analysis

end RepoAtlas
