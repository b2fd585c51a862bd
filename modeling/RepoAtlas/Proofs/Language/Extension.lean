import Mathlib.Data.List.TakeWhile
import RepoAtlas.Proofs.Files.Place
import RepoAtlas.Proofs.Scan
import RepoAtlas.Proofs.Text.Case

/-!
# The language of a file, by three extensions

The language of a file is looked up by the suffix of its name, by the extension of its node, and by
the extension that its path ends in. `Scan.run_language`: the first two give every node the same
language. The third does too, unless nothing but dots stands in front of the last dot of the name:
to such a file, `..go` say, it gives none.
-/

namespace RepoAtlas

namespace Path

theorem getLast?_segments (p : Path) : (segments p).getLast? = some (name p) := by
  by_cases hslash : '/' ∈ p
  · obtain ⟨rest, hrest⟩ := Text.takeWhile_bne_append (List.mem_reverse.mpr hslash)
    have hp : p = rest.reverse ++ '/' :: name p := by
      simpa [name] using congrArg List.reverse hrest
    have hsplit := Text.splitOn_append '/' rest.reverse (name p)
    rw [← hp, Text.splitOn_of_not_mem (slash_not_mem_name p)] at hsplit
    rw [segments, hsplit, List.getLast?_concat]
  · have hname : name p = p := by
      have hall : ∀ c ∈ p.reverse, (c != '/') = true := by
        intro c hc
        simpa using ne_of_mem_of_not_mem (List.mem_reverse.mp hc) hslash
      rw [name, List.takeWhile_eq_self_iff.mpr hall, List.reverse_reverse]
    rw [segments, Text.splitOn_of_not_mem hslash, hname]
    rfl

theorem name_eq_of_getLast? {p : Path} {last : Text} (h : (parts p).getLast? = some last) :
    name p = last := by
  unfold parts at h
  split at h
  · cases h
  · exact Option.some.inj ((getLast?_segments p).symm.trans h)

/-- A suffix begins at the last dot, with something in front of the dot. -/
theorem suffix_ne_nil {file : Text} (h : suffix file ≠ []) :
    ∃ stem ext, Text.cutLast? '.' file = some (stem, ext) ∧ stem ≠ [] ∧ suffix file = '.' :: ext := by
  unfold suffix at h ⊢
  cases hcut : Text.cutLast? '.' file with
  | none => simp [hcut] at h
  | some parts =>
    obtain ⟨stem, ext⟩ := parts
    simp only [hcut] at h ⊢
    split at h
    · exact absurd rfl h
    · rename_i hnil
      refine ⟨stem, ext, rfl, ?_, if_neg hnil⟩
      rintro rfl
      exact hnil rfl

/-- A name has a dot behind its leading dots unless only dots stand in front of its last one. -/
theorem dot_mem_dropWhile {file stem ext : Text}
    (h : Text.cutLast? '.' file = some (stem, ext)) :
    '.' ∈ file.dropWhile (· == '.') ↔ ¬stem.all (· == '.') = true := by
  obtain ⟨rfl, hext⟩ := Text.cutLast?_eq_some h
  rw [List.dropWhile_append]
  split
  · rename_i hnil
    have hall : stem.all (· == '.') = true := by
      simpa [List.dropWhile_eq_nil_iff] using hnil
    have hrest : '.' ∉ ext.dropWhile (· == '.') :=
      fun hmem => hext ((List.dropWhile_suffix _).mem hmem)
    simp [hall, hrest]
  · rename_i hnil
    have hall : ¬stem.all (· == '.') = true := by
      simpa [List.dropWhile_eq_nil_iff] using hnil
    simp [hall]

/-- The extension that a path ends in is the suffix of its name, but for leading dots. -/
theorem splitExtension_snd {p : Path} (h : suffix (name p) ≠ []) :
    (splitExtension p).2 =
      if '.' ∈ (name p).dropWhile (· == '.') then suffix (name p) else [] := by
  obtain ⟨stem, ext, hcut, -, hsuffix⟩ := suffix_ne_nil h
  simp only [dot_mem_dropWhile hcut, hsuffix, splitExtension, hcut]
  split <;> simp_all

end Path

theorem labelExtension_eq {name : Text} (h : Path.suffix name ≠ []) :
    labelExtension name = Scan.extensionOf name := by
  obtain ⟨stem, ext, hcut, hstem, hsuffix⟩ := Path.suffix_ne_nil h
  simp [labelExtension, Scan.extensionOf, hcut, hstem, hsuffix]

namespace Registry

variable {registry : Registry}

theorem find?_lower (registry : Registry) (ext : Text) :
    registry.find? (Text.lower ext) = registry.find? ext := by
  rw [find?, find?, Text.lower_lower]

theorem stock_find?_nil : stock.find? [] = none := by rfl

end Registry

namespace Scan

section
variable {registry : Registry} {config : ScanConfig} {top : Entry} {root : Path} {scan : Scan}
  {node : Node}

/-- A node is labelled by the name of a source file, which ends its path. -/
theorem run_label (hw : top.WellFormed) (h : run registry config top root = .ok scan)
    (hnode : node ∈ scan.nodes) :
    isSource registry node.label = true ∧ Path.name node.path = node.label := by
  obtain ⟨base, trail, entries, listing, htrail, hfolder, hlisting, hreports⟩ := run_listing h
  have hroot := Entry.folder_wellFormed hw htrail hfolder
  rw [hreports.nodes] at hnode
  obtain ⟨item, hitem, rfl⟩ := List.mem_map.mp hnode
  obtain ⟨hvisited, hsource⟩ := List.mem_filter.mp hitem
  exact ⟨hsource, Path.name_eq_of_getLast?
    (hlisting.getLast?_parts hroot (List.mem_of_mem_take hvisited))⟩

theorem suffix_ne_nil_of_isSource (hempty : registry.find? [] = none)
    (h : isSource registry name = true) : Path.suffix name ≠ [] := by
  intro hnil
  have hext : extensionOf name = [] := by rw [extensionOf, hnil]; rfl
  rw [isSource, hext, hempty] at h
  cases h

/-- A node has the same language by the suffix of its name and by its extension. It has this
language by the extension of its path if the name has a dot behind its leading dots, and else
none. -/
theorem run_language (hw : top.WellFormed) (h : run .stock config top root = .ok scan)
    (hnode : node ∈ scan.nodes) :
    ∃ language, Registry.stock.find? (extensionOf node.label) = some language ∧
      Registry.stock.find? node.extension = some language ∧
      Path.name node.path = node.label ∧
      Registry.stock.find? (Path.splitExtension node.path).2 =
        if '.' ∈ node.label.dropWhile (· == '.') then some language else none := by
  obtain ⟨hsource, hname⟩ := run_label hw h hnode
  have hsuffix := suffix_ne_nil_of_isSource Registry.stock_find?_nil hsource
  obtain ⟨language, hlanguage⟩ := Option.isSome_iff_exists.mp hsource
  refine ⟨language, hlanguage, ?_, hname, ?_⟩
  · rw [Node.extension, labelExtension_eq hsuffix]
    exact hlanguage
  · rw [Path.splitExtension_snd (hname ▸ hsuffix), hname]
    split
    · rw [← Registry.find?_lower]
      exact hlanguage
    · exact Registry.stock_find?_nil

end

-- -------------------------------------
-- A file whose name starts with two dots
-- -------------------------------------

namespace DottedSample

def dottedFile : Text × Entry := ("..go".toList, .file (Encoding.encodeUtf8 "package x\n".toList))

def mainFile : Text × Entry :=
  ("main.go".toList, .file (Encoding.encodeUtf8 "import \"m/x\"\neval(x)\n".toList))

/-- A package whose only file has no name in front of its extension, and a file that imports it. -/
def entries : List (Text × Entry) := [("x".toList, .folder [dottedFile]), mainFile]

def trail : Entry.Trail := [("repo".toList, .folder entries)]

def top : Entry := .folder trail

theorem wellFormed : top.WellFormed := by
  have hpackage : (Entry.folder [dottedFile]).WellFormed :=
    Entry.WellFormed.folder_cons_iff.mpr ⟨by decide, by decide, .file _, .folder_nil⟩
  refine Entry.WellFormed.folder_cons_iff.mpr ⟨by decide, by decide, ?_, .folder_nil⟩
  refine Entry.WellFormed.folder_cons_iff.mpr ⟨by decide, by decide, hpackage, ?_⟩
  exact Entry.WellFormed.folder_cons_iff.mpr ⟨by decide, by decide, .file _, .folder_nil⟩

def dotted : WalkItem :=
  WalkItem.ofChild (("x".toList, .folder [dottedFile]) :: trail) "x".toList dottedFile

def main : WalkItem := WalkItem.ofChild trail [] mainFile

theorem folderListing :
    FolderListing top (skipsFolder .stock) trail [] entries [dotted, main] := by
  have hinside : WalkItem.Listed top (skipsFolder .stock)
      (("x".toList, .folder [dottedFile]) :: trail) "x".toList [dottedFile] [dotted] :=
    WalkItem.listed_of_sorted rfl (List.pairwise_singleton _ _)
  refine ⟨_, WalkItem.listed_of_sorted (by rfl) (by decide +kernel), ?_⟩
  exact .folder rfl hinside (.file rfl .nil) (.file rfl .nil)

def nodeOf (item : WalkItem) : Node :=
  node "/repo".toList (Cache.textOf top.readText (idOf "/repo".toList item)) item

theorem returns : ∃ scan, run .stock {} top "/repo".toList = .ok scan ∧
    scan.rootManifests = [] ∧ scan.nodes = [nodeOf dotted, nodeOf main] :=
  run_sources wellFormed (by rfl) (by rfl) (by rfl) folderListing (by decide) (by decide +kernel)

end DottedSample

/-- Two nodes of one language; the path of the first has no extension. -/
theorem run_language_sample : ∃ scan, run .stock {} DottedSample.top "/repo".toList = .ok scan ∧
    scan.nodes.map (·.path) = ["x/..go".toList, "main.go".toList] ∧
    ∀ node ∈ scan.nodes, ∃ language, Registry.stock.find? node.extension = some language ∧
      Registry.stock.find? (Path.splitExtension node.path).2 =
        if '.' ∈ node.label.dropWhile (· == '.') then some language else none := by
  obtain ⟨scan, hscan, -, hnodes⟩ := DottedSample.returns
  refine ⟨scan, hscan, by rw [hnodes]; decide +kernel, fun node hnode => ?_⟩
  obtain ⟨language, -, hextension, -, hpath⟩ := run_language DottedSample.wellFormed hscan hnode
  exact ⟨language, hextension, hpath⟩

/-- The file `x/..go` is a node for its language, which its path does not show. -/
theorem run_language_leading_dots :
    ∃ scan, run .stock {} DottedSample.top "/repo".toList = .ok scan ∧
      ∃ node ∈ scan.nodes, node.path = "x/..go".toList ∧
        (Registry.stock.find? (extensionOf node.label)).map (·.name) = some "go".toList ∧
        (Registry.stock.find? node.extension).map (·.name) = some "go".toList ∧
        Registry.stock.find? (Path.splitExtension node.path).2 = none := by
  obtain ⟨scan, hscan, -, hnodes⟩ := DottedSample.returns
  have hnode : DottedSample.nodeOf DottedSample.dotted ∈ scan.nodes := by
    rw [hnodes]
    exact .head _
  exact ⟨scan, hscan, _, hnode, rfl, by decide +kernel, by decide +kernel, rfl⟩

end Scan

end RepoAtlas
