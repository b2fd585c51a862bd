import Mathlib.Data.List.Nodup
import RepoAtlas.Files.Walk
import RepoAtlas.Proofs.Files.Entry
import RepoAtlas.Proofs.Files.Listing
import RepoAtlas.Proofs.Path

/-!
# A walk visits the first files of the pre-order listing

`Walk.files_eq`: with a limit, a walk visits the files of the whole listing up to that limit, and is
cut short exactly when the listing is longer. The listing is a relation that knows of no stack: a
folder's children are the entries that survive, in sorted order, and a folder stands for the files
below it.
-/

namespace RepoAtlas

namespace WalkItem

variable {top : Entry} {skips : FolderFilter} {trail : Entry.Trail} {path : Path}
  {entries : List (Text × Entry)}

/-- The child of a folder as it is met on a walk. -/
def ofChild (trail : Entry.Trail) (path : Path) (child : Text × Entry) : WalkItem where
  name := child.1
  path := childPath path child.1
  trail := trail
  entry := child.2

/-- Whether a child is part of a walk: a file, a link to a file, or a folder that is not skipped. -/
def survives (top : Entry) (skips : FolderFilter) (trail : Entry.Trail) : Text × Entry → Bool
  | (_, .file _) => true
  | (_, .link target) => top.nature trail (.link target) = .file
  | (name, .folder _) => !skips name

theorem nature_link_ne_folder (target : Path) :
    top.nature trail (.link target) ≠ .folder := by
  simp only [Entry.nature]
  split
  · simp
  · split <;> simp

theorem children_eq :
    children top skips trail path entries =
      (entries.filter (survives top skips trail)).map (ofChild trail path) := by
  rw [← List.filterMap_eq_map, List.filterMap_filter]
  refine congrFun (congrArg List.filterMap (funext fun child => ?_)) entries
  obtain ⟨name, e⟩ := child
  cases e with
  | file bytes => simp [survives, Entry.nature, ofChild]
  | folder inside =>
    by_cases hs : skips name = true <;> simp [survives, Entry.nature, ofChild, hs]
  | link target =>
    cases hn : top.nature trail (.link target) with
    | folder => exact absurd hn (nature_link_ne_folder target)
    | file => simp [survives, ofChild, hn]
    | linkedFolder => simp [survives, hn]
    | broken => simp [survives, hn]

/-- The children of a folder that survive, sorted. -/
structure Listed (top : Entry) (skips : FolderFilter) (trail : Entry.Trail) (path : Path)
    (entries : List (Text × Entry)) (items : List WalkItem) : Prop where
  survivors : items.Perm ((entries.filter (survives top skips trail)).map (ofChild trail path))
  sorted : items.Pairwise fun a b => a.key.le b.key = true

theorem listed_listing (top : Entry) (skips : FolderFilter) (trail : Entry.Trail) (path : Path)
    (entries : List (Text × Entry)) :
    Listed top skips trail path entries (listing top skips trail path entries) :=
  ⟨children_eq ▸ sortListing_perm key _, sortListing_sorted key _⟩

/-- Entries that all survive and stand in order are listed as they stand. -/
theorem listed_of_sorted
    (hkept : entries.filter (survives top skips trail) = entries)
    (hsorted : (entries.map (ofChild trail path)).Pairwise fun a b => a.key.le b.key = true) :
    Listed top skips trail path entries (entries.map (ofChild trail path)) :=
  ⟨by rw [hkept], hsorted⟩

end WalkItem

/-- The files of entries in pre-order: a folder stands for the files below it. -/
inductive Preorder (top : Entry) (skips : FolderFilter) : List WalkItem → List WalkItem → Prop
  | nil : Preorder top skips [] []
  | file {item rest files} : item.isFolder = false → Preorder top skips rest files →
      Preorder top skips (item :: rest) (item :: files)
  | folder {item entries inside below rest files} : item.entry = .folder entries →
      WalkItem.Listed top skips ((item.name, item.entry) :: item.trail) item.path entries inside →
      Preorder top skips inside below → Preorder top skips rest files →
      Preorder top skips (item :: rest) (below ++ files)

namespace Preorder

variable {top : Entry} {skips : FolderFilter}

theorem append_inv (h : Preorder top skips (front ++ back) files) :
    ∃ first second, files = first ++ second ∧ Preorder top skips front first ∧
      Preorder top skips back second := by
  induction front generalizing files with
  | nil => exact ⟨[], files, rfl, .nil, h⟩
  | cons item front ih =>
    cases h with
    | file hf h =>
      obtain ⟨first, second, rfl, hfirst, hsecond⟩ := ih h
      exact ⟨item :: first, second, rfl, .file hf hfirst, hsecond⟩
    | folder he hl hbelow h =>
      obtain ⟨first, second, rfl, hfirst, hsecond⟩ := ih h
      exact ⟨_ ++ first, second, by simp, .folder he hl hbelow hfirst, hsecond⟩

end Preorder

/-- The files below a folder in pre-order. -/
def FolderListing (top : Entry) (skips : FolderFilter) (trail : Entry.Trail) (path : Path)
    (entries : List (Text × Entry)) (files : List WalkItem) : Prop :=
  ∃ items, WalkItem.Listed top skips trail path entries items ∧ Preorder top skips items files

-- -------------------------------------
-- Well-formed folders
-- -------------------------------------

namespace WalkItem

/-- Neither of two things lies at or below the other. -/
def Apart (a b : WalkItem) : Prop :=
  ¬Path.parts a.path <+: Path.parts b.path ∧ ¬Path.parts b.path <+: Path.parts a.path

theorem Apart.of_below (h : Apart a b) (ha : Path.parts a.path <+: Path.parts c.path)
    (hb : Path.parts b.path <+: Path.parts d.path) : Apart c d := by
  constructor
  · intro hcd
    exact (List.prefix_or_prefix_of_prefix (ha.trans hcd) hb).elim h.1 h.2
  · intro hdc
    exact (List.prefix_or_prefix_of_prefix ha (hb.trans hdc)).elim h.1 h.2

variable {top : Entry} {skips : FolderFilter} {trail : Entry.Trail} {path : Path}
  {entries : List (Text × Entry)}

theorem Listed.mem (h : Listed top skips trail path entries items) (hi : item ∈ items) :
    ∃ child ∈ entries, survives top skips trail child = true ∧ ofChild trail path child = item := by
  obtain ⟨child, hchild, rfl⟩ := List.mem_map.mp (h.survivors.mem_iff.mp hi)
  obtain ⟨hmem, hs⟩ := List.mem_filter.mp hchild
  exact ⟨child, hmem, hs, rfl⟩

variable (hw : (Entry.folder entries).WellFormed)
include hw

theorem Listed.entry_wellFormed (h : Listed top skips trail path entries items)
    (hi : item ∈ items) : item.entry.WellFormed := by
  obtain ⟨child, hchild, -, rfl⟩ := h.mem hi
  exact hw.inside.2.2 child hchild

theorem Listed.parts_path (h : Listed top skips trail path entries items) (hi : item ∈ items) :
    Path.parts item.path = Path.parts path ++ [item.name] := by
  obtain ⟨child, hchild, -, rfl⟩ := h.mem hi
  obtain ⟨hne, hslash, -⟩ := hw.inside.2.1 child hchild
  exact Path.parts_childPath path hne hslash

theorem Listed.eq_of_name (h : Listed top skips trail path entries items) (ha : a ∈ items)
    (hb : b ∈ items) (hab : a.name = b.name) : a = b := by
  obtain ⟨c, hc, -, rfl⟩ := h.mem ha
  obtain ⟨d, hd, -, rfl⟩ := h.mem hb
  rw [List.inj_on_of_nodup_map hw.inside.1 hc hd hab]

theorem Listed.unique (h : Listed top skips trail path entries items)
    (h' : Listed top skips trail path entries items') : items = items' :=
  eq_of_sorted_listing (h.survivors.trans h'.survivors.symm) h.sorted h'.sorted
    fun _ ha _ hb hab => h.eq_of_name hw ha hb hab

theorem Listed.apart (h : Listed top skips trail path entries items) : items.Pairwise Apart := by
  have hnames : (items.map (·.name)).Nodup := by
    have hsub : ((entries.filter (survives top skips trail)).map Prod.fst).Nodup :=
      hw.inside.1.sublist (List.filter_sublist.map _)
    have hperm := h.survivors.map (·.name)
    rw [List.map_map] at hperm
    exact hperm.nodup_iff.mpr hsub
  refine (List.pairwise_map.mp hnames).imp_of_mem fun {a b} ha hb hne => ?_
  have hsame : ∀ {x y : Text}, Path.parts path ++ [x] <+: Path.parts path ++ [y] → x = y := by
    intro x y hxy
    simpa using (List.prefix_append_right_inj _).mp hxy
  rw [Apart, h.parts_path hw ha, h.parts_path hw hb]
  exact ⟨fun hab => hne (hsame hab), fun hba => hne (hsame hba).symm⟩

end WalkItem

namespace Preorder

variable {top : Entry} {skips : FolderFilter}

theorem unique (h : Preorder top skips items files) (hw : ∀ item ∈ items, item.entry.WellFormed)
    (h' : Preorder top skips items files') : files = files' := by
  induction h generalizing files' with
  | nil => cases h'; rfl
  | @file item rest files hf _ ih =>
    cases h' with
    | file _ hrest => rw [ih (fun i hi => hw i (by simp [hi])) hrest]
    | folder he => simp [WalkItem.isFolder, he] at hf
  | @folder item entries inside below rest files he hl _ _ ihb ih =>
    have hwf : (Entry.folder entries).WellFormed := he ▸ hw item (by simp)
    cases h' with
    | file hf => simp [WalkItem.isFolder, he] at hf
    | folder he' hl' hbelow hrest =>
      cases he.symm.trans he'
      cases hl.unique hwf hl'
      rw [ihb (fun i hi => hl.entry_wellFormed hwf hi) hbelow,
        ih (fun i hi => hw i (by simp [hi])) hrest]

/-- Each file lies at or below one of the things listed. -/
theorem exists_above (h : Preorder top skips items files) (hw : ∀ item ∈ items, item.entry.WellFormed)
    (hf : found ∈ files) : ∃ item ∈ items, Path.parts item.path <+: Path.parts found.path := by
  induction h with
  | nil => cases hf
  | @file item rest files _ _ ih =>
    rcases List.mem_cons.mp hf with rfl | hf
    · exact ⟨found, by simp, List.prefix_rfl⟩
    · obtain ⟨i, hi, hp⟩ := ih (fun i hi => hw i (by simp [hi])) hf
      exact ⟨i, by simp [hi], hp⟩
  | @folder item entries inside below rest files he hl _ _ ihb ih =>
    have hwf : (Entry.folder entries).WellFormed := he ▸ hw item (by simp)
    rcases List.mem_append.mp hf with hf | hf
    · obtain ⟨i, hi, hp⟩ := ihb (fun i hi => hl.entry_wellFormed hwf hi) hf
      refine ⟨item, by simp, List.IsPrefix.trans ?_ hp⟩
      rw [hl.parts_path hwf hi]
      exact List.prefix_append _ _
    · obtain ⟨i, hi, hp⟩ := ih (fun i hi => hw i (by simp [hi])) hf
      exact ⟨i, by simp [hi], hp⟩

/-- Things that are apart have files that are apart. -/
theorem apart (h : Preorder top skips items files) (hw : ∀ item ∈ items, item.entry.WellFormed)
    (ha : items.Pairwise WalkItem.Apart) : files.Pairwise WalkItem.Apart := by
  induction h with
  | nil => exact .nil
  | @file item rest files _ hrest ih =>
    obtain ⟨hitem, ha⟩ := List.pairwise_cons.mp ha
    have hw' : ∀ i ∈ rest, i.entry.WellFormed := fun i hi => hw i (by simp [hi])
    refine List.pairwise_cons.mpr ⟨fun f hf => ?_, ih hw' ha⟩
    obtain ⟨i, hi, hp⟩ := hrest.exists_above hw' hf
    exact (hitem i hi).of_below List.prefix_rfl hp
  | @folder item entries inside below rest files he hl hbelow hrest ihb ih =>
    obtain ⟨hitem, ha⟩ := List.pairwise_cons.mp ha
    have hwf : (Entry.folder entries).WellFormed := he ▸ hw item (by simp)
    have hw' : ∀ i ∈ rest, i.entry.WellFormed := fun i hi => hw i (by simp [hi])
    have hwin : ∀ i ∈ inside, i.entry.WellFormed := fun i hi => hl.entry_wellFormed hwf hi
    refine List.pairwise_append.mpr ⟨ihb hwin (hl.apart hwf), ih hw' ha, fun f hf g hg => ?_⟩
    obtain ⟨i, hi, hif⟩ := hbelow.exists_above hwin hf
    obtain ⟨j, hj, hjg⟩ := hrest.exists_above hw' hg
    refine (hitem j hj).of_below (List.IsPrefix.trans ?_ hif) hjg
    rw [hl.parts_path hwf hi]
    exact List.prefix_append _ _

end Preorder

namespace FolderListing

variable {top : Entry} {skips : FolderFilter} {trail : Entry.Trail} {path : Path}
  {entries : List (Text × Entry)} {files : List WalkItem}

theorem unique (hw : (Entry.folder entries).WellFormed)
    (h : FolderListing top skips trail path entries files)
    (h' : FolderListing top skips trail path entries files') : files = files' := by
  obtain ⟨items, hl, hp⟩ := h
  obtain ⟨items', hl', hp'⟩ := h'
  cases hl.unique hw hl'
  exact hp.unique (fun i hi => hl.entry_wellFormed hw hi) hp'

theorem nodup_paths (hw : (Entry.folder entries).WellFormed)
    (h : FolderListing top skips trail path entries files) : (files.map (·.path)).Nodup := by
  obtain ⟨items, hl, hp⟩ := h
  have hapart := hp.apart (fun i hi => hl.entry_wellFormed hw hi) (hl.apart hw)
  refine List.pairwise_map.mpr (hapart.imp fun {a b} hab heq => hab.1 ?_)
  exact heq ▸ List.prefix_rfl

theorem relative (hw : (Entry.folder entries).WellFormed)
    (h : FolderListing top skips trail [] entries files) (hf : file ∈ files) :
    file.path ≠ [] ∧ file.path.head? ≠ some '/' := by
  obtain ⟨items, hl, hp⟩ := h
  obtain ⟨item, hi, habove⟩ := hp.exists_above (fun i hi => hl.entry_wellFormed hw hi) hf
  obtain ⟨child, hchild, -, rfl⟩ := hl.mem hi
  obtain ⟨hname, -, -⟩ := hw.inside.2.1 child hchild
  obtain ⟨rest, hparts⟩ := habove
  rw [hl.parts_path hw hi] at hparts
  constructor
  · intro hnil
    simp [Path.parts, hnil] at hparts
  · exact Path.head?_ne_slash hparts.symm hname

end FolderListing

-- -------------------------------------
-- The walk
-- -------------------------------------

namespace Walk

variable {top : Entry} {skips : FolderFilter}

/-- The number of entries at and below those on a stack. -/
def stackSize (stack : List WalkItem) : Nat := (stack.map (·.entry.size)).foldr (· + ·) 0

theorem stackSize_append (front back : List WalkItem) :
    stackSize (front ++ back) = stackSize front + stackSize back := by
  induction front with
  | nil => simp [stackSize]
  | cons item front ih =>
    simp only [stackSize, List.cons_append, List.map_cons, List.foldr_cons] at ih ⊢
    omega

theorem stackSize_perm {a b : List WalkItem} (h : a.Perm b) : stackSize a = stackSize b := by
  unfold stackSize
  refine (h.map _).foldr_eq' ?_ 0
  intros
  omega

theorem stackSize_survivors_le (entries : List (Text × Entry)) :
    stackSize ((entries.filter (WalkItem.survives top skips trail)).map
      (WalkItem.ofChild trail path)) ≤ Entry.sizeAll entries := by
  induction entries with
  | nil => simp [stackSize]
  | cons child entries ih =>
    obtain ⟨name, e⟩ := child
    simp only [stackSize, List.filter_cons, Entry.sizeAll] at ih ⊢
    split
    · simp only [List.map_cons, List.foldr_cons, WalkItem.ofChild] at ih ⊢
      omega
    · omega

theorem stackSize_listed (h : WalkItem.Listed top skips trail path entries items) :
    stackSize items ≤ Entry.sizeAll entries :=
  stackSize_perm h.survivors ▸ stackSize_survivors_le entries

theorem size_pos (e : Entry) : 0 < e.size := by
  cases e with
  | file bytes => exact Nat.one_pos
  | link target => exact Nat.one_pos
  | folder children =>
    rw [Entry.size]
    omega

theorem run_folder (he : item.entry = .folder entries) :
    run top skips (fuel + 1) limit visited (item :: stack) =
      run top skips fuel limit visited
        (WalkItem.listing top skips ((item.name, item.entry) :: item.trail) item.path entries ++
          stack) := by
  simp [run, he]

theorem run_file (he : item.isFolder = false) :
    run top skips (fuel + 1) limit visited (item :: stack) =
      match limit with
      | 0 => ⟨visited.reverse, true⟩
      | limit + 1 => run top skips fuel limit (item :: visited) stack := by
  unfold WalkItem.isFolder at he
  cases hi : item.entry with
  | folder entries => simp [hi] at he
  | file bytes => cases limit <;> simp [run, hi]
  | link target => cases limit <;> simp [run, hi]

/-- With enough fuel, a walk visits the first files of the listing of its stack. -/
theorem run_eq (hfuel : stackSize stack ≤ fuel) : ∃ files, Preorder top skips stack files ∧
    ∀ limit visited, run top skips fuel limit visited stack =
      ⟨visited.reverse ++ files.take limit, decide (limit < files.length)⟩ := by
  induction fuel generalizing stack with
  | zero =>
    cases stack with
    | nil => exact ⟨[], .nil, by simp [run]⟩
    | cons item stack =>
      have hpos := size_pos item.entry
      simp only [stackSize, List.map_cons, List.foldr_cons] at hfuel
      omega
  | succ fuel ih =>
    cases stack with
    | nil => exact ⟨[], .nil, by simp [run]⟩
    | cons item stack =>
      have hsplit : stackSize (item :: stack) = item.entry.size + stackSize stack := rfl
      by_cases hitem : item.isFolder = true
      · obtain ⟨entries, he⟩ : ∃ entries, item.entry = .folder entries := by
          unfold WalkItem.isFolder at hitem
          split at hitem
          · exact ⟨_, by assumption⟩
          · cases hitem
        have hlisted := WalkItem.listed_listing top skips ((item.name, item.entry) :: item.trail)
          item.path entries
        have hsize := stackSize_listed hlisted
        have hentry : item.entry.size = 1 + Entry.sizeAll entries := by rw [he, Entry.size]
        have hbound : stackSize (WalkItem.listing top skips
            ((item.name, item.entry) :: item.trail) item.path entries ++ stack) ≤ fuel := by
          rw [stackSize_append]
          omega
        obtain ⟨files, hfiles, hrun⟩ := ih hbound
        obtain ⟨below, rest, rfl, hbelow, hrest⟩ := hfiles.append_inv
        refine ⟨_, .folder he hlisted hbelow hrest, fun limit visited => ?_⟩
        rw [run_folder he, hrun]
      · have hbound : stackSize stack ≤ fuel := by
          have hpos := size_pos item.entry
          omega
        obtain ⟨files, hfiles, hrun⟩ := ih hbound
        have hfile : item.isFolder = false := by simpa using hitem
        refine ⟨_, .file hfile hfiles, fun limit visited => ?_⟩
        rw [run_file hfile]
        cases limit with
        | zero => simp
        | succ limit => simp [hrun]

theorem files_eq (top : Entry) (skips : FolderFilter) (trail : Entry.Trail)
    (entries : List (Text × Entry)) : ∃ listing, FolderListing top skips trail [] entries listing ∧
    ∀ limit, files top skips limit trail entries =
      ⟨listing.take limit, decide (limit < listing.length)⟩ := by
  have hlisted := WalkItem.listed_listing top skips trail [] entries
  obtain ⟨listing, hpre, hrun⟩ := run_eq (stackSize_listed hlisted)
  exact ⟨listing, ⟨_, hlisted, hpre⟩, fun limit => hrun limit []⟩

/-- In a well-formed folder the files are cut off the listing. -/
theorem files_of_listing (hw : (Entry.folder entries).WellFormed)
    (h : FolderListing top skips trail [] entries listing) (limit : Nat) :
    files top skips limit trail entries =
      ⟨listing.take limit, decide (limit < listing.length)⟩ := by
  obtain ⟨other, hother, hfiles⟩ := files_eq top skips trail entries
  rw [hfiles, hother.unique hw h]

end Walk

end RepoAtlas
