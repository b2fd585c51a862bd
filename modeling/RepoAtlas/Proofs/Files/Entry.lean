import RepoAtlas.Files.Entry
import RepoAtlas.Proofs.Text.Basic

/-!
# Well-formed file systems

In a file system no two entries of a folder have the same name, and a name is a single segment of a
path. What is reached by following a path has this property as well.
-/

namespace RepoAtlas.Entry

/-- A name that an entry can have. -/
def IsName (name : Text) : Prop :=
  name ≠ [] ∧ '/' ∉ name ∧ name ≠ ['.'] ∧ name ≠ ['.', '.']

instance (name : Text) : Decidable (IsName name) := inferInstanceAs (Decidable (_ ∧ _))

inductive WellFormed : Entry → Prop
  | file (bytes : Encoding.Bytes) : WellFormed (.file bytes)
  | link (target : Path) : WellFormed (.link target)
  | folder {children : List (Text × Entry)} : (children.map Prod.fst).Nodup →
      (∀ child ∈ children, IsName child.1) → (∀ child ∈ children, WellFormed child.2) →
      WellFormed (.folder children)

variable {top : Entry} {trail : Trail} {segments : List Text} {children : List (Text × Entry)}

theorem WellFormed.inside (h : WellFormed (.folder children)) :
    (children.map Prod.fst).Nodup ∧ (∀ child ∈ children, IsName child.1) ∧
      ∀ child ∈ children, WellFormed child.2 := by
  cases h with
  | folder hnodup hname hwf => exact ⟨hnodup, hname, hwf⟩

theorem WellFormed.folder_nil : WellFormed (.folder []) :=
  .folder .nil (fun _ h => nomatch h) (fun _ h => nomatch h)

theorem WellFormed.folder_cons_iff {name : Text} {e : Entry} :
    WellFormed (.folder ((name, e) :: children)) ↔
      IsName name ∧ name ∉ children.map Prod.fst ∧ WellFormed e ∧ WellFormed (.folder children) := by
  constructor
  · intro h
    obtain ⟨hnodup, hnames, hwf⟩ := h.inside
    obtain ⟨hnew, hnodup⟩ := List.nodup_cons.mp hnodup
    obtain ⟨hname, hnames⟩ := List.forall_mem_cons.mp hnames
    obtain ⟨he, hwf⟩ := List.forall_mem_cons.mp hwf
    exact ⟨hname, hnew, he, .folder hnodup hnames hwf⟩
  · rintro ⟨hname, hnew, he, hrest⟩
    obtain ⟨hnodup, hnames, hwf⟩ := hrest.inside
    exact .folder (List.nodup_cons.mpr ⟨hnew, hnodup⟩)
      (List.forall_mem_cons.mpr ⟨hname, hnames⟩) (List.forall_mem_cons.mpr ⟨he, hwf⟩)

/-- All that was passed on the way has a name and is well formed. -/
def TrailWellFormed (trail : Trail) : Prop := ∀ step ∈ trail, IsName step.1 ∧ step.2.WellFormed

theorem reached_wellFormed (hw : top.WellFormed) (ht : TrailWellFormed trail) :
    (top.reached trail).WellFormed := by
  cases trail with
  | nil => exact hw
  | cons step trail => exact (ht step (by simp)).2

/-- Segments of paths: none of them contains a slash. -/
def Slashless (segments : List Text) : Prop := ∀ segment ∈ segments, '/' ∉ segment

theorem slashless_segments (p : Path) : Slashless (Path.segments p) :=
  fun _ h => Text.not_mem_of_mem_splitOn h

/-- Where a walk stops, its trail is well formed, and a name that is missing can be given. -/
def Stop.WellFormed : Stop → Prop
  | .arrived trail => TrailWellFormed trail
  | .linked trail _ rest => TrailWellFormed trail ∧ Slashless rest
  | .missing trail name _ => TrailWellFormed trail ∧ IsName name
  | .failed _ => True

theorem stroll_wellFormed (hw : top.WellFormed) (ht : TrailWellFormed trail)
    (hs : Slashless segments) : (top.stroll trail segments).WellFormed := by
  induction segments generalizing trail with
  | nil => exact ht
  | cons segment rest ih =>
    obtain ⟨hslash, hrest⟩ := List.forall_mem_cons.mp hs
    unfold stroll
    split
    · rename_i children hreached
      split
      · exact ih ht hrest
      · rename_i hhere
        split
        · exact ih (fun step hstep => ht step (List.mem_of_mem_tail hstep)) hrest
        · rename_i habove
          split
          · trivial
          · split
            · exact ⟨ht, by simp_all [IsName]⟩
            · exact ⟨ht, hrest⟩
            · rename_i e _ hlookup
              refine ih (List.forall_mem_cons.mpr ⟨?_, ht⟩) hrest
              have hfolder := reached_wellFormed hw ht
              rw [hreached] at hfolder
              obtain ⟨-, hnames, hwf⟩ := hfolder.inside
              have hmem := Text.mem_of_lookup hlookup
              exact ⟨hnames _ hmem, hwf _ hmem⟩
    · trivial

/-- What a path leads to, its trail is well formed, and a free name can be given. -/
def Place.WellFormed : Place → Prop
  | .taken trail => TrailWellFormed trail
  | .free trail name => TrailWellFormed trail ∧ IsName name

theorem linkStart_wellFormed (ht : TrailWellFormed trail) (target : Path) :
    TrailWellFormed (linkStart trail target) := by
  unfold linkStart
  split
  · exact fun _ hstep => nomatch hstep
  · exact ht

theorem seek_wellFormed (hw : top.WellFormed) (ht : TrailWellFormed trail)
    (hs : Slashless segments) (h : top.seek links trail segments = .ok place) :
    place.WellFormed := by
  fun_induction seek top links trail segments with
  | case1 links trail segments found hstop =>
    cases h
    have hfound := stroll_wellFormed hw ht hs
    rwa [hstop] at hfound
  | case2 links trail segments found name hstop =>
    cases h
    have hfound := stroll_wellFormed hw ht hs
    rwa [hstop] at hfound
  | case3 => cases h
  | case4 => cases h
  | case5 => cases h
  | case6 trail segments found target rest hstop links ih =>
    have hfound := stroll_wellFormed hw ht hs
    rw [hstop] at hfound
    refine ih (linkStart_wellFormed hfound.1 target) ?_ h
    exact List.forall_mem_append.mpr ⟨slashless_segments target, hfound.2⟩

theorem locate_wellFormed (hw : top.WellFormed) (h : top.locate p = .ok trail) :
    TrailWellFormed trail := by
  unfold locate at h
  split at h
  · cases h
  · simp only [follow, bind, Except.bind] at h
    split at h
    · cases h
    · rename_i place hplace
      have hend := seek_wellFormed hw (by simp [TrailWellFormed]) (slashless_segments p) hplace
      split at h
      · cases h
        exact hend
      · cases h

theorem folder_wellFormed (hw : top.WellFormed) (h : top.locate p = .ok trail)
    (hfolder : top.reached trail = .folder entries) : (Entry.folder entries).WellFormed :=
  hfolder ▸ reached_wellFormed hw (locate_wellFormed hw h)

/-! ## Numbers of entries -/

theorem sizeAll_append (front back : List (Text × Entry)) :
    sizeAll (front ++ back) = sizeAll front + sizeAll back := by
  induction front with
  | nil => simp [sizeAll]
  | cons child front ih =>
    rw [List.cons_append, sizeAll, sizeAll, ih]
    omega

theorem sizeAll_perm {children children' : List (Text × Entry)} (h : children.Perm children') :
    sizeAll children = sizeAll children' := by
  induction h with
  | nil => rfl
  | cons child _ ih => rw [sizeAll, sizeAll, ih]
  | swap a b rest =>
    simp only [sizeAll]
    omega
  | trans _ _ ih ih' => rw [ih, ih']

theorem sizeAll_map {change : Text × Entry → Text × Entry}
    (h : ∀ child ∈ children, (change child).2.size = child.2.size) :
    sizeAll (children.map change) = sizeAll children := by
  induction children with
  | nil => rfl
  | cons child children ih =>
    obtain ⟨hchild, hrest⟩ := List.forall_mem_cons.mp h
    rw [List.map_cons, sizeAll, sizeAll, hchild, ih hrest]

end RepoAtlas.Entry
