import RepoAtlas.Files.Change
import RepoAtlas.Proofs.Files.Entry

/-!
# Changes keep a file system well formed

`Change.put_keeps` and `Change.remove_keeps`: whether a change succeeds or fails, what it leaves
behind is well formed if the file system was so before.
-/

namespace RepoAtlas

namespace Entry

variable {top e : Entry} {trail : Trail} {children : List (Text × Entry)} {name : Text} {p : Path}

theorem mem_setChild (n : Text) : n ∈ (setChild name e children).map Prod.fst ↔
    n = name ∨ n ∈ children.map Prod.fst := by
  induction children with
  | nil => simp [setChild]
  | cons child children ih =>
    obtain ⟨other, old⟩ := child
    by_cases hother : other = name
    · simp [setChild, hother]
    · simp only [setChild, beq_iff_eq, hother, if_false, List.map_cons, List.mem_cons, ih]
      exact or_left_comm

theorem setChild_wellFormed (hf : WellFormed (.folder children)) (hname : IsName name)
    (he : e.WellFormed) : WellFormed (.folder (setChild name e children)) := by
  induction children with
  | nil => exact WellFormed.folder_cons_iff.mpr ⟨hname, by simp, he, hf⟩
  | cons child children ih =>
    obtain ⟨other, old⟩ := child
    obtain ⟨hother, hnew, hold, hrest⟩ := WellFormed.folder_cons_iff.mp hf
    unfold setChild
    split
    · exact WellFormed.folder_cons_iff.mpr ⟨hother, hnew, he, hrest⟩
    · rename_i hne
      refine WellFormed.folder_cons_iff.mpr ⟨hother, ?_, hold, ih hrest⟩
      rw [mem_setChild, not_or]
      exact ⟨by simpa using hne, hnew⟩

theorem filter_wellFormed (hf : WellFormed (.folder children)) (keep : Text × Entry → Bool) :
    WellFormed (.folder (children.filter keep)) := by
  obtain ⟨hnodup, hnames, hwf⟩ := hf.inside
  refine .folder (hnodup.sublist (List.filter_sublist.map _)) ?_ ?_
  · exact fun child hchild => hnames child (List.mem_filter.mp hchild).1
  · exact fun child hchild => hwf child (List.mem_filter.mp hchild).1

/-- An entry is put in place by rebuilding the folders on the way to it. -/
theorem replace_wellFormed (hw : top.WellFormed) (ht : TrailWellFormed trail) (he : e.WellFormed) :
    (top.replace trail e).WellFormed := by
  induction trail generalizing e with
  | nil => exact he
  | cons step outer ih =>
    obtain ⟨hstep, houter⟩ := List.forall_mem_cons.mp ht
    unfold replace
    split
    · rename_i children hreached
      have hfolder := reached_wellFormed hw houter
      rw [hreached] at hfolder
      exact ih houter (setChild_wellFormed hfolder hstep.1 he)
    · exact hw

theorem above_wellFormed (hw : top.WellFormed) (h : top.above p = .ok (trail, children)) :
    TrailWellFormed trail ∧ WellFormed (.folder children) := by
  simp only [above, bind, Except.bind, throw, throwThe, MonadExceptOf.throw, pure,
    Except.pure] at h
  split at h
  · cases h
  · split at h
    · cases h
    · rename_i found hfound
      have ht := locate_wellFormed hw hfound
      have hfolder := reached_wellFormed hw ht
      split at h
      · rename_i inside hreached
        rw [hreached] at hfolder
        split at h
        · cases h
        · cases h
          exact ⟨ht, hfolder⟩
      · cases h

/-- What follows the last slash of a path is a name unless it stands for a folder in any case. -/
theorem isName_name (h : isDots (Path.name p) = false) : IsName (Path.name p) := by
  have hslash : '/' ∉ Path.name p := by
    intro hmem
    simpa using List.all_eq_true.mp List.all_takeWhile '/' (List.mem_reverse.mp hmem)
  simp_all [isDots, IsName]

theorem addNew_wellFormed (hw : top.WellFormed) (he : e.WellFormed)
    (h : addNew e p top = .ok top') : top'.WellFormed := by
  simp only [addNew, bind, Except.bind] at h
  split at h
  · cases h
  · rename_i found habove
    obtain ⟨ht, hfolder⟩ := above_wellFormed hw habove
    split at h
    · cases h
    · rename_i hfree
      simp only [Bool.or_eq_true, not_or, Bool.not_eq_true] at hfree
      cases h
      exact replace_wellFormed hw ht (setChild_wellFormed hfolder (isName_name hfree.1) he)

theorem makeLink_wellFormed (hw : top.WellFormed) (h : top.makeLink target p = .ok top') :
    top'.WellFormed := by
  unfold makeLink at h
  split at h
  · cases h
  · split at h
    · cases h
    · exact addNew_wellFormed hw (.link target) h

theorem writeFile_wellFormed (hw : top.WellFormed) (h : top.writeFile bytes p = .ok top') :
    top'.WellFormed := by
  unfold writeFile at h
  split at h
  · cases h
  · cases hs : top.seek maxLinks [] (Path.segments p) with
    | error fault => simp [hs, bind, Except.bind] at h
    | ok place =>
      have hplace := seek_wellFormed hw (by simp [TrailWellFormed]) (slashless_segments p) hs
      simp only [hs, bind, Except.bind, pure, Except.pure] at h
      cases place with
      | free trail name =>
        have hfolder := reached_wellFormed hw hplace.1
        simp only at h
        split at h
        · rename_i children hreached
          rw [hreached] at hfolder
          cases h
          exact replace_wellFormed hw hplace.1 (setChild_wellFormed hfolder hplace.2 (.file bytes))
        · cases h
      | taken trail =>
        simp only at h
        split at h
        · cases h
        · cases h
          exact replace_wellFormed hw hplace (.file bytes)

theorem removeFile_wellFormed (hw : top.WellFormed) (h : top.removeFile p = .ok top') :
    top'.WellFormed := by
  simp only [removeFile, bind, Except.bind] at h
  split at h
  · cases h
  · rename_i found habove
    obtain ⟨ht, hfolder⟩ := above_wellFormed hw habove
    split at h
    · cases h
    · split at h
      · cases h
      · cases h
      · cases h
        exact replace_wellFormed hw ht (filter_wellFormed hfolder _)

end Entry

namespace Change

/-- A change that leaves a well-formed file system behind, also where it fails. -/
def Keeps (c : Change α) : Prop := ∀ top : Entry, top.WellFormed → (c.run.run top).2.WellFormed

theorem keeps_bind {c : Change α} {next : α → Change β} (hc : Keeps c)
    (hnext : ∀ a, Keeps (next a)) : Keeps (c >>= next) := by
  intro top hw
  have hfirst := hc top hw
  simp only [ExceptT.run_bind, StateT.run_bind]
  cases hr : c.run.run top with
  | mk result top' =>
    rw [hr] at hfirst
    cases result with
    | error fault => exact hfirst
    | ok a => exact hnext a top' hfirst

theorem keeps_get {next : Entry → Change β}
    (h : ∀ top, top.WellFormed → ((next top).run.run top).2.WellFormed) : Keeps (get >>= next) :=
  fun top hw => h top hw

theorem atomic_keeps (fault : FileError → ChangeError) {f : Entry → Except FileError Entry}
    (hf : ∀ top top', top.WellFormed → f top = .ok top' → top'.WellFormed) :
    Keeps (atomic fault f) := by
  refine keeps_get fun top hw => ?_
  split
  · rename_i top' hr
    exact hf top top' hw hr
  · exact hw

theorem orExists_keeps (p : Path) (e : FileError) : Keeps (orExists p e) := by
  refine keeps_get fun top hw => ?_
  split
  · exact hw
  · exact hw

theorem makeFolders_keeps (depth : Nat) (p : Path) : Keeps (makeFolders depth p) := by
  induction depth generalizing p with
  | zero => exact fun top hw => hw
  | succ depth ih =>
    refine keeps_get fun top hw => ?_
    split
    · rename_i hr
      exact Entry.addNew_wellFormed hw .folder_nil hr
    · -- The folder above comes first, and then the folder itself is tried again.
      refine keeps_bind (ih (Path.parent p)) (fun _ => keeps_get fun top hw => ?_) top hw
      split
      · rename_i hr
        exact Entry.addNew_wellFormed hw .folder_nil hr
      · exact orExists_keeps p _ top hw
    · exact orExists_keeps p _ top hw

theorem put_keeps (e : Entry) (p : Path) : Keeps (put e p) := by
  cases e with
  | folder children => exact makeFolders_keeps maxDepth p
  | file bytes =>
    refine keeps_bind (makeFolders_keeps maxDepth (Path.parent p)) fun _ => ?_
    exact atomic_keeps _ fun top top' => Entry.writeFile_wellFormed
  | link target =>
    refine keeps_bind (makeFolders_keeps maxDepth (Path.parent p)) fun _ => ?_
    exact atomic_keeps _ fun top top' => Entry.makeLink_wellFormed

theorem remove_keeps (p : Path) : Keeps (remove p) :=
  atomic_keeps _ fun _ _ => Entry.removeFile_wellFormed

end Change

end RepoAtlas
