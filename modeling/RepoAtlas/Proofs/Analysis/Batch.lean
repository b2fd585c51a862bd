import RepoAtlas.Analysis.Batch

/-!
# Batches give every item its result

In whatever order the items of a batch are finished, the results are those of the items one by one.
-/

namespace RepoAtlas.Batch

variable {β : Type} {order : List Nat → List Nat}

theorem flatten_groupsFrom (hsize : 0 < size) (hfuel : count - start ≤ fuel) :
    (groupsFrom size count fuel start).flatten = List.range' start (count - start) := by
  induction fuel generalizing start with
  | zero =>
    have hnone : count - start = 0 := by omega
    simp [groupsFrom, hnone]
  | succ fuel ih =>
    unfold groupsFrom
    split
    · rename_i hstart
      rw [List.flatten_cons, ih (by omega)]
      by_cases hfull : size ≤ count - start
      · have hsplit := @List.range'_append_1 start size (count - (start + size))
        rw [Nat.min_eq_left hfull, hsplit]
        congr 1
        omega
      · have hnone : count - (start + size) = 0 := by omega
        rw [Nat.min_eq_right (by omega), hnone]
        simp
    · have hnone : count - start = 0 := by omega
      simp [hnone]

/-- Every place is in one batch, and once. -/
theorem flatten_groups (hsize : 0 < size) (count : Nat) :
    (groups size count).flatten = List.range count := by
  have hfrom : (groupsFrom size count count 0).flatten = List.range' 0 (count - 0) :=
    flatten_groupsFrom hsize (Nat.le_refl _)
  rw [groups, hfrom, List.range_eq_range', Nat.sub_zero]

theorem length_of_mem_groupsFrom (hbatch : batch ∈ groupsFrom size count fuel start) :
    batch.length ≤ size := by
  induction fuel generalizing start with
  | zero => cases hbatch
  | succ fuel ih =>
    unfold groupsFrom at hbatch
    split at hbatch
    · rcases List.mem_cons.mp hbatch with rfl | hrest
      · rw [List.length_range']
        exact Nat.min_le_left _ _
      · exact ih hrest
    · cases hbatch

/-- Each place in bounds that is finished has its result, the others keep what they have. -/
theorem getElem?_finish (work : Nat → β) (results : Array (Option β)) (batch : List Nat) (j : Nat) :
    (finish work results batch)[j]? =
      if j ∈ batch ∧ j < results.size then some (some (work j)) else results[j]? := by
  unfold finish
  induction batch generalizing results with
  | nil => simp
  | cons i batch ih =>
    rw [List.foldl_cons, ih]
    by_cases hij : i = j
    · subst hij
      by_cases hi : i < results.size <;> simp [hi]
    · simp [hij, Ne.symm hij]

theorem collect_eq (horder : ∀ places, (order places).Perm places) (work : Nat → β)
    (hsize : 0 < size) (count : Nat) :
    collect order work size count = (List.range count).map fun i => some (work i) := by
  have hplaces : ∀ j, j ∈ ((groups size count).map order).flatten ↔ j < count := by
    intro j
    have hj : j ∈ (groups size count).flatten ↔ j < count := by
      rw [flatten_groups hsize, List.mem_range]
    rw [← hj, ← List.flatMap_def, List.mem_flatMap, List.mem_flatten]
    exact exists_congr fun places => and_congr_right fun _ => (horder places).mem_iff
  have hfold : ((groups size count).map order).foldl (finish work) (Array.replicate count none) =
      finish work (Array.replicate count none) ((groups size count).map order).flatten :=
    List.foldl_flatten.symm
  rw [collect, hfold]
  apply List.ext_getElem?
  intro j
  rw [Array.getElem?_toList, getElem?_finish]
  simp only [hplaces]
  by_cases hj : j < count <;> simp [hj]

end RepoAtlas.Batch
