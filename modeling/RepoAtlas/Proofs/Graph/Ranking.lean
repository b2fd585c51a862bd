import RepoAtlas.Graph.Ranking

/-!
# Rankings list the nodes with the largest counts

`Node.top_selects`: the ids listed are those of the nodes with the largest positive counts, as many
as were asked for or as there are, larger counts first and nodes of equal count in their order. Ids
may occur more than once, so that nodes are told apart by their places. Nodes are cut off the
ranking before those without a positive count are dropped; as the ranking descends, the order of
these two steps does not matter.
-/

namespace RepoAtlas

/-- In a list in which nothing behind an item without a property has it, the items with the property
are cut off as the list is. -/
theorem filter_take_of_pairwise {α : Type} {p : α → Bool} {l : List α}
    (h : l.Pairwise fun a b => p b = true → p a = true) (n : Nat) :
    (l.take n).filter p = (l.filter p).take n := by
  induction l generalizing n with
  | nil => simp
  | cons a l ih =>
    obtain ⟨ha, hl⟩ := List.pairwise_cons.mp h
    cases n with
    | zero => simp
    | succ n =>
      by_cases hp : p a = true
      · simp [hp, ih hl]
      · have hnone : l.filter p = [] := by
          rw [List.filter_eq_nil_iff]
          exact fun b hb hpb => hp (ha b hb hpb)
        simp [hp, ih hl, hnone]

namespace Node

variable {count : Node → Int} {nodes : List Node} {i j : Nat}

/-- The count of the node at a place, zero where there is none. -/
def countAt (count : Node → Int) (nodes : List Node) (i : Nat) : Int :=
  (nodes[i]?.map count).getD 0

/-- The node at the first place has a larger count than the one at the second, or the same count and
stands in front of it. -/
def Outranks (count : Node → Int) (nodes : List Node) (i j : Nat) : Prop :=
  countAt count nodes j < countAt count nodes i ∨
    countAt count nodes j = countAt count nodes i ∧ i < j

/-- The given places are those of the `n` nodes with the largest positive counts, or of all if there
are fewer, in descending order. -/
structure Selects (count : Node → Int) (nodes : List Node) (n : Nat) (listed : List Nat) : Prop where
  length : listed.length = min n (nodes.countP fun node => decide (0 < count node))
  positive : ∀ i ∈ listed, 0 < countAt count nodes i
  ordered : listed.Pairwise (Outranks count nodes)
  unlisted : ∀ i ∈ listed, ∀ j ∉ listed, 0 < countAt count nodes j → Outranks count nodes i j

-- -------------------------------------
-- The ranking of all nodes
-- -------------------------------------

/-- All nodes with their places, in the order of the ranking. -/
def ranking (count : Node → Int) (nodes : List Node) : List (Node × Nat) :=
  nodes.zipIdx.mergeSort (List.zipIdxLE fun a b => decide (count b ≤ count a))

theorem ranking_perm (count : Node → Int) (nodes : List Node) :
    (ranking count nodes).Perm nodes.zipIdx := List.mergeSort_perm _ _

theorem mem_ranking {entry : Node × Nat} :
    entry ∈ ranking count nodes ↔ nodes[entry.2]? = some entry.1 := by
  rw [(ranking_perm count nodes).mem_iff, List.mem_zipIdx_iff_getElem?]

theorem countAt_of_mem {entry : Node × Nat} (h : entry ∈ ranking count nodes) :
    countAt count nodes entry.2 = count entry.1 := by
  simp [countAt, mem_ranking.mp h]

/-- The ranking descends, and nodes of equal count keep their order. -/
theorem ranking_pairwise (count : Node → Int) (nodes : List Node) :
    (ranking count nodes).Pairwise fun a b => Outranks count nodes a.2 b.2 := by
  have hsorted : (ranking count nodes).Pairwise fun a b =>
      List.zipIdxLE (fun a b => decide (count b ≤ count a)) a b = true := by
    refine List.pairwise_mergeSort (List.zipIdxLE_trans ?_) (List.zipIdxLE_total ?_) nodes.zipIdx
    · intro a b c hab hbc
      simp only [decide_eq_true_eq] at hab hbc ⊢
      exact Int.le_trans hbc hab
    · intro a b
      simpa using Int.le_total (count b) (count a)
  have hplaces : (ranking count nodes).Pairwise fun a b => a.2 ≠ b.2 := by
    have hnodup : (nodes.zipIdx.map Prod.snd).Nodup := by
      rw [List.zipIdx_map_snd]
      exact List.nodup_range'
    exact List.pairwise_map.mp (((ranking_perm count nodes).map Prod.snd).nodup_iff.mpr hnodup)
  refine (hsorted.and hplaces).imp_of_mem ?_
  rintro a b ha hb ⟨hle, hne⟩
  rw [Outranks, countAt_of_mem ha, countAt_of_mem hb]
  simp only [List.zipIdxLE, decide_eq_true_eq] at hle
  split at hle
  · split at hle
    · have : a.2 ≤ b.2 := of_decide_eq_true hle
      omega
    · omega
  · cases hle

-- -------------------------------------
-- Cutting the ranking off
-- -------------------------------------

/-- The ranking of the nodes with a positive count. -/
def positiveRanking (count : Node → Int) (nodes : List Node) : List (Node × Nat) :=
  (ranking count nodes).filter fun entry => decide (0 < count entry.1)

theorem top_eq_take (count : Node → Int) (n : Nat) (nodes : List Node) :
    top count n nodes = ((positiveRanking count nodes).take n).map (·.1.id) := by
  have hdescends : (ranking count nodes).Pairwise fun a b =>
      decide (0 < count b.1) = true → decide (0 < count a.1) = true := by
    refine (ranking_pairwise count nodes).imp_of_mem ?_
    intro a b ha hb hrank hpos
    rw [Outranks, countAt_of_mem ha, countAt_of_mem hb] at hrank
    simp only [decide_eq_true_eq] at hpos ⊢
    omega
  rw [positiveRanking, ← filter_take_of_pairwise hdescends]
  simp only [top, takeSlice, Int.natCast_nonneg, if_true, Int.toNat_natCast]
  rw [← List.mergeSort_zipIdx, ← List.map_take, List.filter_map, List.map_map]
  rfl

theorem mem_positiveRanking {entry : Node × Nat} :
    entry ∈ positiveRanking count nodes ↔
      nodes[entry.2]? = some entry.1 ∧ 0 < countAt count nodes entry.2 := by
  rw [positiveRanking, List.mem_filter, decide_eq_true_eq]
  constructor
  · rintro ⟨hmem, hpos⟩
    exact ⟨mem_ranking.mp hmem, by rwa [countAt_of_mem hmem]⟩
  · rintro ⟨hnode, hpos⟩
    have hmem : entry ∈ ranking count nodes := mem_ranking.mpr hnode
    exact ⟨hmem, by rwa [← countAt_of_mem hmem]⟩

theorem length_positiveRanking (count : Node → Int) (nodes : List Node) :
    (positiveRanking count nodes).length = nodes.countP fun node => decide (0 < count node) := by
  rw [positiveRanking, ← List.countP_eq_length_filter, (ranking_perm count nodes).countP_eq]
  calc nodes.zipIdx.countP (fun entry => decide (0 < count entry.1))
      = (nodes.zipIdx.map Prod.fst).countP fun node => decide (0 < count node) := by
        rw [List.countP_map]
        rfl
    _ = nodes.countP fun node => decide (0 < count node) := by rw [List.zipIdx_map_fst]

theorem exists_place_of_positive (h : 0 < countAt count nodes j) :
    ∃ node, (node, j) ∈ positiveRanking count nodes := by
  cases hnode : nodes[j]? with
  | none => simp [countAt, hnode] at h
  | some node => exact ⟨node, mem_positiveRanking.mpr ⟨hnode, h⟩⟩

theorem selects_take (count : Node → Int) (nodes : List Node) (n : Nat) :
    Selects count nodes n (((positiveRanking count nodes).take n).map (·.2)) := by
  have hordered : (positiveRanking count nodes).Pairwise fun a b => Outranks count nodes a.2 b.2 :=
    (ranking_pairwise count nodes).filter _
  refine ⟨?_, ?_, ?_, ?_⟩
  · rw [List.length_map, List.length_take, length_positiveRanking]
  · intro i hi
    obtain ⟨entry, hentry, rfl⟩ := List.mem_map.mp hi
    exact (mem_positiveRanking.mp (List.mem_of_mem_take hentry)).2
  · rw [List.pairwise_map]
    exact hordered.sublist (List.take_sublist n _)
  · intro i hi j hj hpos
    obtain ⟨entry, hentry, rfl⟩ := List.mem_map.mp hi
    obtain ⟨node, hnode⟩ := exists_place_of_positive hpos
    -- What is not in front of the cut stands behind it.
    rw [← List.take_append_drop n (positiveRanking count nodes)] at hnode hordered
    have hbehind : (node, j) ∈ (positiveRanking count nodes).drop n :=
      (List.mem_append.mp hnode).resolve_left fun hfront => hj (List.mem_map.mpr ⟨_, hfront, rfl⟩)
    exact (List.pairwise_append.mp hordered).2.2 entry hentry _ hbehind

/-- The ids listed are those of the nodes with the largest positive counts, as many as are asked for
or as there are, in descending order and nodes of equal count in theirs; asked for one more, the
list goes on. -/
theorem top_selects (count : Node → Int) (n : Nat) (nodes : List Node) :
    (∃ listed, Selects count nodes n listed ∧
      (top count n nodes).map some = listed.map fun i => nodes[i]?.map (·.id)) ∧
    top count n nodes <+: top count (n + 1 : Nat) nodes := by
  constructor
  · refine ⟨_, selects_take count nodes n, ?_⟩
    rw [top_eq_take, List.map_map, List.map_map]
    refine List.map_congr_left fun entry hentry => ?_
    simp [(mem_positiveRanking.mp (List.mem_of_mem_take hentry)).1]
  · rw [top_eq_take, top_eq_take]
    exact (List.take_prefix_take_left (Nat.le_succ n)).map _

end Node

end RepoAtlas
