import RepoAtlas.Graph.Ranking
import RepoAtlas.Proofs.Number.Binary

/-!
# Roles depend on the connected nodes only

`Role.assign?_stable`: all nodes are given a role unless a count is out of range, and which one it is
depends neither on the order of the nodes nor on isolated nodes beside them. A node is peripheral
exactly if both of its counts are at most one. A core node is imported by at least half as many
nodes as any other, up to the precision with which the largest count is stored.
-/

namespace RepoAtlas

/-- A node that imports no other one and is imported by none. -/
def Node.isIsolated (node : Node) : Bool := node.fanIn == 0 && node.fanOut == 0

/-- Two lists of nodes that differ in their order and in isolated nodes only. -/
def Node.SameConnected (nodes others : List Node) : Prop :=
  (nodes.filter fun node => !node.isIsolated).Perm (others.filter fun node => !node.isIsolated)

theorem Node.SameConnected.mem_iff (h : SameConnected nodes others)
    (hnode : node.isIsolated = false) : node ∈ nodes ↔ node ∈ others := by
  have hmem := List.Perm.mem_iff (a := node) h
  simpa [List.mem_filter, hnode] using hmem

namespace Role

variable {count : Node → Int} {nodes others : List Node} {limit : Int}

-- -------------------------------------
-- The largest count
-- -------------------------------------

theorem peak_le_iff :
    peak count nodes ≤ limit ↔ 1 ≤ limit ∧ ∀ node ∈ nodes, count node ≤ limit := by
  unfold peak
  -- The induction is over the nodes, from any start.
  generalize (1 : Int) = start
  induction nodes generalizing start with
  | nil => simp
  | cons node nodes ih =>
    rw [List.foldl_cons, ih, Int.max_le, List.forall_mem_cons, and_assoc]

theorem one_le_peak : 1 ≤ peak count nodes := (peak_le_iff.mp (Int.le_refl _)).1

theorem le_peak (h : node ∈ nodes) : count node ≤ peak count nodes :=
  (peak_le_iff.mp (Int.le_refl _)).2 node h

theorem peak_le_of_sameConnected (h : Node.SameConnected nodes others)
    (hcount : ∀ node : Node, node.isIsolated = true → count node = 0) :
    peak count nodes ≤ peak count others := by
  refine peak_le_iff.mpr ⟨one_le_peak, fun node hnode => ?_⟩
  cases hisolated : node.isIsolated with
  | true =>
    rw [hcount node hisolated]
    exact Int.le_trans (by decide) one_le_peak
  | false => exact le_peak ((h.mem_iff hisolated).mp hnode)

/-- Isolated nodes and the order of nodes do not change the largest count. -/
theorem peak_congr (h : Node.SameConnected nodes others)
    (hcount : ∀ node : Node, node.isIsolated = true → count node = 0) :
    peak count nodes = peak count others :=
  Int.le_antisymm (peak_le_of_sameConnected h hcount) (peak_le_of_sameConnected h.symm hcount)

theorem fanIn_of_isIsolated (node : Node) (h : node.isIsolated = true) : node.fanIn = 0 := by
  simp only [Node.isIsolated, Bool.and_eq_true, beq_iff_eq] at h
  exact h.1

theorem fanOut_of_isIsolated (node : Node) (h : node.isIsolated = true) : node.fanOut = 0 := by
  simp only [Node.isIsolated, Bool.and_eq_true, beq_iff_eq] at h
  exact h.2

-- -------------------------------------
-- The largest count as it is stored
-- -------------------------------------

/-- The largest count, rounded. -/
def rounded (count : Node → Int) (nodes : List Node) : Int :=
  (Number.roundBits (peak count nodes).toNat 1 : Nat)

theorem storedPeak?_eq_some_iff :
    storedPeak? count nodes = some limit ↔
      (∀ node ∈ nodes, count node < Number.rangeEnd) ∧ rounded count nodes = limit := by
  have hrange : (peak count nodes).toNat < Number.rangeEnd ↔
      ∀ node ∈ nodes, count node < Number.rangeEnd := by
    have hend : 2 ≤ Number.rangeEnd := by decide +kernel
    have hle : peak count nodes ≤ Number.rangeEnd - 1 ↔
        ∀ node ∈ nodes, count node ≤ Number.rangeEnd - 1 := by
      rw [peak_le_iff]
      exact and_iff_right (by omega)
    have hlt : (peak count nodes).toNat < Number.rangeEnd ↔
        peak count nodes ≤ Number.rangeEnd - 1 := by
      omega
    simp only [hlt, hle, Int.le_sub_one_iff]
  simp only [storedPeak?, Option.map_eq_some_iff, Number.whole?_eq_some_iff, hrange, rounded]
  constructor
  · rintro ⟨m, ⟨hin, rfl⟩, rfl⟩
    exact ⟨hin, rfl⟩
  · rintro ⟨hin, rfl⟩
    exact ⟨_, ⟨hin, rfl⟩, rfl⟩

/-- Rounding lowers the largest count by at most one part in `2 ^ 53`. -/
theorem le_rounded (count : Node → Int) (h : node ∈ nodes) :
    (Number.exactBound - 1) * count node ≤ Number.exactBound * rounded count nodes := by
  have hround := Int.ofNat_le.mpr (Number.le_roundBits (peak count nodes).toNat)
  have hone : 1 ≤ peak count nodes := one_le_peak
  have hpeak : count node ≤ peak count nodes := le_peak h
  rw [Number.exactBound_eq] at hround ⊢
  unfold rounded
  omega

-- -------------------------------------
-- Roles
-- -------------------------------------

section
variable {peakIn peakOut fanIn fanOut : Int}

theorem isLarge_iff {value top : Int} : isLarge value top = true ↔ 2 ≤ value ∧ top ≤ 2 * value := by
  simp only [isLarge, decide_eq_true_eq]
  omega

theorem of_eq_peripheral_iff :
    of peakIn peakOut fanIn fanOut = peripheral ↔ fanIn ≤ 1 ∧ fanOut ≤ 1 := by
  -- The two rules in front ask for a count of at least two.
  simp only [of, Bool.and_eq_true, isLarge_iff, decide_eq_true_eq]
  constructor
  · intro h
    split at h
    · cases h
    · split at h
      · cases h
      · split at h
        · assumption
        · cases h
  · intro h
    rw [if_neg (by omega), if_neg (by omega), if_pos h]

theorem of_eq_core_iff :
    of peakIn peakOut fanIn fanOut = core ↔ 2 ≤ fanIn ∧ peakIn ≤ 2 * fanIn ∧ fanOut ≤ 3 := by
  simp only [of, Bool.and_eq_true, isLarge_iff, decide_eq_true_eq, and_assoc]
  constructor
  · intro h
    split at h
    · assumption
    · split at h
      · cases h
      · split at h <;> cases h
  · intro h
    rw [if_pos h]

end

/-- The role that a node has among others. -/
def among (nodes : List Node) (node : Node) : Role :=
  of (rounded (·.fanIn) nodes) (rounded (·.fanOut) nodes) node.fanIn node.fanOut

theorem among_congr (h : Node.SameConnected nodes others) : among nodes = among others := by
  unfold among rounded
  rw [peak_congr h fanIn_of_isIsolated, peak_congr h fanOut_of_isIsolated]

/-- All counts can be stored. -/
def InRange (nodes : List Node) : Prop :=
  ∀ node ∈ nodes, node.fanIn < Number.rangeEnd ∧ node.fanOut < Number.rangeEnd

instance : Decidable (InRange nodes) :=
  inferInstanceAs (Decidable (∀ node ∈ nodes,
    node.fanIn < Number.rangeEnd ∧ node.fanOut < Number.rangeEnd))

theorem inRange_iff : InRange nodes ↔
    (∀ node ∈ nodes, node.fanIn < Number.rangeEnd) ∧ ∀ node ∈ nodes, node.fanOut < Number.rangeEnd :=
  ⟨fun h => ⟨fun node hnode => (h node hnode).1, fun node hnode => (h node hnode).2⟩,
    fun h node hnode => ⟨h.1 node hnode, h.2 node hnode⟩⟩

theorem InRange.congr (h : Node.SameConnected nodes others) (hrange : InRange nodes) :
    InRange others := by
  intro node hnode
  cases hisolated : node.isIsolated with
  | true =>
    rw [fanIn_of_isIsolated node hisolated, fanOut_of_isIsolated node hisolated]
    decide +kernel
  | false => exact hrange node ((h.mem_iff hisolated).mpr hnode)

theorem assign?_eq_some_iff {assigned : List Node} :
    assign? nodes = some assigned ↔ InRange nodes ∧
      assigned = nodes.map fun node => { node with role := some (among nodes node).name } := by
  rw [inRange_iff]
  simp only [assign?, Option.bind_eq_bind, Option.bind_eq_some_iff, storedPeak?_eq_some_iff]
  constructor
  · rintro ⟨peakIn, ⟨hin, rfl⟩, peakOut, ⟨hout, rfl⟩, h⟩
    cases h
    exact ⟨⟨hin, hout⟩, rfl⟩
  · rintro ⟨⟨hin, hout⟩, rfl⟩
    exact ⟨_, ⟨hin, rfl⟩, _, ⟨hout, rfl⟩, rfl⟩

theorem assign?_returns (h : InRange nodes) : ∃ assigned, assign? nodes = some assigned :=
  ⟨_, assign?_eq_some_iff.mpr ⟨h, rfl⟩⟩

/-- Nodes are given roles exactly if their counts are in range. Then a node has the same role in
every list with the same connected nodes. It is peripheral exactly if both of its counts are at most
one; and if it is core, it has at least two importers, at most three imports, and half as many
importers as any other node, exactly if that one has no more than `2 ^ 53` and up to one part in
`2 ^ 53` otherwise. -/
theorem assign?_stable (nodes : List Node) :
    ((assign? nodes).isSome ↔ InRange nodes) ∧
    (InRange nodes → ∃ role : Node → Role,
      (∀ others, Node.SameConnected nodes others →
        assign? others = some (others.map fun node => { node with role := some (role node).name })) ∧
      (∀ node, role node = peripheral ↔ node.fanIn ≤ 1 ∧ node.fanOut ≤ 1) ∧
      ∀ node, role node = core → 2 ≤ node.fanIn ∧ node.fanOut ≤ 3 ∧ ∀ other ∈ nodes,
        (other.fanIn ≤ Number.exactBound → other.fanIn ≤ 2 * node.fanIn) ∧
        (Number.exactBound - 1) * other.fanIn ≤ Number.exactBound * (2 * node.fanIn)) := by
  constructor
  · rw [Option.isSome_iff_exists]
    exact ⟨fun ⟨_, h⟩ => (assign?_eq_some_iff.mp h).1, assign?_returns⟩
  · intro hrange
    refine ⟨among nodes, ?_, fun _ => of_eq_peripheral_iff, ?_⟩
    · intro others hsame
      refine assign?_eq_some_iff.mpr ⟨hrange.congr hsame, ?_⟩
      rw [among_congr hsame]
    · intro node hcore
      obtain ⟨htwo, hpeak, hthree⟩ := of_eq_core_iff.mp hcore
      refine ⟨htwo, hthree, fun other hother => ?_⟩
      have hround := le_rounded (·.fanIn) hother
      rw [Number.exactBound_eq] at hround ⊢
      omega

namespace Sample

def file (id : Text) (fanIn : Int) : Node := { id, label := id, kind := "file", path := id, fanIn }

/-- The second count is less than half of the first one by a half. -/
def files : List Node := [file ['a'] 9007199254740993, file ['b'] 4503599627370496]

end Sample

/-- Beyond `2 ^ 53` a count that is less than half of the largest one may be taken for half of it. -/
theorem assign?_rounds_half : ∃ assigned node, assign? Sample.files = some assigned ∧
    node ∈ assigned ∧ node.role = some core.name ∧
    ∃ other ∈ Sample.files, 2 * node.fanIn < other.fanIn := by
  refine ⟨_, { Sample.file ['b'] 4503599627370496 with role := some core.name },
    assign?_eq_some_iff.mpr ⟨?_, rfl⟩, ?_, rfl, Sample.file ['a'] 9007199254740993, ?_, ?_⟩
  all_goals decide +kernel

end Role

end RepoAtlas
