import Mathlib.Algebra.Order.BigOperators.Group.List
import Mathlib.Algebra.Order.Ring.Int
import Mathlib.Data.Set.Finite.Lemmas
import Mathlib.Data.Set.Finite.List
import Mathlib.Tactic.Linarith
import Mathlib.Tactic.Ring
import RepoAtlas.Proofs.Number.Binary
import RepoAtlas.Risk.Quality

/-!
# The quality of a project is a mean

`Quality.ofNodes?_isMean`: without negative scores the quality of a project is the mean over its
files, a half being rounded up. It lies between the least and the greatest quality of a file, does
not depend on the order of the files, and does not rise when scores do. With up to `2 ^ 44` files it
does not show that the mean is stored with binary precision before it is rounded
(`Quality.storedMean?_eq_mean`).
-/

namespace RepoAtlas

/-- The score of a file, zero for one without a risk. -/
def Node.riskScore (node : Node) : Int :=
  match node.risk with
  | some detail => detail.score
  | none => 0

theorem Node.quality_eq (node : Node) : node.quality = max 0 (100 - node.riskScore) := by
  unfold quality riskScore
  cases node.risk <;> rfl

namespace Quality

-- -------------------------------------
-- Means
-- -------------------------------------

theorem mean_mul_le (total count : Nat) : 2 * (mean total count * count) ≤ 2 * total + count := by
  rw [Nat.mul_left_comm]
  exact Nat.div_mul_le_self ..

theorem lt_mean_mul (total : Nat) {count : Nat} (hcount : 0 < count) :
    2 * total + count < 2 * (mean total count * count) + 2 * count := by
  rw [Nat.mul_left_comm, ← Nat.succ_mul]
  exact Nat.lt_mul_of_div_lt (Nat.lt_succ_self _) (by omega)

/-- `q` is the mean of whole numbers, a half being rounded up. -/
structure IsMean (values : List Int) (q : Int) : Prop where
  lower : 2 * values.length * q - values.length ≤ 2 * values.sum
  upper : 2 * values.sum < 2 * values.length * q + values.length

namespace IsMean

variable {values others : List Int} {p q low high : Int}

theorem le_of_sum_le (hne : values ≠ []) (h : IsMean values p) (h' : IsMean others q)
    (hlength : values.length = others.length) (hsum : values.sum ≤ others.sum) : p ≤ q := by
  have hpos : (0 : Int) < 2 * values.length := by
    have hlen := List.length_pos_iff.mpr hne
    omega
  have hupper := h'.upper
  rw [← hlength] at hupper
  refine Int.le_of_lt_add_one (lt_of_mul_lt_mul_left ?_ hpos.le)
  linarith [h.lower]

theorem unique (hne : values ≠ []) (h : IsMean values p) (h' : IsMean values q) : p = q :=
  le_antisymm (h.le_of_sum_le hne h' rfl le_rfl) (h'.le_of_sum_le hne h rfl le_rfl)

theorem perm (h : IsMean values q) (hperm : values.Perm others) : IsMean others q where
  lower := by
    rw [← hperm.length_eq, ← hperm.sum_eq]
    exact h.lower
  upper := by
    rw [← hperm.length_eq, ← hperm.sum_eq]
    exact h.upper

theorem replicate {n : Nat} (hn : 0 < n) (v : Int) : IsMean (List.replicate n v) v where
  lower := by
    simp only [List.length_replicate, List.sum_replicate, nsmul_eq_mul]
    linarith
  upper := by
    simp only [List.length_replicate, List.sum_replicate, nsmul_eq_mul]
    linarith

theorem le_of_forall_le (hne : values ≠ []) (h : IsMean values q) (hlow : ∀ v ∈ values, low ≤ v) :
    low ≤ q := by
  refine (replicate (List.length_pos_iff.mpr hne) low).le_of_sum_le (by simpa using hne) h
    (by simp) ?_
  rw [List.sum_replicate]
  exact List.card_nsmul_le_sum values low hlow

theorem ge_of_forall_le (hne : values ≠ []) (h : IsMean values q) (hhigh : ∀ v ∈ values, v ≤ high) :
    q ≤ high := by
  refine h.le_of_sum_le hne (replicate (List.length_pos_iff.mpr hne) high) (by simp) ?_
  rw [List.sum_replicate]
  exact List.sum_le_card_nsmul values high hhigh

theorem mean (hne : values ≠ []) (hsum : 0 ≤ values.sum) :
    IsMean values (mean values.sum.toNat values.length) := by
  obtain ⟨total, htotal⟩ := Int.eq_ofNat_of_zero_le hsum
  have hlow := mean_mul_le total values.length
  have hhigh := lt_mean_mul total (List.length_pos_iff.mpr hne)
  have hmean : Quality.mean values.sum.toNat values.length = Quality.mean total values.length := by
    rw [htotal, Int.toNat_natCast]
  rw [hmean]
  zify at hlow hhigh
  constructor <;> linarith

end IsMean

-- -------------------------------------
-- Means with binary precision
-- -------------------------------------

section
open Number

variable {num den total count m : Nat}

/-- 128 is stored as this power of two. -/
def rangeLog : Nat := 1081

/-- The step between stored numbers right below 128. -/
def step : Nat := Nat.pow 2 (rangeLog - precision)

/-- The steps of a half. -/
def halfSteps : Nat := Nat.pow 2 45

theorem step_pos : 0 < step := by decide +kernel

theorem unit_eq : unit = 2 * (halfSteps * step) := by decide +kernel

theorem spacing_dvd_step (hden : 0 < den) (hrange : num < 128 * unit * den) :
    spacing (num / den) ∣ step := by
  have hend : 128 * unit = Nat.pow 2 rangeLog := by decide +kernel
  rw [← Nat.div_lt_iff_lt_mul hden, hend] at hrange
  unfold step
  exact spacing_dvd (by decide) hrange

theorem le_roundBits_of_step (hden : 0 < den) (hrange : num < 128 * unit * den)
    (h : m * step * den ≤ num) : m * step ≤ roundBits num den :=
  le_roundBits_of_dvd hden (Nat.dvd_mul_left_of_dvd (spacing_dvd_step hden hrange) m) h

theorem roundBits_mul_lt (hden : 0 < den) (hrange : num < 128 * unit * den) :
    roundBits num den * den < num + step * den := by
  have hround := two_mul_roundBits_le num den
  have hspacing : den * spacing (num / den) ≤ step * den := by
    rw [Nat.mul_comm]
    exact Nat.mul_le_mul_right den (Nat.le_of_dvd step_pos (spacing_dvd_step hden hrange))
  have hpos := Nat.mul_pos step_pos hden
  omega

variable (hcount : 0 < count) (htotal : total ≤ 100 * count)
include hcount htotal

theorem total_lt_range : total * unit < 128 * unit * count := by
  calc total * unit ≤ 100 * count * unit := Nat.mul_le_mul_right unit htotal
    _ < 128 * count * unit := Nat.mul_lt_mul_of_pos_right (by omega) (by decide +kernel)
    _ = 128 * unit * count := Nat.mul_right_comm ..

/-- The stored quotient is not below the middle between the mean and its predecessor. -/
theorem mean_le_grains :
    mean total count * unit ≤ roundBits (total * unit) count + halfSteps * step := by
  have hlow := mean_mul_le total count
  cases hmean : mean total count with
  | zero => simp
  | succ k =>
    rw [hmean] at hlow
    have hle : halfSteps * (2 * k + 1) * step ≤ roundBits (total * unit) count := by
      refine le_roundBits_of_step hcount (total_lt_range hcount htotal) ?_
      calc halfSteps * (2 * k + 1) * step * count
          = halfSteps * step * ((2 * k + 1) * count) := by ring
        _ ≤ halfSteps * step * (2 * total) := Nat.mul_le_mul_left _ (by linarith)
        _ = total * unit := by rw [unit_eq]; ring
    calc (k + 1) * unit = halfSteps * (2 * k + 1) * step + halfSteps * step := by
          rw [unit_eq]; ring
      _ ≤ roundBits (total * unit) count + halfSteps * step := Nat.add_le_add_right hle _

/-- The stored quotient is more than a step below the middle between the mean and its successor. -/
theorem grains_lt_mean (hfew : 2 * count ≤ halfSteps) :
    roundBits (total * unit) count + step + halfSteps * step < (mean total count + 1) * unit := by
  have hround := roundBits_mul_lt hcount (total_lt_range hcount htotal)
  have hhigh : 2 * total + count + 1 ≤ 2 * ((mean total count + 1) * count) := by
    linarith [lt_mean_mul total hcount]
  refine Nat.lt_of_mul_lt_mul_right (a := count) ?_
  calc (roundBits (total * unit) count + step + halfSteps * step) * count
      < total * unit + step * (2 * count) + halfSteps * step * count := by linarith
    _ ≤ total * unit + step * halfSteps + halfSteps * step * count := by gcongr
    _ = halfSteps * step * (2 * total + count + 1) := by rw [unit_eq]; ring
    _ ≤ halfSteps * step * (2 * ((mean total count + 1) * count)) := Nat.mul_le_mul_left _ hhigh
    _ = (mean total count + 1) * unit * count := by rw [unit_eq]; ring

theorem mean_le : mean total count ≤ 100 := by
  refine Nat.le_of_lt_succ (Nat.lt_of_mul_lt_mul_right (a := count) ?_)
  have hlow := mean_mul_le total count
  omega

/-- Neither the quotient nor its sum with a half is rounded to another side of a whole number. -/
theorem storedMean?_eq_mean (hfew : 2 * count ≤ halfSteps) :
    storedMean? total count = some (mean total count) := by
  have hlow := mean_le_grains hcount htotal
  have hhigh := grains_lt_mean hcount htotal hfew
  have hmean : (mean total count + 1) * unit ≤ 101 * unit :=
    Nat.mul_le_mul_right unit (Nat.succ_le_succ (mean_le hcount htotal))
  have hbound : 101 * unit ≤ bound * unit := Nat.mul_le_mul_right unit (by decide +kernel)
  have hunit := unit_eq
  unfold storedMean? grains?
  generalize roundBits (total * unit) count = g at hlow hhigh ⊢
  generalize mean total count = k at hlow hhigh hmean ⊢
  have hrange : 2 * g + unit < 128 * unit * 2 := by omega
  have hge : k * unit ≤ roundBits (2 * g + unit) 2 := by
    have hsteps : k * unit = k * (2 * halfSteps) * step := by rw [unit_eq]; ring
    rw [hsteps] at hlow ⊢
    refine le_roundBits_of_step (by decide) hrange ?_
    omega
  have hlt : roundBits (2 * g + unit) 2 < (k + 1) * unit := by
    have hround := roundBits_mul_lt (by decide) hrange
    omega
  rw [if_pos (by omega), Option.map_some, Nat.div_eq_of_lt_le hge hlt]

end

-- -------------------------------------
-- The quality of files
-- -------------------------------------

variable {nodes others : List Node} {q : Int}

theorem sum_nonneg (nodes : List Node) : 0 ≤ (nodes.map Node.quality).sum :=
  List.sum_nonneg (List.forall_mem_map.mpr fun _ _ => le_max_left ..)

theorem toNat_sum_le (h : ∀ node ∈ nodes, node.quality ≤ 100) :
    (nodes.map Node.quality).sum.toNat ≤ 100 * nodes.length := by
  have hsum := List.sum_le_card_nsmul _ _ (List.forall_mem_map.mpr h)
  rw [List.length_map, nsmul_eq_mul] at hsum
  omega

theorem ofNodes?_eq_mean (hne : nodes ≠ []) (h : ∀ node ∈ nodes, node.quality ≤ 100) :
    ofNodes? nodes = some ((mean (nodes.map Node.quality).sum.toNat nodes.length : Nat) : Int) := by
  rw [List.sum, ofNodes?, if_neg (by simpa using hne)]
  exact if_pos (toNat_sum_le h)

theorem ofNodes?_eq_some_iff (hne : nodes ≠ []) (h : ∀ node ∈ nodes, node.quality ≤ 100) :
    ofNodes? nodes = some q ↔ IsMean (nodes.map Node.quality) q := by
  have hmapped : nodes.map Node.quality ≠ [] := by simpa using hne
  have hmean := IsMean.mean hmapped (sum_nonneg nodes)
  rw [List.length_map] at hmean
  rw [ofNodes?_eq_mean hne h, Option.some.injEq]
  constructor
  · rintro rfl
    exact hmean
  · exact hmean.unique hmapped

theorem quality_le (h : ∀ node ∈ nodes, 0 ≤ node.riskScore) :
    ∀ node ∈ nodes, node.quality ≤ 100 := by
  intro node hnode
  have hscore := h node hnode
  rw [Node.quality_eq]
  omega

theorem ofNodes?_perm (hne : nodes ≠ []) (h : ∀ node ∈ nodes, node.quality ≤ 100)
    (hperm : nodes.Perm others) (hq : ofNodes? nodes = some q) : ofNodes? others = some q := by
  have hothers : others ≠ [] := by
    rintro rfl
    exact hne hperm.eq_nil
  rw [ofNodes?_eq_some_iff hne h] at hq
  rw [ofNodes?_eq_some_iff hothers fun node hnode => h node (hperm.mem_iff.mpr hnode)]
  exact hq.perm (hperm.map _)

/-- The same number of files, none with a lower score than before. -/
def Raised (before after : List Node) : Prop :=
  List.Forall₂ (fun node raised => node.riskScore ≤ raised.riskScore) before after

theorem Raised.nonneg (h : Raised nodes others) (hscores : ∀ node ∈ nodes, 0 ≤ node.riskScore) :
    ∀ node ∈ others, 0 ≤ node.riskScore := by
  induction h with
  | nil => exact hscores
  | cons hhead _ ih =>
    rw [List.forall_mem_cons] at hscores ⊢
    exact ⟨hscores.1.trans hhead, ih hscores.2⟩

theorem Raised.sum_le (h : Raised nodes others) :
    (others.map Node.quality).sum ≤ (nodes.map Node.quality).sum := by
  refine List.Forall₂.sum_le_sum ?_
  rw [List.forall₂_map_left_iff, List.forall₂_map_right_iff]
  refine (List.Forall₂.imp (fun node raised hscore => ?_) h).flip
  show raised.quality ≤ node.quality
  rw [Node.quality_eq, Node.quality_eq]
  omega

theorem ofNodes?_raised (hne : nodes ≠ []) (hscores : ∀ node ∈ nodes, 0 ≤ node.riskScore)
    (hraised : Raised nodes others) (hq : ofNodes? nodes = some q) :
    ∃ r, ofNodes? others = some r ∧ r ≤ q := by
  have hlength : nodes.length = others.length := List.Forall₂.length_eq hraised
  have hothers : others ≠ [] := by
    rintro rfl
    exact hne (List.eq_nil_of_length_eq_zero hlength)
  have hbest := quality_le (hraised.nonneg hscores)
  obtain ⟨r, hr⟩ : ∃ r, ofNodes? others = some r := ⟨_, ofNodes?_eq_mean hothers hbest⟩
  refine ⟨r, hr, ?_⟩
  rw [ofNodes?_eq_some_iff hothers hbest] at hr
  rw [ofNodes?_eq_some_iff hne (quality_le hscores)] at hq
  exact hr.le_of_sum_le (by simpa using hothers) hq (by simpa using hlength.symm) hraised.sum_le

theorem IsMean.between (hne : nodes ≠ []) (hmean : IsMean (nodes.map Node.quality) q) :
    ∃ least ∈ nodes, ∃ greatest ∈ nodes,
      (∀ node ∈ nodes, least.quality ≤ node.quality ∧ node.quality ≤ greatest.quality) ∧
      least.quality ≤ q ∧ q ≤ greatest.quality := by
  have hmapped : nodes.map Node.quality ≠ [] := by simpa using hne
  have hfinite := List.finite_toSet nodes
  have hsome := List.exists_mem_of_ne_nil nodes hne
  obtain ⟨least, hleast, hmin⟩ := Set.exists_min_image _ Node.quality hfinite hsome
  obtain ⟨greatest, hgreatest, hmax⟩ := Set.exists_max_image _ Node.quality hfinite hsome
  exact ⟨least, hleast, greatest, hgreatest, fun node hnode => ⟨hmin node hnode, hmax node hnode⟩,
    hmean.le_of_forall_le hmapped (List.forall_mem_map.mpr hmin),
    hmean.ge_of_forall_le hmapped (List.forall_mem_map.mpr hmax)⟩

/-- Without negative scores the quality of some files is the rounded mean of what their scores leave
of a hundred, and no other number is. It lies between the least and the greatest quality of a file,
and so between zero and a hundred; it is the same for the files in any order, and not higher for
files with higher scores. With at most `2 ^ 44` files, the mean with binary precision is the same. -/
theorem ofNodes?_isMean (nodes : List Node) (hne : nodes ≠ [])
    (hscores : ∀ node ∈ nodes, 0 ≤ node.riskScore) :
    ∃ q, ofNodes? nodes = some q ∧
      (∀ k, IsMean (nodes.map fun node => max 0 (100 - node.riskScore)) k ↔ k = q) ∧
      (∃ least ∈ nodes, ∃ greatest ∈ nodes,
        (∀ node ∈ nodes, least.quality ≤ node.quality ∧ node.quality ≤ greatest.quality) ∧
        0 ≤ least.quality ∧ least.quality ≤ q ∧ q ≤ greatest.quality ∧ greatest.quality ≤ 100) ∧
      (∀ others, nodes.Perm others → ofNodes? others = some q) ∧
      (∀ others, Raised nodes others → ∃ r, ofNodes? others = some r ∧ r ≤ q) ∧
      (nodes.length ≤ Nat.pow 2 44 →
        storedMean? (nodes.map Node.quality).sum.toNat nodes.length = some q.toNat) := by
  have hqualities : nodes.map Node.quality = nodes.map fun node => max 0 (100 - node.riskScore) :=
    List.map_congr_left fun node _ => node.quality_eq
  have hbest := quality_le hscores
  have hq := ofNodes?_eq_mean hne hbest
  have hmean := (ofNodes?_eq_some_iff hne hbest).mp hq
  refine ⟨_, hq, fun k => ?_, ?_, fun others hperm => ofNodes?_perm hne hbest hperm hq,
    fun others hraised => ofNodes?_raised hne hscores hraised hq, fun hfew => ?_⟩
  · rw [← hqualities]
    exact ⟨fun hk => hk.unique (by simpa using hne) hmean, fun hk => hk ▸ hmean⟩
  · obtain ⟨least, hleast, greatest, hgreatest, hall, hlow, hhigh⟩ := hmean.between hne
    exact ⟨least, hleast, greatest, hgreatest, hall, le_max_left .., hlow, hhigh,
      hbest greatest hgreatest⟩
  · rw [Int.toNat_natCast]
    exact storedMean?_eq_mean (List.length_pos_iff.mpr hne) (toNat_sum_le hbest)
      (Nat.mul_le_mul_left 2 hfew)

namespace Sample

def file (id : Text) (score : Int) : Node :=
  { id, label := id, kind := "file", path := id, risk := some { score } }

/-- Qualities of 80 and 95, so that the mean is a half. -/
def files : List Node := [file ['a'] 20, file ['b'] 5]

end Sample

theorem ofNodes?_isMean_sample : (∀ node ∈ Sample.files, 0 ≤ node.riskScore) ∧
    ofNodes? Sample.files = some 88 ∧ ofNodes? Sample.files.reverse = some 88 ∧
    ∃ r, ofNodes? [Sample.file ['a'] 20, Sample.file ['b'] 120] = some r ∧ r ≤ 88 := by
  have hscores : ∀ node ∈ Sample.files, 0 ≤ node.riskScore := by decide
  obtain ⟨q, hq, -, -, hperm, hraised, -⟩ := ofNodes?_isMean Sample.files (by decide) hscores
  obtain rfl : q = 88 := Option.some.inj (hq.symm.trans (by decide))
  exact ⟨hscores, hq, hperm _ (List.reverse_perm _).symm,
    hraised _ (.cons (by decide) (.cons (by decide) .nil))⟩

end Quality

end RepoAtlas
