import Mathlib.Algebra.Order.Field.Rat
import Mathlib.Algebra.Order.Field.Power
import Mathlib.Tactic.NormNum
import RepoAtlas.Proofs.Risk.Score

/-!
# Risk grows with what it measures

`RiskProfile.detail_rises`: as long as no weight is negative and the higher of two tiers weighs at
least as much as the lower one, a file that is longer, more complex, commented less, used more or
using more, or found in a cycle, has at least the score and the level that it had before. Thresholds
are arbitrary, also in the wrong order. The score is the sum of the weights of the factors listed.
-/

namespace RepoAtlas

-- -------------------------------------
-- Ratios as exact numbers
-- -------------------------------------

namespace Decimal

/-- The number that a decimal stands for. -/
def value (d : Decimal) : ℚ := d.coefficient * (10 : ℚ) ^ d.exponent

theorem value_eq_scaled {d : Decimal} {e : Int} (h : e ≤ d.exponent) :
    d.value = d.scaled e * (10 : ℚ) ^ e := by
  obtain ⟨n, hn⟩ := Int.le.dest h
  have hpow : (10 : ℚ) ^ d.exponent = 10 ^ n * 10 ^ e := by
    rw [← hn, add_comm, zpow_add₀ (by norm_num), zpow_natCast]
  have hplaces : (d.exponent - e).toNat = n := by omega
  simp [value, scaled, hplaces, hpow, mul_assoc]

theorem lt_iff {a b : Decimal} : a.lt b = true ↔ a.value < b.value := by
  have hpow : (0 : ℚ) < 10 ^ min a.exponent b.exponent := by positivity
  rw [value_eq_scaled (Int.min_le_left a.exponent b.exponent),
    value_eq_scaled (Int.min_le_right a.exponent b.exponent), mul_lt_mul_iff_left₀ hpow, Int.cast_lt]
  simp [lt]

end Decimal

namespace Ratio

variable {a b : Ratio} {x : ℚ} {d : Decimal}

/-- The number that a ratio stands for, if there is one. -/
def number? : Ratio → Option ℚ
  | decimal d => some d.value
  | special .negativeZero => some 0
  | special _ => none

/-- The same ratio, or a number that is not larger. -/
def AtMost (a b : Ratio) : Prop :=
  a = b ∨ ∃ x y, a.number? = some x ∧ b.number? = some y ∧ x ≤ y

theorem lt_iff_of_number? (h : a.number? = some x) : a.lt d = true ↔ x < d.value := by
  cases a with
  | decimal e =>
    cases h
    exact Decimal.lt_iff
  | special s =>
    cases s with
    | negativeZero =>
      cases h
      simp [Ratio.lt, Decimal.lt_iff, Decimal.value]
    | undefined => cases h
    | infinite negative => cases h

theorem AtMost.lt (h : a.AtMost b) (hb : b.lt d = true) : a.lt d = true := by
  rcases h with rfl | ⟨x, y, hx, hy, hxy⟩
  · exact hb
  · rw [lt_iff_of_number? hy] at hb
    rw [lt_iff_of_number? hx]
    exact hxy.trans_lt hb

end Ratio

-- -------------------------------------
-- Levels
-- -------------------------------------

def RiskLevel.rank : RiskLevel → Nat
  | low => 0
  | medium => 1
  | high => 2

instance : LE RiskLevel := ⟨fun a b => a.rank ≤ b.rank⟩

instance (a b : RiskLevel) : Decidable (a ≤ b) := inferInstanceAs (Decidable (a.rank ≤ b.rank))

/-- A level may be reached by a higher score only, whichever threshold is the larger one. -/
theorem RiskPolicy.level_mono (policy : RiskPolicy) {s t : Int} (h : s ≤ t) :
    policy.level s ≤ policy.level t := by
  show (policy.level s).rank ≤ (policy.level t).rank
  unfold level
  split
  · have ht : t > policy.highScore := by omega
    simp [ht]
  · split
    · have ht : t > policy.mediumScore := by omega
      rw [if_pos ht]
      split
      · exact Nat.le_succ 1
      · exact Nat.le_refl 1
    · exact Nat.zero_le _

-- -------------------------------------
-- Weights
-- -------------------------------------

/-- No weight is negative, and of two tiers the higher one weighs at least as much. -/
structure RiskPolicy.Rising (policy : RiskPolicy) : Prop where
  lines : 0 ≤ policy.linesMediumWeight ∧ policy.linesMediumWeight ≤ policy.linesHighWeight
  complexity : 0 ≤ policy.complexityMediumWeight ∧
    policy.complexityMediumWeight ≤ policy.complexityHighWeight
  lowComment : 0 ≤ policy.lowCommentWeight
  fanIn : 0 ≤ policy.fanInMediumWeight ∧ policy.fanInMediumWeight ≤ policy.fanInHighWeight
  fanOut : 0 ≤ policy.fanOutHighWeight
  cycle : 0 ≤ policy.cycleWeight
  anyType : 0 ≤ policy.anyTypeWeight

namespace RiskFactor

variable {policy : RiskPolicy}

theorem weight_nonneg (h : policy.Rising) (f : RiskFactor) : 0 ≤ f.weight policy := by
  obtain ⟨hlines, hcomplexity, hcomment, hfanIn, hfanOut, hcycle, hany⟩ := h
  cases f <;> simp only [weight] <;> omega

/-- The weights of factors taken together. -/
def total (policy : RiskPolicy) (factors : List RiskFactor) : Int :=
  (factors.map (·.weight policy)).foldr (· + ·) 0

@[simp] theorem total_nil : total policy [] = 0 := rfl

@[simp] theorem total_cons (f : RiskFactor) (factors : List RiskFactor) :
    total policy (f :: factors) = f.weight policy + total policy factors := rfl

@[simp] theorem total_append (front back : List RiskFactor) :
    total policy (front ++ back) = total policy front + total policy back := by
  induction front with
  | nil => simp
  | cons f front ih => simp [ih, Int.add_assoc]

theorem total_nonneg (h : policy.Rising) (factors : List RiskFactor) :
    0 ≤ total policy factors := by
  induction factors with
  | nil => simp
  | cons f factors ih =>
    have hf := f.weight_nonneg h
    simp only [total_cons]
    omega

/-- The weights by the first ten characters of the texts, which hold no number. -/
def weights (policy : RiskPolicy) : List (Text × Int) := [
  ("Large file", policy.linesHighWeight), ("Moderately", policy.linesMediumWeight),
  ("High cyclo", policy.complexityHighWeight), ("Moderate c", policy.complexityMediumWeight),
  ("Low commen", policy.lowCommentWeight), ("High fan-i", policy.fanInHighWeight),
  ("Moderate f", policy.fanInMediumWeight), ("High fan-o", policy.fanOutHighWeight),
  ("Part of a ", policy.cycleWeight), ("Uses 'any'", policy.anyTypeWeight)]

/-- The weight of a factor that is given by its text. -/
def listedWeight (policy : RiskPolicy) (text : Text) : Int :=
  (((weights policy).find? (·.1 == text.take 10)).map Prod.snd).getD 0

theorem listedWeight_text (policy : RiskPolicy) (f : RiskFactor) :
    listedWeight policy f.text = f.weight policy := by
  cases f <;> rfl

end RiskFactor

-- -------------------------------------
-- Profiles
-- -------------------------------------

namespace RiskProfile

open RiskFactor

/-- `q` is the same file as `p` with some of what makes it risky raised. -/
structure Below (p q : RiskProfile) : Prop where
  lines : p.metrics.lines ≤ q.metrics.lines
  complexity : p.metrics.complexity ≤ q.metrics.complexity
  commentRatio : q.metrics.commentRatio.AtMost p.metrics.commentRatio
  fanIn : p.fanIn ≤ q.fanIn
  fanOut : p.fanOut ≤ q.fanOut
  inCycle : p.inCycle = true → q.inCycle = true
  extension : q.extension = p.extension
  content : q.content = p.content

variable {policy : RiskPolicy}

/-- Two tiers: the thresholds may be in any order, since the higher tier is asked for first. -/
theorem total_graded_mono {value value' high medium : Int} {f f' g g' : RiskFactor}
    (hvalue : value ≤ value') (hf : f'.weight policy = f.weight policy)
    (hg : g'.weight policy = g.weight policy)
    (hweights : 0 ≤ g.weight policy ∧ g.weight policy ≤ f.weight policy) :
    total policy (graded value high medium f g) ≤ total policy (graded value' high medium f' g') := by
  unfold graded
  repeat' split
  all_goals
    simp only [total_cons, total_nil]
    omega

theorem total_if_mono {c c' : Prop} [Decidable c] [Decidable c'] {f f' : RiskFactor} (hc : c → c')
    (hf : f'.weight policy = f.weight policy) (hweight : 0 ≤ f.weight policy) :
    total policy (if c then [f] else []) ≤ total policy (if c' then [f'] else []) := by
  split
  · rename_i h
    simp [hc h, hf]
  · split
    · simpa [hf] using hweight
    · simp

theorem score_mono (hpolicy : policy.Rising) {p q : RiskProfile} (h : p.Below q) :
    p.score policy ≤ q.score policy := by
  have hany : q.usesAnyType policy = p.usesAnyType policy := by
    simp [usesAnyType, h.extension, h.content]
  show total policy (p.factors policy) ≤ total policy (q.factors policy)
  simp only [factors, total_append, hany]
  refine Int.add_le_add (Int.add_le_add (Int.add_le_add (Int.add_le_add (Int.add_le_add
    (Int.add_le_add ?lines ?complexity) ?comments) ?fanIn) ?fanOut) ?cycle) (Int.le_refl _)
  case lines => exact total_graded_mono h.lines rfl rfl hpolicy.lines
  case complexity => exact total_graded_mono h.complexity rfl rfl hpolicy.complexity
  case comments =>
    refine total_if_mono (fun hlow => ?_) rfl hpolicy.lowComment
    simp only [Bool.and_eq_true, decide_eq_true_eq] at hlow ⊢
    exact ⟨h.commentRatio.lt hlow.1, hlow.2.trans_le h.lines⟩
  case fanIn => exact total_graded_mono h.fanIn rfl rfl hpolicy.fanIn
  case fanOut => exact total_if_mono (fun hhigh => hhigh.trans_le h.fanOut) rfl hpolicy.fanOut
  case cycle => exact total_if_mono h.inCycle rfl hpolicy.cycle

/-- The score is the sum of the weights of the factors that are listed. If no weight is negative and
of two tiers the higher one weighs at least as much, no score is negative, and to raise what makes a
file risky lowers neither its score nor its level. -/
theorem detail_rises (policy : RiskPolicy) :
    (∀ profile : RiskProfile, (profile.detail policy).score =
      ((profile.detail policy).factors.map (listedWeight policy)).foldr (· + ·) 0) ∧
    (policy.Rising → (∀ profile : RiskProfile, 0 ≤ (profile.detail policy).score) ∧
      ∀ p q : RiskProfile, p.Below q →
        (p.detail policy).score ≤ (q.detail policy).score ∧
        ∃ before after : RiskLevel, (p.detail policy).level = before.name ∧
          (q.detail policy).level = after.name ∧ before ≤ after) := by
  refine ⟨fun profile => ?_, fun hpolicy => ⟨fun profile => total_nonneg hpolicy _, ?_⟩⟩
  · have hweights : listedWeight policy ∘ text = (·.weight policy) :=
      funext (listedWeight_text policy)
    simp only [detail, score, List.map_map, hweights]
  · intro p q h
    have hscore := score_mono hpolicy h
    exact ⟨hscore, _, _, rfl, rfl, policy.level_mono hscore⟩

namespace Sample

/-- Thresholds in the wrong order. -/
def crossed : RiskPolicy := { linesHigh := 100, linesMedium := 400, highScore := 15 }

def before : RiskProfile where
  metrics := { lines := 60, complexity := 15, commentRatio := .decimal ⟨1, -1⟩ }
  extension := ".py"
  content := []

def after : RiskProfile where
  metrics := { lines := 101, complexity := 15, commentRatio := .decimal ⟨4, -2⟩ }
  extension := ".py"
  content := []
  inCycle := true

end Sample

/-- More lines, fewer comments and a cycle, from a low level to a high one. -/
theorem detail_rises_sample :
    Sample.crossed.Rising ∧ Sample.before.Below Sample.after ∧
      (Sample.before.detail Sample.crossed).level = "low".toList ∧
      (Sample.after.detail Sample.crossed).level = "high".toList ∧
      (Sample.before.detail Sample.crossed).score ≤ (Sample.after.detail Sample.crossed).score ∧
      0 ≤ (Sample.before.detail Sample.crossed).score := by
  have hpolicy : Sample.crossed.Rising :=
    ⟨by decide, by decide, by decide, by decide, by decide, by decide, by decide⟩
  have hratio : Sample.after.metrics.commentRatio.AtMost Sample.before.metrics.commentRatio :=
    .inr ⟨_, _, rfl, rfl, by norm_num [Decimal.value]⟩
  have hbelow : Sample.before.Below Sample.after :=
    ⟨by decide, by decide, hratio, by decide, by decide, fun _ => rfl, rfl, rfl⟩
  obtain ⟨hnonneg, hrises⟩ := (detail_rises Sample.crossed).2 hpolicy
  exact ⟨hpolicy, hbelow, by decide +kernel, by decide +kernel,
    (hrises _ _ hbelow).1, hnonneg Sample.before⟩

end RiskProfile

end RepoAtlas
