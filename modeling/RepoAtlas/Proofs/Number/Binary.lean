import RepoAtlas.Number.Binary

/-!
# Numbers as they are stored

Small whole numbers are stored exactly (`roundBits_one`). Larger ones lose at most one part in
`2 ^ 53` (`le_roundBits`), and are in range up to the middle between the largest stored number and
the first one out of range (`whole?_eq_some_iff`). Rounding takes a quotient past no stored number
below it (`le_roundBits_of_dvd`), and adds at most half of the spacing (`two_mul_roundBits_le`).
-/

namespace RepoAtlas.Number

variable {num den k m n : Nat}

-- -------------------------------------
-- Quotients
-- -------------------------------------

theorem div_le_roundDiv (num den : Nat) : num / den ≤ roundDiv num den := by
  unfold roundDiv
  grind

theorem roundDiv_le (num den : Nat) : roundDiv num den ≤ num / den + 1 := by
  unfold roundDiv
  grind

/-- What is lost by rounding is at most a half. -/
theorem two_mul_le_roundDiv (num : Nat) (hden : 0 < den) :
    2 * num ≤ 2 * (roundDiv num den * den) + den := by
  have hsplit := Nat.div_add_mod' num den
  have hrest := Nat.mod_lt num hden
  by_cases hdown : 2 * (num % den) ≤ den
  · have hle : num / den * den ≤ roundDiv num den * den :=
      Nat.mul_le_mul_right den (div_le_roundDiv num den)
    omega
  · have hup : roundDiv num den = num / den + 1 := by
      simp only [roundDiv, if_neg (show ¬2 * (num % den) < den by omega),
        if_pos (show den < 2 * (num % den) by omega)]
    rw [hup, Nat.add_mul]
    omega

theorem two_mul_roundDiv_le (num den : Nat) : 2 * (roundDiv num den * den) ≤ 2 * num + den := by
  have hsplit := Nat.div_add_mod' num den
  by_cases hdown : 2 * (num % den) < den
  · have hfloor : roundDiv num den = num / den := if_pos hdown
    rw [hfloor]
    omega
  · have hle := Nat.mul_le_mul_right den (roundDiv_le num den)
    rw [Nat.succ_mul] at hle
    omega

/-- An even number is reached from the middle below it on. -/
theorem roundDiv_lt_iff (hden : 0 < den) (hk : k % 2 = 0) :
    roundDiv num den < k ↔ 2 * num + den < 2 * (k * den) := by
  have hsplit := Nat.div_add_mod' num den
  have hrest := Nat.mod_lt num hden
  have hge := div_le_roundDiv num den
  have hle := roundDiv_le num den
  rcases Nat.lt_trichotomy (num / den + 1) k with hlt | heq | hgt
  · have hmul : (num / den + 2) * den ≤ k * den := Nat.mul_le_mul_right den hlt
    rw [Nat.add_mul] at hmul
    omega
  · have hodd : num / den % 2 = 1 := by omega
    have hmul : num / den * den + den = k * den := by rw [← heq, Nat.add_mul, Nat.one_mul]
    simp only [roundDiv]
    split
    · omega
    · split <;> omega
  · have hmul : k * den ≤ num / den * den := Nat.mul_le_mul_right den (by omega)
    omega

-- -------------------------------------
-- Whole numbers
-- -------------------------------------

/-- Whole numbers below this one need no rounding. -/
def exactBound : Nat := Nat.pow 2 precision

theorem exactBound_eq : exactBound = 9007199254740992 := rfl

theorem ne_zero_of_exactBound_le (h : exactBound ≤ n) : n ≠ 0 := by
  rintro rfl
  exact absurd h (by decide)

theorem roundBits_one (h : n < exactBound) : roundBits n 1 = n := by
  have hlog : n.log2 + 1 - precision = 0 := by
    by_cases hn : n = 0
    · simp [hn, precision]
    · have hlt : n.log2 < precision := (Nat.log2_lt hn).mpr h
      omega
  simp [roundBits, roundDiv, hlog, Nat.mod_one]

/-- The step between stored numbers near a whole number. -/
def spacing (n : Nat) : Nat := Nat.pow 2 (n.log2 + 1 - precision)

theorem spacing_pos (n : Nat) : 0 < spacing n := Nat.pow_pos (by decide)

theorem roundBits_eq (n : Nat) : roundBits n 1 = roundDiv n (spacing n) * spacing n := by
  simp only [roundBits, Nat.div_one, Nat.one_mul, spacing]

/-- From `exactBound` on a number has 52 binary digits behind its first one. -/
theorem mul_spacing (h : exactBound ≤ n) : Nat.pow 2 52 * spacing n = Nat.pow 2 n.log2 := by
  have hlog : 53 ≤ n.log2 := (Nat.le_log2 (ne_zero_of_exactBound_le h)).mpr h
  calc Nat.pow 2 52 * spacing n = Nat.pow 2 (52 + (n.log2 + 1 - 53)) := (Nat.pow_add ..).symm
    _ = Nat.pow 2 n.log2 := by
      congr 1
      omega

theorem mul_spacing_le (h : exactBound ≤ n) : Nat.pow 2 52 * spacing n ≤ n := by
  rw [mul_spacing h]
  exact Nat.log2_self_le (ne_zero_of_exactBound_le h)

/-- Rounding takes at most one part in `exactBound` away. -/
theorem le_roundBits (n : Nat) : (exactBound - 1) * n ≤ exactBound * roundBits n 1 := by
  by_cases hn : n < exactBound
  · rw [roundBits_one hn]
    exact Nat.mul_le_mul_right n (Nat.sub_le _ _)
  · have hspacing := mul_spacing_le (Nat.le_of_not_lt hn)
    have hround := two_mul_le_roundDiv n (spacing_pos n)
    rw [← roundBits_eq] at hround
    rw [exactBound_eq]
    rw [show Nat.pow 2 52 = 4503599627370496 from rfl] at hspacing
    omega

theorem roundBits_le (n : Nat) : roundBits n 1 ≤ 2 * n := by
  by_cases hn : n = 0
  · rw [hn]
    exact Nat.le_of_eq (roundBits_one (by decide))
  · have hspacing : spacing n ≤ n :=
      Nat.le_trans (Nat.pow_le_pow_right (by decide) (by unfold precision; omega))
        (Nat.log2_self_le hn)
    calc roundBits n 1 = roundDiv n (spacing n) * spacing n := roundBits_eq n
      _ ≤ (n / spacing n + 1) * spacing n := Nat.mul_le_mul_right _ (roundDiv_le n _)
      _ = n / spacing n * spacing n + spacing n := Nat.succ_mul ..
      _ ≤ 2 * n := by
        have := Nat.div_mul_le_self n (spacing n)
        omega

/-- Rounding keeps a number above the powers of two below it. -/
theorem pow_le_roundBits (h : exactBound ≤ n) (hk : k ≤ n.log2) :
    Nat.pow 2 k ≤ n ∧ Nat.pow 2 k ≤ roundBits n 1 := by
  have hpow : Nat.pow 2 k ≤ Nat.pow 2 n.log2 := Nat.pow_le_pow_right (by decide) hk
  have hquot : Nat.pow 2 52 ≤ n / spacing n :=
    (Nat.le_div_iff_mul_le (spacing_pos n)).mpr (mul_spacing_le h)
  rw [← mul_spacing h] at hpow
  refine ⟨Nat.le_trans hpow (mul_spacing_le h), Nat.le_trans hpow ?_⟩
  rw [roundBits_eq]
  exact Nat.mul_le_mul_right _ (Nat.le_trans hquot (div_le_roundDiv n _))

/-- A number is rounded below a power of two exactly if it lies below the middle between this power
and the stored number in front of it. -/
theorem roundBits_lt_pow_iff (hk : precision ≤ k) :
    roundBits n 1 < Nat.pow 2 (k + 1) ↔ n + Nat.pow 2 (k - precision) < Nat.pow 2 (k + 1) := by
  have hdouble : Nat.pow 2 (k + 1) = 2 * Nat.pow 2 k := Nat.pow_succ'
  have hstep : Nat.pow 2 (k - precision) ≤ Nat.pow 2 k :=
    Nat.pow_le_pow_right (by decide) (Nat.sub_le _ _)
  by_cases hsmall : n < Nat.pow 2 k
  · -- Rounding at most doubles a number.
    have hle := roundBits_le n
    omega
  · have hlarge := Nat.le_of_not_lt hsmall
    have hexact : exactBound ≤ n := Nat.le_trans (Nat.pow_le_pow_right (by decide) hk) hlarge
    have hlog := (Nat.le_log2 (ne_zero_of_exactBound_le hexact)).mpr hlarge
    rcases Nat.eq_or_lt_of_le hlog with hlog | hlog
    · have hspacing : spacing n = 2 * Nat.pow 2 (k - precision) := by
        rw [spacing, ← hlog, Nat.succ_sub hk]
        exact Nat.pow_succ'
      have hpow : exactBound * spacing n = Nat.pow 2 (k + 1) := by
        rw [spacing, ← hlog]
        exact (Nat.pow_add ..).symm.trans
          (congrArg _ (Nat.add_sub_cancel' (Nat.le_succ_of_le hk)))
      rw [roundBits_eq, ← hpow, Nat.mul_lt_mul_right (spacing_pos n),
        roundDiv_lt_iff (spacing_pos n) (by decide), hpow]
      omega
    · have hround := pow_le_roundBits hexact hlog
      rw [Nat.succ_eq_add_one] at hround
      omega

/-- The first whole number that is rounded out of range. -/
def rangeEnd : Nat := bound - Nat.pow 2 970

theorem whole?_eq_some_iff : whole? n = some m ↔ n < rangeEnd ∧ roundBits n 1 = m := by
  have hbound : bound = Nat.pow 2 (1023 + 1) := by decide +kernel
  have hend : rangeEnd + Nat.pow 2 (1023 - precision) = bound := by decide +kernel
  have hrange : roundBits n 1 < bound ↔ n < rangeEnd := by
    rw [hbound, roundBits_lt_pow_iff (k := 1023) (by decide), ← hbound, ← hend,
      Nat.add_lt_add_iff_right]
  unfold whole?
  simp only [Option.ite_none_right_eq_some, Option.some.injEq, hrange]

-- -------------------------------------
-- Quotients with binary precision
-- -------------------------------------

theorem spacing_dvd (hk : 0 < k) (hn : n < Nat.pow 2 k) :
    spacing n ∣ Nat.pow 2 (k - precision) := by
  refine Nat.pow_dvd_pow 2 (Nat.sub_le_sub_right ?_ precision)
  by_cases hzero : n = 0
  · rw [hzero]
    exact hk
  · exact (Nat.log2_lt hzero).mpr hn

theorem roundBits_eq_spacing (num den : Nat) :
    roundBits num den = roundDiv num (den * spacing (num / den)) * spacing (num / den) := rfl

theorem le_roundBits_of_dvd (hden : 0 < den) (hm : spacing (num / den) ∣ m) (h : m * den ≤ num) :
    m ≤ roundBits num den := by
  obtain ⟨c, rfl⟩ := hm
  have hc : c ≤ num / (den * spacing (num / den)) := by
    rw [Nat.le_div_iff_mul_le (Nat.mul_pos hden (spacing_pos _))]
    calc c * (den * spacing (num / den)) = spacing (num / den) * c * den := by
          rw [Nat.mul_comm den, ← Nat.mul_assoc, Nat.mul_comm c]
      _ ≤ num := h
  rw [roundBits_eq_spacing, Nat.mul_comm _ c]
  exact Nat.mul_le_mul_right _ (Nat.le_trans hc (div_le_roundDiv _ _))

theorem two_mul_roundBits_le (num den : Nat) :
    2 * (roundBits num den * den) ≤ 2 * num + den * spacing (num / den) := by
  calc 2 * (roundBits num den * den)
      = 2 * (roundDiv num (den * spacing (num / den)) * (den * spacing (num / den))) := by
        rw [roundBits_eq_spacing, Nat.mul_assoc, Nat.mul_comm (spacing _)]
    _ ≤ 2 * num + den * spacing (num / den) := two_mul_roundDiv_le ..

end RepoAtlas.Number
