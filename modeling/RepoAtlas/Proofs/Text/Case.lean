import RepoAtlas.Text.Case

/-!
# Lower case is final

`Text.lower_lower`: to lower a text a second time changes nothing. No letter has an image that is
itself a letter with an image. The table says so by its runs, which are compared in pairs.
-/

namespace RepoAtlas.Text

/-- Letters with images, as the table has them: first, last, step, image of the first. -/
abbrev LetterRun := Nat × Nat × Nat × Nat

namespace LetterRun

def holds (r : LetterRun) (n : Nat) : Bool :=
  r.1 ≤ n && n ≤ r.2.1 && (n - r.1) % r.2.2.1 == 0

def image (r : LetterRun) (n : Nat) : Nat := r.2.2.2 + (n - r.1)

/-- The images of a run lie in front of another run, behind it, or between its letters. -/
def clears (r s : LetterRun) : Bool :=
  Nat.blt (r.image r.2.1) s.1 || Nat.blt s.2.1 r.2.2.2 ||
    ((r.2.2.1 == 2 || r.1 == r.2.1) && s.2.2.1 == 2 && (r.2.2.2 + s.1) % 2 == 1)

/-- The images of a run are characters, none of them the capital I with a dot, and in ASCII only
the small k. -/
def isSound (r : LetterRun) : Bool :=
  (Nat.blt (r.image r.2.1) 0xd800 || Nat.ble 0xe000 r.2.2.2 && Nat.blt (r.image r.2.1) 0x110000) &&
    (Nat.blt (r.image r.2.1) 0x130 || Nat.blt 0x130 r.2.2.2) &&
    (Nat.ble 128 r.2.2.2 || r.1 == r.2.1 && r.2.2.2 == 0x6b)

variable {r s : LetterRun} {n : Nat}

theorem not_holds_image (h : r.clears s = true) (hr : r.holds n = true) :
    s.holds (r.image n) = false := by
  obtain ⟨first, last, step, start⟩ := r
  obtain ⟨first', last', step', start'⟩ := s
  rw [Bool.eq_false_iff]
  intro hs
  simp only [clears, holds, Bool.and_eq_true, Bool.or_eq_true, decide_eq_true_eq, beq_iff_eq,
    Nat.blt_eq] at h hr hs
  simp only [image] at h hs
  rcases h with (hfront | hbehind) | ⟨⟨hstep, rfl⟩, hodd⟩
  · omega
  · omega
  · -- Two letters of the other run are an even number apart, and so are two images.
    rcases hstep with rfl | rfl <;> omega

theorem image_isValidChar (h : r.isSound = true) (hr : r.holds n = true) :
    (r.image n).isValidChar := by
  obtain ⟨first, last, step, start⟩ := r
  simp only [isSound, holds, image, Bool.and_eq_true, Bool.or_eq_true, decide_eq_true_eq,
    beq_iff_eq, Nat.blt_eq, Nat.ble_eq] at h hr
  simp only [image, Nat.isValidChar]
  omega

theorem image_cases (h : r.isSound = true) (hr : r.holds n = true) :
    r.image n ≠ 0x130 ∧ (128 ≤ r.image n ∨ r.image n = 0x6b) := by
  obtain ⟨first, last, step, start⟩ := r
  simp only [isSound, holds, image, Bool.and_eq_true, Bool.or_eq_true, decide_eq_true_eq,
    beq_iff_eq, Nat.blt_eq, Nat.ble_eq] at h hr
  simp only [image]
  omega

end LetterRun

theorem lowerRuns_sound : ∀ r ∈ lowerRuns, LetterRun.isSound r = true := by decide +kernel

theorem lowerRuns_clear : ∀ r ∈ lowerRuns, ∀ s ∈ lowerRuns, LetterRun.clears r s = true := by
  have hall : (lowerRuns.all fun r => lowerRuns.all (LetterRun.clears r)) = true := by
    decide +kernel
  intro r hr s hs
  exact List.all_eq_true.mp (List.all_eq_true.mp hall r hr) s hs

theorem lowerChar_eq (c : Char) (h : 128 ≤ c.toNat) :
    lowerChar c = ((lowerRuns.find? fun r => LetterRun.holds r c.toNat).map fun r =>
      Char.ofNat (LetterRun.image r c.toNat)).getD c := by
  have hascii : ¬c.toNat < 128 := by omega
  unfold lowerChar
  rw [if_neg hascii]
  split
  · rename_i first last step image hfind
    have hrun : lowerRuns.find? (fun r => LetterRun.holds r c.toNat) =
        some (first, last, step, image) := hfind
    rw [hrun]
    rfl
  · rename_i hfind
    have hrun : lowerRuns.find? (fun r => LetterRun.holds r c.toNat) = none := hfind
    rw [hrun]
    rfl

theorem lowerChar_of_not_holds {c : Char} (h : 128 ≤ c.toNat)
    (hruns : ∀ r ∈ lowerRuns, LetterRun.holds r c.toNat = false) : lowerChar c = c := by
  have hnone : lowerRuns.find? (fun r => LetterRun.holds r c.toNat) = none :=
    List.find?_eq_none.mpr fun r hr => by simp [hruns r hr]
  rw [lowerChar_eq c h, hnone]
  rfl

/-- A character that is its own image. -/
def IsLowered (c : Char) : Prop := c.toNat ≠ 0x3a3 ∧ c.toNat ≠ 0x130 ∧ lowerChar c = c

instance (c : Char) : Decidable (IsLowered c) := inferInstanceAs (Decidable (_ ∧ _))

theorem isLowered_of_ascii {c : Char} (h : c.toNat < 128) : IsLowered (lowerChar c) := by
  have hall : ∀ n < 128, IsLowered (lowerChar (Char.ofNat n)) := by decide +kernel
  simpa using hall c.toNat h

/-- What lies in a run has an image outside of all runs. -/
theorem isLowered_image {r : LetterRun} (hr : r ∈ lowerRuns) (hn : r.holds n = true) :
    IsLowered (Char.ofNat (r.image n)) := by
  have hsound := lowerRuns_sound r hr
  have hclear : ∀ s ∈ lowerRuns, LetterRun.holds s (r.image n) = false := fun s hs =>
    LetterRun.not_holds_image (lowerRuns_clear r hr s hs) hn
  have hcode : (Char.ofNat (r.image n)).toNat = r.image n := by
    rw [Char.ofNat, dif_pos (LetterRun.image_isValidChar hsound hn)]
    rfl
  obtain ⟨hdotted, hlarge | hk⟩ := LetterRun.image_cases hsound hn
  · have hsigma : r.image n ≠ 0x3a3 := by
      intro heq
      have hrun : LetterRun.holds (0x3a3, 0x3ab, 1, 0x3c3) (r.image n) = true := by
        rw [heq]
        rfl
      rw [hclear _ (by decide +kernel)] at hrun
      cases hrun
    have hfixed : lowerChar (Char.ofNat (r.image n)) = Char.ofNat (r.image n) :=
      lowerChar_of_not_holds (by rwa [hcode]) (by rwa [hcode])
    exact ⟨by rwa [hcode], by rwa [hcode], hfixed⟩
  · rw [hk]
    decide +kernel

theorem isLowered_lowerChar {c : Char} (hsigma : c.toNat ≠ 0x3a3) (hdotted : c.toNat ≠ 0x130) :
    IsLowered (lowerChar c) := by
  by_cases hascii : c.toNat < 128
  · exact isLowered_of_ascii hascii
  · rw [lowerChar_eq c (by omega)]
    cases hfind : lowerRuns.find? fun r => LetterRun.holds r c.toNat with
    | some r =>
      have hr : LetterRun.holds r c.toNat = true := by simpa using List.find?_some hfind
      exact isLowered_image (List.mem_of_find?_eq_some hfind) hr
    | none =>
      have hfixed : lowerChar c = c := by
        rw [lowerChar_eq c (by omega), hfind]
        rfl
      exact ⟨hsigma, hdotted, hfixed⟩

/-- Characters that are their own images stay as they are, whatever precedes them. -/
theorem lowerFrom_eq_self {t : Text} (h : ∀ c ∈ t, IsLowered c) (before : Text) :
    lowerFrom before t = t := by
  induction t generalizing before with
  | nil => rfl
  | cons c t ih =>
    obtain ⟨⟨hsigma, hdotted, hc⟩, ht⟩ := List.forall_mem_cons.mp h
    rw [lowerFrom, if_neg hsigma, if_neg hdotted, hc, ih ht]
    rfl

theorem isLowered_of_mem_lowerFrom {before t : Text} (h : c ∈ lowerFrom before t) :
    IsLowered c := by
  induction t generalizing before with
  | nil => cases h
  | cons first t ih =>
    rw [lowerFrom, List.mem_append] at h
    rcases h with h | h
    · split at h
      · split at h
        · rw [List.mem_singleton.mp h]
          decide +kernel
        · rw [List.mem_singleton.mp h]
          decide +kernel
      · split at h
        · rcases List.mem_cons.mp h with rfl | h
          · decide +kernel
          · rw [List.mem_singleton.mp h]
            decide +kernel
        · rename_i hsigma hdotted
          rw [List.mem_singleton.mp h]
          exact isLowered_lowerChar hsigma hdotted
    · exact ih h

theorem lower_lower (t : Text) : lower (lower t) = lower t :=
  lowerFrom_eq_self (fun _ hc => isLowered_of_mem_lowerFrom hc) []

end RepoAtlas.Text
