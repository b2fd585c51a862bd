import RepoAtlas.Script.Statement

/-!
# Room for scripts

A token adds a bounded amount to the room that is taken, so only a script with many tokens takes
more than there is (`room_lt_of_exhaustsRoom`).
-/

namespace RepoAtlas.Script

namespace Climb

/-- What can be open after `n` tokens. -/
structure Bounded (s : Climb) (n : Nat) : Prop where
  chain : s.chain.choices + s.chain.signs ≤ 2 * n
  outer : ∀ c ∈ s.outer, c.choices + c.signs ≤ 2 * n
  alternatives : ∀ a ∈ s.alternatives, a ≤ n
  peak : s.peak ≤ 3 * n

variable {s : Climb}

/-- The start of a line counts at most one more alternative, and changes no chain. -/
theorem startLine_bounded (h : s.Bounded n) (token : Token) :
    (∀ a ∈ (s.startLine token).alternatives, a ≤ n + 1) ∧
      ∃ lineStart alternatives, s.startLine token = { s with lineStart, alternatives } := by
  have hmore : ∀ a ∈ s.alternatives, a ≤ n + 1 := fun a ha =>
    Nat.le_succ_of_le (h.alternatives a ha)
  unfold startLine
  split
  · exact ⟨hmore, _, _, rfl⟩
  · split
    · exact ⟨List.forall_mem_cons.mpr ⟨Nat.zero_le _, hmore⟩, _, _, rfl⟩
    · exact ⟨fun a ha => hmore a (List.mem_of_mem_tail ha), _, _, rfl⟩
    · rename_i count levels hlevels
      obtain ⟨hcount, hrest⟩ := List.forall_mem_cons.mp (hlevels ▸ h.alternatives)
      exact ⟨List.forall_mem_cons.mpr ⟨Nat.succ_le_succ hcount,
        fun a ha => Nat.le_succ_of_le (hrest a ha)⟩, _, _, rfl⟩
    · rename_i count levels _ hlevels
      obtain ⟨-, hrest⟩ := List.forall_mem_cons.mp (hlevels ▸ hmore)
      exact ⟨List.forall_mem_cons.mpr ⟨Nat.zero_le _, hrest⟩, _, _, rfl⟩
    · exact ⟨hmore, _, _, rfl⟩

/-- A token adds at most two to a chain. -/
theorem read_bounded (hchain : s.chain.choices + s.chain.signs ≤ m)
    (houter : ∀ c ∈ s.outer, c.choices + c.signs ≤ m) (token : Token) :
    (s.read token).chain.choices + (s.read token).chain.signs ≤ m + 2 ∧
      (∀ c ∈ (s.read token).outer, c.choices + c.signs ≤ m + 2) ∧
      (s.read token).alternatives = s.alternatives ∧ (s.read token).peak = s.peak := by
  have hmore : ∀ c ∈ s.outer, c.choices + c.signs ≤ m + 2 := fun c hc =>
    Nat.le_add_right_of_le (houter c hc)
  have hclose : (s.outer.headD {}).choices + (s.outer.headD {}).signs ≤ m + 2 := by
    cases hs : s.outer with
    | nil => exact Nat.zero_le _
    | cons c outer => exact hmore c (by simp [hs])
  have hopen : ∀ c ∈ s.chain :: s.outer, c.choices + c.signs ≤ m + 2 :=
    List.forall_mem_cons.mpr ⟨Nat.le_add_right_of_le hchain, hmore⟩
  unfold read
  extract_lets c
  have hc : c.choices + c.signs ≤ m := hchain
  split
  · exact ⟨Nat.zero_le _, hmore, rfl, rfl⟩
  · split
    · exact ⟨Nat.zero_le _, hopen, rfl, rfl⟩
    · split
      · exact ⟨hclose, fun c hc => hmore c (List.mem_of_mem_tail hc), rfl, rfl⟩
      · split
        · exact ⟨by simp only [expect]; omega, hmore, rfl, rfl⟩
        · split
          · exact ⟨Nat.zero_le _, hmore, rfl, rfl⟩
          · split
            · exact ⟨by simp only [expect]; omega, hmore, rfl, rfl⟩
            · exact ⟨by simp only [expect]; omega, hmore, rfl, rfl⟩
  · split
    · exact ⟨Nat.le_add_right_of_le hchain, hmore, rfl, rfl⟩
    · split
      · exact ⟨by simp only [expect]; omega, hmore, rfl, rfl⟩
      · split
        · exact ⟨by simp only [expect]; omega, hmore, rfl, rfl⟩
        · split
          · exact ⟨by simp only [expect]; omega, hmore, rfl, rfl⟩
          · exact ⟨by simp only [expect]; omega, hmore, rfl, rfl⟩
  all_goals exact ⟨Nat.le_add_right_of_le hchain, hmore, rfl, rfl⟩

theorem step_bounded (h : s.Bounded n) (token : Token) : (s.step token).Bounded (n + 1) := by
  obtain ⟨halternatives, lineStart, alternatives, hstart⟩ := startLine_bounded h token
  rw [hstart] at halternatives
  have hread := @read_bounded { s with lineStart, alternatives } _ h.chain h.outer token
  obtain ⟨hchain, houter, hsame, hpeak⟩ := hread
  unfold step
  rw [hstart]
  refine ⟨hchain, houter, ?_, ?_⟩
  · rw [hsame]
    exact halternatives
  · have hhead : alternatives.headD 0 ≤ n + 1 := by
      cases alternatives with
      | nil => exact Nat.zero_le _
      | cons a rest => exact halternatives a (.head _)
    simp only [hsame, hpeak]
    have hold := h.peak
    omega

theorem foldl_step_bounded (h : s.Bounded n) (ts : List Token) :
    (ts.foldl step s).Bounded (n + ts.length) := by
  induction ts generalizing s n with
  | nil => exact h
  | cons token ts ih =>
    have hrest := ih (step_bounded h token)
    rwa [Nat.add_right_comm, Nat.add_assoc] at hrest

end Climb

/-- Only a script with many tokens takes too much room. -/
theorem room_lt_of_exhaustsRoom (h : exhaustsRoom ts = true) : room < 3 * ts.length := by
  have hempty : ({} : Climb).Bounded 0 := ⟨by decide, by decide, by decide, by decide⟩
  have hpeak := (Climb.foldl_step_bounded hempty ts).peak
  rw [Nat.zero_add] at hpeak
  exact Nat.lt_of_lt_of_le (of_decide_eq_true h) hpeak

end RepoAtlas.Script
