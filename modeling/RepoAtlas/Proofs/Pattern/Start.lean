import RepoAtlas.Proofs.Pattern.Run

/-!
# What a pattern starts with

`StartsIn q p`: the pattern `p` matches only where the next character lies in the class `q`. To test
for the class first then changes nothing, and a repetition in front of the pattern whose characters
lie outside of the class never gives one back.
-/

namespace RepoAtlas.Pattern

/-- The pattern fails where the next character lies outside of the class. -/
def StartsIn (q : Char → Bool) (p : Pattern) : Prop :=
  ∀ s k, s.cursor.facing q = false → run p s k = none

variable {p q : Char → Bool} {a b : Pattern} {rest : List Pattern}

theorem startsIn_one (h : ∀ c, p c = true → q c = true) : StartsIn q (one p) := by
  rintro ⟨⟨before, ahead, n⟩, captures⟩ k hs
  cases ahead with
  | nil => rfl
  | cons x ahead =>
    have hx : ¬p x = true := fun hp => by simp [Cursor.facing, h x hp] at hs
    rw [run_one_cons, if_neg hx]

theorem startsIn_lit {word : Text} {x : Char} (hword : word.head? = some x) (hx : q x = true) :
    StartsIn q (lit word) := by
  rintro ⟨⟨before, ahead, n⟩, captures⟩ k hs
  cases word with
  | nil => cases hword
  | cons y word =>
    cases hword
    cases ahead with
    | nil => rfl
    | cons z ahead =>
      have hz : x ≠ z := by
        rintro rfl
        simp [Cursor.facing, hx] at hs
      simp [run, Cursor.eat?, hz]

theorem StartsIn.alt (ha : StartsIn q a) (hb : StartsIn q b) : StartsIn q (alt a b) := by
  intro s k hs
  rw [run_alt, ha s k hs, hb s k hs]
  rfl

theorem startsIn_oneOf {ps : List Pattern} (h : ∀ p ∈ ps, StartsIn q p) :
    StartsIn q (oneOf ps) := by
  induction ps with
  | nil => exact startsIn_one fun c hc => by cases hc
  | cons p ps ih =>
    obtain ⟨hp, hps⟩ := List.forall_mem_cons.mp h
    cases ps with
    | nil => exact hp
    | cons p' ps => exact hp.alt (ih hps)

theorem StartsIn.inOrder (ha : StartsIn q a) (rest : List Pattern) :
    StartsIn q (inOrder (a :: rest)) := by
  intro s k hs
  rw [run_inOrder_cons, ha s _ hs]

theorem startsIn_opt (ha : StartsIn q a) (hrest : StartsIn q (inOrder rest)) :
    StartsIn q (inOrder (opt a :: rest)) := by
  intro s k hs
  rw [run_inOrder_cons, opt, run_alt, ha s _ hs, Option.none_or]
  exact hrest s k hs

theorem startsIn_many (hp : ∀ c, p c = true → q c = true) (hrest : StartsIn q (inOrder rest)) :
    StartsIn q (inOrder (many p :: rest)) := by
  rintro ⟨⟨before, ahead, n⟩, captures⟩ k hs
  rw [run_inOrder_cons]
  cases ahead with
  | nil => exact hrest _ k hs
  | cons x ahead =>
    have hx : p x = false := by
      cases hpx : p x with
      | false => rfl
      | true => simp [Cursor.facing, hp x hpx] at hs
    rw [run_many_stop hx]
    exact hrest _ k hs

theorem startsIn_anyCase {word : Text} {x : Char} (hword : word.head? = some x)
    (hx : ∀ c, sameLetter x c = true → q c = true) : StartsIn q (anyCase word) := by
  cases word with
  | nil => cases hword
  | cons y word =>
    cases hword
    intro s k hs
    change run (one (sameLetter x)) s (fun s' => run (anyCase word) s' k) = none
    exact startsIn_one hx s _ hs

theorem run_inOrder_append (ps : List Pattern) {rest other : List Pattern}
    (h : ∀ s k, run (inOrder rest) s k = run (inOrder other) s k) (s : State) (k : Rest) :
    run (inOrder (ps ++ rest)) s k = run (inOrder (ps ++ other)) s k := by
  induction ps generalizing s with
  | nil => exact h s k
  | cons a ps ih =>
    rw [List.cons_append, List.cons_append, run_inOrder_cons, run_inOrder_cons]
    exact congrArg (run a s) (funext ih)

/-- A test for what a pattern starts with can be left out. -/
theorem run_here_facing (h : StartsIn q (inOrder rest)) (s : State) (k : Rest) :
    run (inOrder (here (Cursor.facing q) :: rest)) s k = run (inOrder rest) s k := by
  rw [run_inOrder_cons]
  simp only [run]
  split
  · rfl
  · rename_i hfacing
    exact (h s k (by simpa using hfacing)).symm

/-- A repetition takes all it can if what follows cannot start with any of its characters. -/
theorem run_many_eq_whole (h : StartsIn q (inOrder rest))
    (hdisjoint : ∀ c, p c = true → q c = false) (s : State) (k : Rest) :
    run (inOrder (many p :: rest)) s k = run (inOrder (whole p :: rest)) s k := by
  rw [run_inOrder_cons, run_inOrder_cons]
  obtain ⟨⟨before, ahead, n⟩, captures⟩ := s
  induction ahead generalizing before n with
  | nil => rfl
  | cons x ahead ih =>
    by_cases hx : p x = true
    · have hback : run (Pattern.inOrder rest) ⟨⟨before, x :: ahead, n⟩, captures⟩ k = none :=
        h _ k (hdisjoint x hx)
      rw [run_many_cons hx, hback, Option.or_none, ih]
      exact congrArg (fun c => run (Pattern.inOrder rest) ⟨c, captures⟩ k)
        (Cursor.skip_cons hx before ahead n).symm
    · have hx : p x = false := by simpa using hx
      rw [run_many_stop hx]
      exact congrArg (fun c => run (Pattern.inOrder rest) ⟨c, captures⟩ k)
        (Cursor.skip_stop hx before ahead n).symm

end RepoAtlas.Pattern
