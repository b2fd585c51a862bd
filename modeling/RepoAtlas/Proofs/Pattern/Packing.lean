import RepoAtlas.Proofs.Pattern.Search

/-!
# Matches of a fixed width

Searching from left to right and going on behind each match does not find all places where a pattern
matches, since matches may overlap. `Pattern.Packing.le_findAll`: if all matches have the same width,
no other choice of matches that do not overlap has more of them.

`Cursor.Wider`: a place seen in a text that goes on at both ends with something that belongs to no
word. What matches in the smaller text matches there too.
-/

namespace RepoAtlas

namespace Cursor

variable {c d e : Cursor} {t u : Text}

theorem Passes.rest (h : c.Passes t d) (h' : c.Passes (t ++ u) e) : d.Passes u e := by
  obtain ⟨hahead, hbefore, hposition⟩ := h
  obtain ⟨hahead', hbefore', hposition'⟩ := h'
  refine ⟨?_, ?_, ?_⟩
  · rw [hahead, List.append_assoc] at hahead'
    exact List.append_cancel_left hahead'
  · rw [hbefore', hbefore, List.reverse_append, List.append_assoc]
  · rw [hposition', hposition, List.length_append, Nat.add_assoc]

/-- Of two texts that start at one place, the shorter one ends in front of the longer one. -/
theorem Passes.reaches (h : c.Passes t d) (h' : c.Passes u e) (hle : t.length ≤ u.length) :
    d.Reaches e := by
  obtain ⟨rest, rfl⟩ : t <+: u :=
    List.prefix_of_prefix_length_le ⟨_, h.1.symm⟩ ⟨_, h'.1.symm⟩ hle
  exact ⟨rest, h.rest h'⟩

/-- `d` is the place `c` in a text that goes on at both ends, where it does not go on with a word. -/
structure Wider (c d : Cursor) : Prop where
  before : ∃ left, d.before = c.before ++ left ∧ left.head?.any Text.isWord = false
  ahead : ∃ right, d.ahead = c.ahead ++ right ∧ right.head?.any Text.isWord = false

theorem Wider.behind (h : c.Wider d) : d.behind Text.isWord = c.behind Text.isWord := by
  obtain ⟨left, hbefore, hleft⟩ := h.before
  unfold Cursor.behind
  rw [hbefore]
  cases c.before with
  | nil => cases left <;> simp_all
  | cons x before => rfl

theorem Wider.facing (h : c.Wider d) : d.facing Text.isWord = c.facing Text.isWord := by
  obtain ⟨right, hahead, hright⟩ := h.ahead
  unfold Cursor.facing
  rw [hahead]
  cases c.ahead with
  | nil => cases right <;> simp_all
  | cons x ahead => rfl

theorem Wider.past (h : c.Wider d) (hpass : c.Passes t e) :
    d.Passes t (d.past t) ∧ e.Wider (d.past t) := by
  obtain ⟨left, hbefore, hleft⟩ := h.before
  obtain ⟨right, hahead, hright⟩ := h.ahead
  obtain ⟨hpassed, hbehind, -⟩ := hpass
  have hd : d.ahead = t ++ (e.ahead ++ right) := by rw [hahead, hpassed, List.append_assoc]
  refine ⟨(passes_past hd).1, ⟨left, ?_, hleft⟩, right, ahead_past hd, hright⟩
  rw [Cursor.past, hbefore, hbehind, List.append_assoc]

end Cursor

namespace Pattern

variable {p a b : Pattern} {q : Char → Bool} {n k : Nat} {c d e : Cursor} {m : Match}

/-- Wherever the pattern matches, it passes `n` characters, and in a wider text it passes the same
ones. -/
def Fixed (n : Nat) (p : Pattern) : Prop :=
  ∀ s k r, run p s k = some r → ∃ passed c, passed.length = n ∧ s.cursor.Passes passed c ∧
    k ⟨c, s.captures⟩ = some r ∧ ∀ (s' : State) (k' : Rest), s.cursor.Wider s'.cursor →
      run p s' k' = k' ⟨s'.cursor.past passed, s'.captures⟩

theorem fixed_lit (word : Text) : Fixed word.length (lit word) := by
  intro s k r h
  obtain ⟨c, hc, hk⟩ := run_lit_inv h
  refine ⟨word, c, rfl, hc, hk, fun s' k' hwider => ?_⟩
  have heat := Cursor.eat?_eq_some_iff.mpr (hwider.past hc).1
  simp only [run, heat]

theorem fixed_one (q : Char → Bool) : Fixed 1 (one q) := by
  intro s k r h
  obtain ⟨x, c, hx, hc, hk⟩ := run_one_inv h
  refine ⟨[x], c, rfl, hc, hk, ?_⟩
  rintro ⟨⟨before, ahead, n⟩, captures⟩ k' hwider
  obtain ⟨rest, rfl⟩ : ∃ rest, ahead = x :: rest := ⟨_, (hwider.past hc).1.1⟩
  rw [run_one_cons, if_pos hx]
  rfl

theorem fixed_wordEdge : Fixed 0 wordEdge := by
  intro s k r h
  simp only [wordEdge, run] at h
  split at h
  · rename_i hedge
    refine ⟨[], s.cursor, rfl, .nil _, h, fun s' k' hwider => ?_⟩
    simp only [wordEdge, run]
    rw [hwider.behind, hwider.facing, if_pos hedge]
    simp [Cursor.past]
  · cases h

theorem Fixed.seq (ha : Fixed n a) (hb : Fixed k b) : Fixed (n + k) (seq a b) := by
  intro s rest r h
  obtain ⟨front, c, rfl, hc, hrest, hwide⟩ := ha s _ r h
  obtain ⟨back, d, rfl, hd, hr, hwide'⟩ := hb _ rest r hrest
  refine ⟨front ++ back, d, List.length_append, hc.append hd, hr, fun s' k' hwider => ?_⟩
  obtain ⟨hpass, hwider'⟩ := hwider.past hc
  have hfront : run (seq a b) s' k' = run b ⟨s'.cursor.past front, s'.captures⟩ k' :=
    hwide s' _ hwider
  rw [hfront, hwide' ⟨s'.cursor.past front, s'.captures⟩ k' hwider', Cursor.past_append hpass.1]

theorem Fixed.matchAt? (h : Fixed n p) (hm : p.matchAt? c = some m) :
    ∃ passed, passed.length = n ∧ c.Passes passed m.last ∧ ∀ d, c.Wider d →
      ∃ m', p.matchAt? d = some m' ∧ m'.last = d.past passed := by
  obtain ⟨r, hrun, rfl⟩ := Option.map_eq_some_iff.mp hm
  obtain ⟨passed, e, hlength, he, hr, hwide⟩ := h _ _ _ hrun
  cases hr
  refine ⟨passed, hlength, he, fun d hwider => ?_⟩
  have hwider : run p ⟨d, []⟩ some = some ⟨d.past passed, []⟩ := hwide ⟨d, []⟩ some hwider
  exact ⟨⟨d, d.past passed, []⟩, by rw [Pattern.matchAt?, hwider]; rfl, rfl⟩

-- -------------------------------------
-- Choices of matches
-- -------------------------------------

/-- From a place on, so many matches can be chosen of which none overlaps another. -/
inductive Packing (p : Pattern) : Cursor → Nat → Prop
  | zero (c : Cursor) : Packing p c 0
  | next {c d : Cursor} {m : Match} {n : Nat} (hreach : c.Reaches d)
      (hmatch : p.matchAt? d = some m) (hrest : Packing p m.last n) : Packing p c (n + 1)

namespace Packing

theorem prepend (h : Packing p d n) (hreach : c.Reaches d) : Packing p c n := by
  cases h with
  | zero => exact .zero c
  | next hreach' hmatch hrest => exact .next (hreach.trans hreach') hmatch hrest

theorem le_length (hp : Fixed k p) (hk : 0 < k) (h : Packing p c n) : n ≤ c.ahead.length := by
  induction h with
  | zero => exact Nat.zero_le _
  | next hreach hmatch hrest ih =>
    obtain ⟨passed, rfl, hpassed, -⟩ := hp.matchAt? hmatch
    obtain ⟨front, hfront, -⟩ := hreach
    rw [hfront, hpassed.1, List.length_append, List.length_append]
    omega

end Packing

theorem matchAt?_first (h : p.matchAt? c = some m) : m.first = c := by
  obtain ⟨r, -, rfl⟩ := Option.map_eq_some_iff.mp h
  rfl

/-- A search finds a match that starts no later than a given one. -/
theorem exists_searchAt? (hreach : c.Reaches d) (hm : p.matchAt? d = some m) :
    ∃ m', p.searchAt? c = some m' ∧ m'.first.Reaches d := by
  obtain ⟨passed, hpassed⟩ := hreach
  induction passed generalizing c with
  | nil =>
    obtain ⟨before, ahead, n⟩ := c
    obtain ⟨hahead, hbefore, hposition⟩ := hpassed
    obtain rfl : d = ⟨before, ahead, n⟩ := by
      cases d
      simp_all
    exact ⟨m, searchAt?_of_matchAt? hm, matchAt?_first hm ▸ .refl _⟩
  | cons x passed ih =>
    obtain ⟨before, ahead, n⟩ := c
    obtain rfl : ahead = x :: (passed ++ d.ahead) := hpassed.1
    rw [searchAt?_cons]
    cases hhere : p.matchAt? ⟨before, x :: (passed ++ d.ahead), n⟩ with
    | some m' => exact ⟨m', rfl, matchAt?_first hhere ▸ ⟨_, hpassed⟩⟩
    | none =>
      rw [Option.none_or]
      refine ih ⟨rfl, ?_, ?_⟩
      · simp [hpassed.2.1]
      · have := hpassed.2.2
        simp only [List.length_cons] at this ⊢
        omega

variable (hp : Fixed k p) (hk : 0 < k)
include hp hk

theorem resume?_of_fixed (hm : p.searchAt? c = some m) : resume? m = some m.last := by
  obtain ⟨passed, rfl, ⟨-, -, hposition⟩, -⟩ := hp.matchAt? (matchAt?_of_searchAt? hm)
  exact if_pos (by omega)

theorem length_matchesFrom (hm : p.searchAt? c = some m) (limit : Nat) :
    (p.matchesFrom (limit + 1) c []).length = (p.matchesFrom limit m.last []).length + 1 := by
  rw [matchesFrom_some hm, resume?_of_fixed hp hk hm, Option.elim_some, matchesFrom_eq]
  simp [Nat.add_comm]

theorem packing_matchesFrom (limit : Nat) (c : Cursor) :
    Packing p c (p.matchesFrom limit c []).length := by
  induction limit generalizing c with
  | zero => exact .zero c
  | succ limit ih =>
    cases hm : p.searchAt? c with
    | none =>
      rw [matchesFrom_none hm]
      exact .zero c
    | some m =>
      rw [length_matchesFrom hp hk hm]
      exact .next (searchAt?_reaches hm).1 (matchAt?_of_searchAt? hm) (ih m.last)

/-- The match that is found ends no later than the first of any choice, so that the others of the
choice still lie ahead. -/
theorem Packing.le_matchesFrom (h : Packing p c n) {limit : Nat} (hlimit : n ≤ limit) :
    n ≤ (p.matchesFrom limit c []).length := by
  induction n generalizing c limit with
  | zero => exact Nat.zero_le _
  | succ n ih =>
    cases h with
    | next hreach hmatch hrest =>
      obtain ⟨limit, rfl⟩ := Nat.exists_eq_add_of_le' hlimit
      obtain ⟨found, hfound, front, hfront⟩ := exists_searchAt? hreach hmatch
      obtain ⟨passed, hlength, hpassed, -⟩ := hp.matchAt? (matchAt?_of_searchAt? hfound)
      obtain ⟨chosen, hlength', hchosen, -⟩ := hp.matchAt? hmatch
      have hend : found.last.Reaches _ := hpassed.reaches (hfront.append hchosen) (by simp; omega)
      have hlater : n ≤ (p.matchesFrom (limit + n) found.last []).length :=
        ih (hrest.prepend hend) (by omega)
      rw [← Nat.add_assoc, length_matchesFrom hp hk hfound]
      omega

theorem packing_findAll (t : Text) : Packing p (Cursor.start t) (p.findAll t).length :=
  packing_matchesFrom hp hk _ _

/-- Leftmost matches are as many as any matches that do not overlap. -/
theorem Packing.le_findAll {t : Text} (h : Packing p (Cursor.start t) n) :
    n ≤ (p.findAll t).length := by
  refine h.le_matchesFrom hp hk (Nat.le_succ_of_le ?_)
  exact h.le_length hp hk

omit hk in
/-- A choice in a text and one behind it make one choice in any text that has both. -/
theorem Packing.join {n' : Nat} (h : Packing p c n) (hwider : c.Wider d)
    (he : (d.past c.ahead).Reaches e) (h' : Packing p e n') : Packing p d (n + n') := by
  induction h generalizing d with
  | zero c =>
    obtain ⟨right, hahead, -⟩ := hwider.ahead
    rw [Nat.zero_add]
    exact h'.prepend (.trans ⟨_, (Cursor.passes_past hahead).1⟩ he)
  | @next c place m n hreach hmatch hrest ih =>
    obtain ⟨front, hfront⟩ := hreach
    obtain ⟨passed, -, hpassed, hwide⟩ := hp.matchAt? hmatch
    obtain ⟨hpass, hplace⟩ := hwider.past hfront
    obtain ⟨m', hmatch', hlast⟩ := hwide _ hplace
    obtain ⟨hpass', hend⟩ := hplace.past hpassed
    have hsame : ((d.past front).past passed).past m.last.ahead = d.past c.ahead := by
      rw [Cursor.past_append hpass'.1, Cursor.past_append hpass.1, hfront.1, hpassed.1]
    rw [Nat.add_right_comm]
    refine .next ⟨front, hpass⟩ hmatch' ?_
    rw [hlast]
    exact ih hend (hsame ▸ he)

theorem length_findAll_append (a b : Text) :
    (p.findAll a).length + (p.findAll b).length ≤ (p.findAll (a ++ '\n' :: b)).length := by
  let whole := Cursor.start (a ++ '\n' :: b)
  have hahead : whole.ahead = a ++ ['\n'] ++ b := by simp [whole, Cursor.start]
  have hfront : (Cursor.start a).Wider whole := ⟨⟨[], rfl, rfl⟩, '\n' :: b, rfl, rfl⟩
  have hback : (Cursor.start b).Wider (whole.past (a ++ ['\n'])) :=
    ⟨⟨'\n' :: a.reverse, by simp [whole, Cursor.past, Cursor.start], rfl⟩,
      [], by rw [Cursor.ahead_past hahead, List.append_nil]; rfl, rfl⟩
  have hbetween : (whole.past a).Reaches (whole.past (a ++ ['\n'])) :=
    Cursor.Passes.reaches (Cursor.passes_past rfl).1 (Cursor.passes_past hahead).1 (by simp)
  have hbehind := (packing_findAll hp hk b).join hp hback (.refl _) (.zero _)
  exact ((packing_findAll hp hk a).join hp hfront hbetween hbehind).le_findAll hp hk

end Pattern

end RepoAtlas
