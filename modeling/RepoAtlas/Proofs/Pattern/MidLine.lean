import RepoAtlas.Proofs.Pattern.LineEnds

/-!
# Patterns that end with the line

In a text whose lines all end in a carriage return and a line feed, the end of a line has one of
these two characters behind it. A pattern that comes to the end of a line from inside the line
matches nowhere in such a text.
-/

namespace RepoAtlas

namespace Cursor

/-- The character passed last is there, and is neither carriage return nor line feed. -/
def MidLine (c : Cursor) : Prop := ∃ x before, c.before = x :: before ∧ x ≠ '\r' ∧ x ≠ '\n'

variable {t : Text} {c : Cursor}

theorem append_eq_withReturns {front back : Text}
    (h : front ++ '\n' :: back = Text.withReturns t) : ∃ rest, front = rest ++ ['\r'] := by
  induction t generalizing front with
  | nil => simp at h
  | cons x t ih =>
    by_cases hx : x = '\n'
    · subst hx
      rw [Text.withReturns_newline] at h
      match front with
      | [] => simp at h
      | [y] =>
        obtain ⟨rfl, -⟩ : y = '\r' ∧ back = Text.withReturns t := by simpa using h
        exact ⟨[], rfl⟩
      | y :: z :: front =>
        have hfront : front ++ '\n' :: back = Text.withReturns t := by simp_all
        obtain ⟨rest, rfl⟩ := ih hfront
        exact ⟨y :: z :: rest, rfl⟩
    · rw [Text.withReturns_cons hx] at h
      match front with
      | [] => exact absurd (by simpa using h.symm) (fun h : x = '\n' ∧ _ => hx h.1)
      | y :: front =>
        have hfront : front ++ '\n' :: back = Text.withReturns t := by simp_all
        obtain ⟨rest, rfl⟩ := ih hfront
        exact ⟨y :: rest, rfl⟩

/-- The ends of the lines are not reached in mid-line. -/
theorem MidLine.not_lineEnd (hmid : c.MidLine) (hon : c.On (Text.withReturns (t ++ ['\n']))) :
    (c.ahead.isEmpty || c.facing (· == '\n')) = false := by
  obtain ⟨before, ahead, n⟩ := c
  obtain ⟨x, before', hbefore, hreturn, hnewline⟩ := hmid
  have htext := hon.text
  simp only at hbefore htext
  subst hbefore
  cases ahead with
  | nil =>
    have hreverse := congrArg List.reverse htext
    simp [Text.withReturns_append, hnewline] at hreverse
  | cons y ahead =>
    by_cases hy : y = '\n'
    · subst hy
      obtain ⟨rest, hrest⟩ := append_eq_withReturns htext
      have := congrArg List.getLast? hrest
      simp_all
    · simp [facing, hy]

end Cursor

namespace Pattern

/-- Fails at all places of a text that have a property. -/
def Fails (t : Text) (P : Cursor → Prop) (k : Rest) : Prop :=
  ∀ s : State, s.cursor.On t → P s.cursor → k s = none

/-- A pattern fails where `P` holds, if the work behind it fails where `Q` holds. -/
def Blocks (t : Text) (Q P : Cursor → Prop) (p : Pattern) : Prop :=
  ∀ k, Fails t Q k → ∀ s : State, s.cursor.On t → P s.cursor → run p s k = none

def Nowhere (_ : Cursor) : Prop := False

def Anywhere (_ : Cursor) : Prop := True

namespace Blocks

variable {t : Text} {P Q : Cursor → Prop} {p stop : Char → Bool} {a b : Pattern}

theorem mid (h : Blocks t Q Anywhere a) : Blocks t Q P a :=
  fun k hk s hon _ => h k hk s hon trivial

theorem empty : Blocks t P P empty := fun _ hk => hk

/-- Whatever pattern comes first, nothing is found if the rest never is. -/
theorem any : Blocks t Anywhere Anywhere a := by
  intro k hk s hon _
  cases h : run a s k with
  | none => rfl
  | some r =>
    obtain ⟨s', hreach, hs'⟩ := movesAhead a h
    rw [hk s' (hon.reaches hreach) trivial] at hs'
    cases hs'

theorem seq {M : Cursor → Prop} (ha : Blocks t M P a) (hb : Blocks t Q M b) :
    Blocks t Q P (seq a b) :=
  fun k hk => ha _ (hb k hk)

theorem alt (ha : Blocks t Q P a) (hb : Blocks t Q P b) : Blocks t Q P (alt a b) := by
  intro k hk s hon hs
  have hfirst : run a s k = none := ha k hk s hon hs
  have hsecond : run b s k = none := hb k hk s hon hs
  simp [run_alt, hfirst, hsecond]

theorem opt (ha : Blocks t P P a) : Blocks t P P (opt a) := ha.alt empty

theorem cons {M : Cursor → Prop} {rest : List Pattern} (ha : Blocks t M P a)
    (hrest : Blocks t Q M (inOrder rest)) : Blocks t Q P (inOrder (a :: rest)) := by
  intro k hk s hon hs
  simp only [run_inOrder_cons]
  exact ha _ (hrest k hk) s hon hs

theorem capture {name : String} (ha : Blocks t Q P a) : Blocks t Q P (capture name a) := by
  intro k hk s hon hs
  rw [run]
  refine ha _ ?_ s hon hs
  intro s' hon' hs'
  exact hk _ hon' hs'

theorem midLine_of_apart {x : Char} (hp : Apart p) (hx : p x = true) (before ahead : Text)
    (n : Nat) : Cursor.MidLine ⟨x :: before, ahead, n⟩ := by
  refine ⟨x, before, rfl, ?_, ?_⟩
  · rintro rfl
    rw [hp.1] at hx
    cases hx
  · rintro rfl
    rw [hp.2] at hx
    cases hx

theorem one (hp : Apart p) : Blocks t Cursor.MidLine Anywhere (one p) := by
  rintro k hk ⟨⟨before, ahead, n⟩, captures⟩ hon -
  cases ahead with
  | nil => rfl
  | cons x ahead =>
    rw [run_one_cons]
    split
    · rename_i hx
      exact hk _ hon.pass (midLine_of_apart hp hx ..)
    · rfl

theorem many (hp : Apart p) : Blocks t Cursor.MidLine Cursor.MidLine (many p) := by
  rintro k hk ⟨⟨before, ahead, n⟩, captures⟩ hon hmid
  induction ahead generalizing before n with
  | nil => exact hk _ hon hmid
  | cons x ahead ih =>
    by_cases hx : p x = true
    · rw [run_many_cons hx, ih _ _ hon.pass (midLine_of_apart hp hx ..)]
      exact hk _ hon hmid
    · rw [run_many_stop (by simpa using hx)]
      exact hk _ hon hmid

theorem many1 (hp : Apart p) : Blocks t Cursor.MidLine Anywhere (many1 p) := (one hp).seq (many hp)

theorem few (hp : Apart p) : Blocks t Cursor.MidLine Cursor.MidLine (few p stop) := by
  rintro k hk ⟨⟨before, ahead, n⟩, captures⟩ hon hmid
  induction ahead generalizing before n with
  | nil => exact hk _ hon hmid
  | cons x ahead ih =>
    have hhere : k ⟨⟨before, x :: ahead, n⟩, captures⟩ = none := hk _ hon hmid
    rw [run_few_cons, hhere]
    by_cases hx : p x = true
    · simp [hx, ih _ _ hon.pass (midLine_of_apart hp hx ..)]
    · simp [hx]

theorem few1 (hp : Apart p) : Blocks t Cursor.MidLine Anywhere (few1 p) := (one hp).seq (few hp)

theorem lit {word : Text} (hword : Unbroken word) :
    Blocks t Cursor.MidLine Anywhere (lit word) := by
  intro k hk s hon _
  rw [run]
  split
  · rename_i c heat
    have hreach := Cursor.eat?_eq_some_iff.mp heat
    obtain ⟨x, rest, hx⟩ := List.exists_cons_of_ne_nil (List.reverse_ne_nil_iff.mpr hword.1)
    have hmem : x ∈ word := by
      rw [← List.mem_reverse, hx]
      exact .head _
    refine hk _ (hon.reaches ⟨word, hreach⟩) ⟨x, rest ++ s.cursor.before, ?_, ?_, ?_⟩
    · rw [hreach.2.1, hx]
      rfl
    · rintro rfl
      exact hword.2.1 hmem
    · rintro rfl
      exact hword.2.2 hmem
  · rfl

theorem lineEnd : Blocks (Text.withReturns (t ++ ['\n'])) Nowhere Cursor.MidLine lineEnd := by
  intro k _ s hon hmid
  rw [Pattern.lineEnd, run, hmid.not_lineEnd hon]
  rfl

/-- A pattern that fails everywhere in a text has no matches. -/
theorem findAll (h : Blocks t Nowhere Anywhere a) : a.findAll t = [] := by
  have hmatch (c : Cursor) (hon : c.On t) : a.matchAt? c = none := by
    rw [matchAt?, h some (fun _ _ hs => hs.elim) ⟨c, []⟩ hon trivial]
    rfl
  have hsearch (c : Cursor) (hon : c.On t) : a.searchAt? c = none := by
    obtain ⟨before, ahead, n⟩ := c
    induction ahead generalizing before n with
    | nil => exact hmatch _ hon
    | cons x ahead ih => rw [searchAt?_cons, hmatch _ hon, ih _ _ hon.pass]; rfl
  exact matchesFrom_none (hsearch _ (Cursor.on_start t)) ..

end Blocks

end Pattern

end RepoAtlas
