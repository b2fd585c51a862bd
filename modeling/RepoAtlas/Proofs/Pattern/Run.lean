import RepoAtlas.Pattern.Build

/-!
# Runs of patterns

One law for each kind of pattern that can consume something: what the matcher tries at a place, and
in which order. A repetition of a class is a choice, made anew at each character of the class,
between going on and stopping. A run that succeeds tells what text it has passed.
-/

namespace RepoAtlas

namespace Cursor

/-- A place of the text `t`. -/
structure On (t : Text) (c : Cursor) : Prop where
  text : c.before.reverse ++ c.ahead = t
  position : c.position = c.before.length

variable {t : Text} {c d : Cursor} {x : Char} {p : Char → Bool}

theorem on_start (t : Text) : (start t).On t := ⟨rfl, rfl⟩

theorem On.pass {before ahead : Text} {n : Nat} (h : On t ⟨before, x :: ahead, n⟩) :
    On t ⟨x :: before, ahead, n + 1⟩ where
  text := by simpa using h.text
  position := congrArg (· + 1) h.position

theorem On.position_add (h : c.On t) : c.position + c.ahead.length = t.length := by
  rw [h.position, ← h.text, List.length_append, List.length_reverse]

/-- `d` lies behind the text `passed` that starts at `c`. -/
def Passes (c : Cursor) (passed : Text) (d : Cursor) : Prop :=
  c.ahead = passed ++ d.ahead ∧ d.before = passed.reverse ++ c.before ∧
    d.position = c.position + passed.length

theorem Passes.nil (c : Cursor) : c.Passes [] c := ⟨rfl, rfl, rfl⟩

theorem Passes.append {e : Cursor} {first second : Text} (h : c.Passes first d)
    (h' : d.Passes second e) : c.Passes (first ++ second) e := by
  obtain ⟨hahead, hbefore, hposition⟩ := h
  obtain ⟨hahead', hbefore', hposition'⟩ := h'
  refine ⟨?_, ?_, ?_⟩
  · rw [hahead, hahead', List.append_assoc]
  · rw [hbefore', hbefore, List.reverse_append, List.append_assoc]
  · rw [hposition', hposition, List.length_append, Nat.add_assoc]

theorem passes_one (x : Char) (before ahead : Text) (n : Nat) :
    Passes ⟨before, x :: ahead, n⟩ [x] ⟨x :: before, ahead, n + 1⟩ := ⟨rfl, rfl, rfl⟩

theorem eat?_eq_some_iff {word : Text} : c.eat? word = some d ↔ c.Passes word d := by
  unfold Passes
  induction word generalizing c with
  | nil =>
    obtain ⟨before, ahead, n⟩ := c
    obtain ⟨before', ahead', n'⟩ := d
    simp only [eat?, Option.some.injEq, Cursor.mk.injEq, List.nil_append, List.reverse_nil,
      List.length_nil, Nat.add_zero]
    exact ⟨fun ⟨hb, ha, hn⟩ => ⟨ha, hb.symm, hn.symm⟩, fun ⟨ha, hb, hn⟩ => ⟨hb.symm, ha, hn.symm⟩⟩
  | cons x word ih =>
    obtain ⟨before, ahead, n⟩ := c
    cases ahead with
    | nil => simp [eat?]
    | cons y ahead =>
      by_cases hxy : x = y
      · subst hxy
        simp [eat?, ih, Nat.add_assoc, Nat.add_comm 1]
      · simp [eat?, hxy, Ne.symm hxy]

/-- `d` lies ahead of `c`, or at the same place. -/
def Reaches (c d : Cursor) : Prop := ∃ passed, c.Passes passed d

theorem Reaches.refl (c : Cursor) : c.Reaches c := ⟨[], .nil c⟩

theorem Reaches.trans {e : Cursor} (h : c.Reaches d) (h' : d.Reaches e) : c.Reaches e := by
  obtain ⟨passed, hpassed⟩ := h
  obtain ⟨passed', hpassed'⟩ := h'
  exact ⟨_, hpassed.append hpassed'⟩

theorem Reaches.pass {before ahead : Text} {n : Nat}
    (h : Reaches ⟨x :: before, ahead, n + 1⟩ d) : Reaches ⟨before, x :: ahead, n⟩ d :=
  .trans ⟨[x], passes_one ..⟩ h

theorem Reaches.position_le (h : c.Reaches d) : c.position ≤ d.position := by
  obtain ⟨passed, -, -, hposition⟩ := h
  omega

theorem On.reaches (hc : c.On t) (h : c.Reaches d) : d.On t := by
  obtain ⟨passed, hahead, hbefore, hposition⟩ := h
  constructor
  · rw [← hc.text, hahead, hbefore]
    simp
  · rw [hposition, hc.position, hbefore]
    simp [Nat.add_comm]

theorem run_count (p : Char → Bool) (before : Text) (n count : Nat) (ahead : Text) :
    run p before n (count + 1) ahead =
      ((run p before n count ahead).1, (run p before n count ahead).2 + 1) := by
  induction ahead generalizing before n count with
  | nil => rfl
  | cons x ahead ih =>
    simp only [run]
    split
    · exact ih ..
    · rfl

theorem repeat_back_run (p : Char → Bool) (before : Text) (n : Nat) (ahead : Text) :
    Nat.repeat back (run p before n 0 ahead).2 (run p before n 0 ahead).1 =
      ⟨before, ahead, n⟩ := by
  induction ahead generalizing before n with
  | nil => rfl
  | cons x ahead ih =>
    simp only [run]
    split
    · rw [run_count, Nat.repeat, ih]
      rfl
    · rfl

theorem run_fst (p : Char → Bool) (before : Text) (n count : Nat) (ahead : Text) :
    (run p before n count ahead).1 = ⟨(ahead.takeWhile p).reverse ++ before,
      ahead.dropWhile p, n + (ahead.takeWhile p).length⟩ := by
  induction ahead generalizing before n count with
  | nil => rfl
  | cons x ahead ih =>
    by_cases hx : p x = true
    · simp [run, hx, ih, Nat.add_assoc, Nat.add_comm 1]
    · simp [run, hx]

/-- The end of the run of characters of a class. -/
def skip (p : Char → Bool) (c : Cursor) : Cursor := (run p c.before c.position 0 c.ahead).1

theorem skip_cons (hx : p x = true) (before ahead : Text) (n : Nat) :
    skip p ⟨before, x :: ahead, n⟩ = skip p ⟨x :: before, ahead, n + 1⟩ := by
  simp only [skip, run_fst, hx, List.takeWhile_cons_of_pos, List.dropWhile_cons_of_pos]
  simp [Nat.add_assoc, Nat.add_comm 1]

theorem skip_stop (hx : p x = false) (before ahead : Text) (n : Nat) :
    skip p ⟨before, x :: ahead, n⟩ = ⟨before, x :: ahead, n⟩ := by
  simp [skip, run, hx]

theorem reaches_skip (p : Char → Bool) (c : Cursor) : c.Reaches (c.skip p) :=
  ⟨c.ahead.takeWhile p, by simp [Passes, skip, run_fst]⟩

end Cursor

namespace Pattern

variable {p stop : Char → Bool} {k : Rest} {s r : State} {captures : List Capture}

theorem run_alt (a b : Pattern) (s : State) (k : Rest) :
    run (alt a b) s k = (run a s k).or (run b s k) := by
  simp only [run]
  cases run a s k <;> rfl

theorem run_inOrder_cons (a : Pattern) (rest : List Pattern) (s : State) (k : Rest) :
    run (inOrder (a :: rest)) s k = run a s fun s' => run (inOrder rest) s' k := by
  cases rest <;> rfl

-- -------------------------------------
-- Greedy repetition
-- -------------------------------------

theorem backOff_step (captures : List Capture) (k : Rest) (count : Nat) (c : Cursor) :
    backOff captures k (count + 1) c =
      (k ⟨c, captures⟩).or (backOff captures k count c.back) := by
  rw [backOff]
  cases k ⟨c, captures⟩ <;> rfl

theorem backOff_succ (captures : List Capture) (k : Rest) (count : Nat) (c : Cursor) :
    backOff captures k (count + 1) c =
      (backOff captures k count c).or (k ⟨Nat.repeat Cursor.back (count + 1) c, captures⟩) := by
  induction count generalizing c with
  | zero => exact backOff_step ..
  | succ count ih =>
    have hback (n : Nat) :
        Nat.repeat Cursor.back n c.back = Nat.repeat Cursor.back (n + 1) c := by
      induction n with
      | zero => rfl
      | succ n ih => exact congrArg Cursor.back ih
    rw [backOff_step, ih, backOff_step _ _ count, Option.or_assoc, hback]

theorem run_many_stop {x : Char} (hx : p x = false) (before ahead : Text) (n : Nat) (k : Rest) :
    run (many p) ⟨⟨before, x :: ahead, n⟩, captures⟩ k =
      k ⟨⟨before, x :: ahead, n⟩, captures⟩ := by
  simp [run, Cursor.run, hx, backOff]

theorem run_many_cons {x : Char} (hx : p x = true) (before ahead : Text) (n : Nat) (k : Rest) :
    run (many p) ⟨⟨before, x :: ahead, n⟩, captures⟩ k =
      (run (many p) ⟨⟨x :: before, ahead, n + 1⟩, captures⟩ k).or
        (k ⟨⟨before, x :: ahead, n⟩, captures⟩) := by
  simp only [run, Cursor.run, hx, if_true, Cursor.run_count]
  rw [backOff_succ, Nat.repeat, Cursor.repeat_back_run]
  rfl

/-- The place itself is tried last. -/
theorem rest_none_of_run_many (h : run (many p) s k = none) : k s = none := by
  obtain ⟨⟨before, ahead, n⟩, captures⟩ := s
  cases ahead with
  | nil => exact h
  | cons x ahead =>
    by_cases hx : p x = true
    · rw [run_many_cons hx, Option.or_eq_none_iff] at h
      exact h.2
    · rwa [run_many_stop (by simpa using hx)] at h

/-- When the rest of the work cannot fail, a repetition takes the whole run. -/
theorem run_many_of_some (hk : ∀ s, (k s).isSome) (s : State) :
    run (many p) s k = k ⟨s.cursor.skip p, s.captures⟩ := by
  simp only [run, Cursor.skip]
  generalize Cursor.run p s.cursor.before s.cursor.position 0 s.cursor.ahead = found
  obtain ⟨c, count⟩ := found
  cases count with
  | zero => rfl
  | succ count =>
    obtain ⟨r, hr⟩ := Option.isSome_iff_exists.mp (hk ⟨c, s.captures⟩)
    simp [backOff_step, hr]

-- -------------------------------------
-- Other patterns
-- -------------------------------------

theorem run_one_cons (p : Char → Bool) (x : Char) (before ahead : Text) (n : Nat) (k : Rest) :
    run (one p) ⟨⟨before, x :: ahead, n⟩, captures⟩ k =
      if p x then k ⟨⟨x :: before, ahead, n + 1⟩, captures⟩ else none := rfl

theorem run_few_cons (p stop : Char → Bool) (x : Char) (before ahead : Text) (n : Nat) (k : Rest) :
    run (few p stop) ⟨⟨before, x :: ahead, n⟩, captures⟩ k =
      (if stop x then k ⟨⟨before, x :: ahead, n⟩, captures⟩ else none).or
        (if p x then run (few p stop) ⟨⟨x :: before, ahead, n + 1⟩, captures⟩ k else none) := by
  simp only [run, goOn]
  cases (if stop x then k ⟨⟨before, x :: ahead, n⟩, captures⟩ else none) <;> rfl

-- -------------------------------------
-- What a run that succeeds has passed
-- -------------------------------------

theorem run_lit_inv {word : Text} (h : run (lit word) s k = some r) :
    ∃ c, s.cursor.Passes word c ∧ k ⟨c, s.captures⟩ = some r := by
  simp only [run] at h
  split at h
  · rename_i c heat
    exact ⟨c, Cursor.eat?_eq_some_iff.mp heat, h⟩
  · cases h

theorem run_one_inv (h : run (one p) s k = some r) :
    ∃ x c, p x = true ∧ s.cursor.Passes [x] c ∧ k ⟨c, s.captures⟩ = some r := by
  obtain ⟨⟨before, ahead, n⟩, captures⟩ := s
  cases ahead with
  | nil => cases h
  | cons x ahead =>
    rw [run_one_cons] at h
    split at h
    · exact ⟨x, _, ‹_›, Cursor.passes_one .., h⟩
    · cases h

theorem run_many_inv (h : run (many p) s k = some r) :
    ∃ passed c, (∀ x ∈ passed, p x = true) ∧ s.cursor.Passes passed c ∧
      k ⟨c, s.captures⟩ = some r := by
  obtain ⟨⟨before, ahead, n⟩, captures⟩ := s
  induction ahead generalizing before n with
  | nil => exact ⟨[], _, by simp, .nil _, h⟩
  | cons x ahead ih =>
    by_cases hx : p x = true
    · rw [run_many_cons hx, Option.or_eq_some_iff] at h
      rcases h with h | ⟨-, h⟩
      · obtain ⟨passed, c, hpassed, hc, hk⟩ := ih _ _ h
        exact ⟨x :: passed, c, by simpa [hx] using hpassed, (Cursor.passes_one ..).append hc, hk⟩
      · exact ⟨[], _, by simp, .nil _, h⟩
    · rw [run_many_stop (by simpa using hx)] at h
      exact ⟨[], _, by simp, .nil _, h⟩

theorem run_many1_inv (h : run (many1 p) s k = some r) :
    ∃ passed c, passed ≠ [] ∧ (∀ x ∈ passed, p x = true) ∧ s.cursor.Passes passed c ∧
      k ⟨c, s.captures⟩ = some r := by
  have hone : run (one p) s (fun s' => run (many p) s' k) = some r := h
  obtain ⟨x, c, hx, hc, hmany⟩ := run_one_inv hone
  obtain ⟨passed, d, hpassed, hd, hk⟩ := run_many_inv hmany
  exact ⟨x :: passed, d, by simp, by simpa [hx] using hpassed, hc.append hd, hk⟩

-- -------------------------------------
-- Every run moves ahead
-- -------------------------------------

theorem greedyRounds_cons (m : Matcher) (x : Char) (ahead : Text) (s : State) (k : Rest) :
    greedyRounds m (x :: ahead) s k =
      (m s fun s' =>
        if s.cursor.position < s'.cursor.position then greedyRounds m ahead s' k else none).or
      (k s) := by
  rw [greedyRounds]
  split <;> simp [*]

theorem lazyRounds_cons (m : Matcher) (x : Char) (ahead : Text) (s : State) (k : Rest) :
    lazyRounds m (x :: ahead) s k =
      (k s).or (m s fun s' =>
        if s.cursor.position < s'.cursor.position then lazyRounds m ahead s' k else none) := by
  rw [lazyRounds]
  split <;> simp [*]

/-- A matcher that hands on places at or ahead of where it started. -/
def MovesAhead (m : Matcher) : Prop :=
  ∀ {s k r}, m s k = some r → ∃ s', s.cursor.Reaches s'.cursor ∧ k s' = some r

theorem movesAhead_few (p stop : Char → Bool) : MovesAhead (run (few p stop)) := by
  rintro ⟨⟨before, ahead, n⟩, captures⟩ k r h
  induction ahead generalizing before n with
  | nil => exact ⟨_, .refl _, h⟩
  | cons x ahead ih =>
    rw [run_few_cons, Option.or_eq_some_iff] at h
    rcases h with h | ⟨-, h⟩
    · split at h
      · exact ⟨_, .refl _, h⟩
      · cases h
    · split at h
      · obtain ⟨s', hreach, hk⟩ := ih _ _ h
        exact ⟨s', .pass hreach, hk⟩
      · cases h

/-- A round counts if it moves ahead; what comes after it goes on from there. -/
theorem MovesAhead.round {m : Matcher} (hm : MovesAhead m) {next : Rest}
    (h : m s (fun s' => if s.cursor.position < s'.cursor.position then next s' else none) = some r)
    (hnext : ∀ {s'}, next s' = some r → ∃ last, s'.cursor.Reaches last.cursor ∧ k last = some r) :
    ∃ last, s.cursor.Reaches last.cursor ∧ k last = some r := by
  obtain ⟨between, hreach, h⟩ := hm h
  split at h
  · obtain ⟨last, hreach', hk⟩ := hnext h
    exact ⟨last, hreach.trans hreach', hk⟩
  · cases h

theorem movesAhead_greedyRounds {m : Matcher} (hm : MovesAhead m) (rounds : Text) :
    MovesAhead (greedyRounds m rounds) := by
  intro s k r h
  induction rounds generalizing s with
  | nil => exact ⟨s, .refl _, h⟩
  | cons x rounds ih =>
    rw [greedyRounds_cons, Option.or_eq_some_iff] at h
    rcases h with h | ⟨-, h⟩
    · exact hm.round h ih
    · exact ⟨s, .refl _, h⟩

theorem movesAhead_lazyRounds {m : Matcher} (hm : MovesAhead m) (rounds : Text) :
    MovesAhead (lazyRounds m rounds) := by
  intro s k r h
  induction rounds generalizing s with
  | nil => exact ⟨s, .refl _, h⟩
  | cons x rounds ih =>
    rw [lazyRounds_cons, Option.or_eq_some_iff] at h
    rcases h with h | ⟨-, h⟩
    · exact ⟨s, .refl _, h⟩
    · exact hm.round h ih

theorem movesAhead (p : Pattern) : MovesAhead (run p) := by
  induction p with
  | empty => exact fun h => ⟨_, .refl _, h⟩
  | lit word =>
    intro s k r h
    obtain ⟨c, hc, hk⟩ := run_lit_inv h
    exact ⟨_, ⟨word, hc⟩, hk⟩
  | one p =>
    intro s k r h
    obtain ⟨x, c, -, hc, hk⟩ := run_one_inv h
    exact ⟨_, ⟨[x], hc⟩, hk⟩
  | many p =>
    intro s k r h
    obtain ⟨passed, c, -, hc, hk⟩ := run_many_inv h
    exact ⟨_, ⟨passed, hc⟩, hk⟩
  | whole p => exact fun h => ⟨_, Cursor.reaches_skip p _, h⟩
  | few p stop => exact movesAhead_few p stop
  | here p =>
    intro s k r h
    simp only [run] at h
    split at h
    · exact ⟨s, .refl _, h⟩
    · cases h
  | seq a b iha ihb =>
    intro s k r h
    obtain ⟨between, hreach, h⟩ := iha h
    obtain ⟨s', hreach', hk⟩ := ihb h
    exact ⟨s', hreach.trans hreach', hk⟩
  | alt a b iha ihb =>
    intro s k r h
    rw [run_alt, Option.or_eq_some_iff] at h
    rcases h with h | ⟨-, h⟩
    · exact iha h
    · exact ihb h
  | star a iha => exact movesAhead_greedyRounds iha _
  | starLazy a iha => exact movesAhead_lazyRounds iha _
  | capture name a iha =>
    intro s k r h
    obtain ⟨s', hreach, hk⟩ := iha h
    refine ⟨_, ?_, hk⟩
    exact hreach

theorem run_none (p : Pattern) (s : State) : run p s (fun _ => none) = none := by
  cases h : run p s (fun _ => none) with
  | none => rfl
  | some r =>
    obtain ⟨s', -, hk⟩ := movesAhead p h
    cases hk

/-- The last of several patterns starts ahead of the first. -/
theorem run_inOrder_last (ps : List Pattern) {p : Pattern}
    (h : run (inOrder (ps ++ [p])) s k = some r) :
    ∃ s', s.cursor.Reaches s'.cursor ∧ run p s' k = some r := by
  induction ps generalizing s with
  | nil => exact ⟨s, .refl _, h⟩
  | cons a ps ih =>
    rw [List.cons_append, run_inOrder_cons] at h
    obtain ⟨between, hreach, h⟩ := movesAhead a h
    obtain ⟨s', hreach', h⟩ := ih h
    exact ⟨s', hreach.trans hreach', h⟩

-- -------------------------------------
-- Searches
-- -------------------------------------

/-- The first match at or after a place. -/
def searchAt? (p : Pattern) (c : Cursor) : Option Match :=
  p.searchFrom? c.before c.position c.ahead

theorem searchAt?_cons (p : Pattern) (x : Char) (before ahead : Text) (n : Nat) :
    p.searchAt? ⟨before, x :: ahead, n⟩ =
      (p.matchAt? ⟨before, x :: ahead, n⟩).or (p.searchAt? ⟨x :: before, ahead, n + 1⟩) := by
  simp only [searchAt?, searchFrom?]
  split <;> simp [*]

theorem matchAt?_reaches {p : Pattern} {c : Cursor} {m : Match} (h : p.matchAt? c = some m) :
    c.Reaches m.first ∧ m.first.Reaches m.last := by
  obtain ⟨s, hrun, rfl⟩ := Option.map_eq_some_iff.mp h
  obtain ⟨s', hreach, hs⟩ := movesAhead p hrun
  cases hs
  exact ⟨.refl _, hreach⟩

theorem searchAt?_reaches {p : Pattern} {c : Cursor} {m : Match} (h : p.searchAt? c = some m) :
    c.Reaches m.first ∧ m.first.Reaches m.last := by
  obtain ⟨before, ahead, n⟩ := c
  induction ahead generalizing before n with
  | nil => exact matchAt?_reaches h
  | cons x ahead ih =>
    rw [searchAt?_cons, Option.or_eq_some_iff] at h
    rcases h with h | ⟨-, h⟩
    · exact matchAt?_reaches h
    · obtain ⟨hfirst, hlast⟩ := ih _ _ h
      exact ⟨.pass hfirst, hlast⟩

theorem searchAt?_of_matchAt? {p : Pattern} {c : Cursor} {m : Match}
    (h : p.matchAt? c = some m) : p.searchAt? c = some m := by
  obtain ⟨before, ahead, n⟩ := c
  cases ahead with
  | nil => exact h
  | cons x ahead => rw [searchAt?_cons, h, Option.some_or]

theorem matchAt?_of_searchAt? {p : Pattern} {c : Cursor} {m : Match}
    (h : p.searchAt? c = some m) : p.matchAt? m.first = some m := by
  have hfirst : ∀ {d : Cursor}, p.matchAt? d = some m → p.matchAt? m.first = some m := by
    intro d hd
    obtain ⟨s, -, rfl⟩ := Option.map_eq_some_iff.mp hd
    exact hd
  obtain ⟨before, ahead, n⟩ := c
  induction ahead generalizing before n with
  | nil => exact hfirst h
  | cons x ahead ih =>
    rw [searchAt?_cons, Option.or_eq_some_iff] at h
    rcases h with h | ⟨-, h⟩
    · exact hfirst h
    · exact ih _ _ h

/-- Where the search goes on behind a match, if it does. -/
def resume? (m : Match) : Option Cursor :=
  if m.first.position < m.last.position then some m.last else m.last.next?.map Prod.snd

theorem matchesFrom_none {p : Pattern} {c : Cursor} (h : p.searchAt? c = none) (limit : Nat)
    (found : List Match) : p.matchesFrom limit c found = found.reverse := by
  cases limit with
  | zero => rfl
  | succ limit =>
    rw [searchAt?] at h
    rw [matchesFrom, h]

theorem matchesFrom_some {p : Pattern} {c : Cursor} {m : Match} (h : p.searchAt? c = some m)
    (limit : Nat) (found : List Match) :
    p.matchesFrom (limit + 1) c found =
      (resume? m).elim (m :: found).reverse fun c' => p.matchesFrom limit c' (m :: found) := by
  rw [searchAt?] at h
  simp only [matchesFrom, h, resume?]
  split
  · rfl
  · cases m.last.next? <;> rfl

theorem matchesFrom_congr {p : Pattern} {c d : Cursor} (h : p.searchAt? c = p.searchAt? d) (limit : Nat)
    (found : List Match) : p.matchesFrom limit c found = p.matchesFrom limit d found := by
  cases limit with
  | zero => rfl
  | succ limit =>
    cases hm : p.searchAt? d with
    | none => rw [matchesFrom_none (h.trans hm), matchesFrom_none hm]
    | some m => rw [matchesFrom_some (h.trans hm), matchesFrom_some hm]

theorem matchesFrom_eq (p : Pattern) (limit : Nat) (c : Cursor) (found : List Match) :
    p.matchesFrom limit c found = found.reverse ++ p.matchesFrom limit c [] := by
  induction limit generalizing c found with
  | zero => simp [matchesFrom]
  | succ limit ih =>
    cases h : p.searchAt? c with
    | none => simp [matchesFrom_none h]
    | some m =>
      rw [matchesFrom_some h, matchesFrom_some h]
      cases resume? m with
      | none => simp
      | some c' =>
        simp only [Option.elim_some]
        rw [ih, ih c' [m]]
        simp

/-- The search goes on ahead of where it was. -/
theorem resume?_lt {p : Pattern} {t : Text} {c c' : Cursor} {m : Match} (hc : c.On t)
    (h : p.searchAt? c = some m) (hm : resume? m = some c') :
    c'.On t ∧ c.position < c'.position := by
  obtain ⟨hfirst, hlast⟩ := searchAt?_reaches h
  have hon := (hc.reaches hfirst).reaches hlast
  have hle := (hfirst.trans hlast).position_le
  have hfirst := hfirst.position_le
  unfold resume? at hm
  split at hm
  · cases hm
    exact ⟨hon, by omega⟩
  · revert hm hon hle
    generalize m.last = last
    obtain ⟨before, ahead, n⟩ := last
    intro hon hle hm
    cases ahead with
    | nil => cases hm
    | cons x ahead =>
      cases hm
      exact ⟨hon.pass, Nat.lt_succ_of_le hle⟩

theorem head?_findAll (p : Pattern) (t : Text) : (p.findAll t).head? = p.search? t := by
  have hsearch : p.search? t = p.searchAt? (Cursor.start t) := rfl
  rw [findAll, hsearch]
  cases h : p.searchAt? (Cursor.start t) with
  | none => rw [matchesFrom_none h]; rfl
  | some m =>
    rw [matchesFrom_some h]
    cases resume? m with
    | none => rfl
    | some c =>
      rw [Option.elim_some, matchesFrom_eq]
      rfl

theorem findAll_congr {p q : Pattern} (h : ∀ s k, run p s k = run q s k) (t : Text) :
    p.findAll t = q.findAll t := by
  have hsearch (c : Cursor) : p.searchAt? c = q.searchAt? c := by
    obtain ⟨before, ahead, n⟩ := c
    induction ahead generalizing before n with
    | nil => simp only [searchAt?, searchFrom?, matchAt?, h]
    | cons x ahead ih => rw [searchAt?_cons, searchAt?_cons, ih, matchAt?, h, ← matchAt?]
  have hmatches (limit : Nat) (c : Cursor) (found : List Match) :
      p.matchesFrom limit c found = q.matchesFrom limit c found := by
    induction limit generalizing c found with
    | zero => rfl
    | succ limit ih =>
      cases hq : q.searchAt? c with
      | none => rw [matchesFrom_none hq, matchesFrom_none ((hsearch c).trans hq)]
      | some m =>
        rw [matchesFrom_some hq, matchesFrom_some ((hsearch c).trans hq)]
        cases resume? m with
        | none => rfl
        | some c' => exact ih ..
  exact hmatches ..

end Pattern

end RepoAtlas
