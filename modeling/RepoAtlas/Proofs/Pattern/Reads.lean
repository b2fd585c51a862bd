import RepoAtlas.Proofs.Pattern.Split
import RepoAtlas.Proofs.Pattern.Start

/-!
# Reading a known text

`Reads p t rest found`: in front of the text `t` with `rest` behind it, the first way in which the
pattern `p` can match is to pass `t`, with the captures `found`. Readings of patterns in order are
put together from readings of the parts, each in front of what is really left.

`Misses p t`: in front of the text `t`, the pattern has no match. `Within q p`: whatever the pattern
passes lies in the class `q`.
-/

namespace RepoAtlas

namespace Cursor

variable {c : Cursor} {t rest : Text}

theorem ahead_past (h : c.ahead = t ++ rest) : (c.past t).ahead = rest := (passes_past h).2

theorem past_append (h : c.ahead = t ++ rest) (u : Text) :
    (c.past t).past u = c.past (t ++ u) := by
  simp [past, h, List.drop_append, Nat.add_assoc]

end Cursor

namespace Pattern

def Reads (p : Pattern) (t rest : Text) (found : List (String × Text)) : Prop :=
  ∀ s, s.cursor.ahead = t ++ rest → ∃ captures : List Capture,
    captures.map (fun c => (c.name, c.text)) = found ∧
      ∀ k r, k ⟨s.cursor.past t, captures ++ s.captures⟩ = some r → run p s k = some r

def Misses (p : Pattern) (t : Text) : Prop := ∀ s k, s.cursor.ahead = t → run p s k = none

def Within (q : Char → Bool) (p : Pattern) : Prop :=
  ∀ s k r, run p s k = some r →
    ∃ passed s', (∀ x ∈ passed, q x = true) ∧ s.cursor.Passes passed s'.cursor ∧ k s' = some r

variable {p q : Char → Bool} {a b : Pattern} {ps : List Pattern} {t u rest : Text}
  {found more : List (String × Text)}

-- -------------------------------------
-- Readings
-- -------------------------------------

theorem reads_empty : Reads empty [] rest [] := by
  intro s hs
  refine ⟨[], rfl, fun k r hk => ?_⟩
  simpa [run, Cursor.past] using hk

theorem reads_lit (word : Text) : Reads (lit word) word rest [] := by
  intro s hs
  refine ⟨[], rfl, fun k r hk => ?_⟩
  have heat : s.cursor.eat? word = some (s.cursor.past word) :=
    Cursor.eat?_eq_some_iff.mpr (Cursor.passes_past hs).1
  simpa [run, heat] using hk

theorem reads_one {x : Char} (hx : p x = true) : Reads (one p) [x] rest [] := by
  rintro ⟨⟨before, ahead, n⟩, captures⟩ hs
  obtain rfl : ahead = x :: rest := hs
  refine ⟨[], rfl, fun k r hk => ?_⟩
  rw [run_one_cons, if_pos hx]
  exact hk

theorem reads_many (ht : t.all p = true) (hrest : rest.head?.any p = false) :
    Reads (many p) t rest [] := by
  rintro ⟨⟨before, ahead, n⟩, captures⟩ hs
  simp only at hs
  subst hs
  have ht := List.all_eq_true.mp ht
  have hstop : rest.takeWhile p = [] ∧ rest.dropWhile p = rest := by
    cases rest with
    | nil => exact ⟨rfl, rfl⟩
    | cons x rest =>
      have hx : p x = false := hrest
      simp [hx]
  have hend : (Cursor.run p before n 0 (t ++ rest)).1 = Cursor.past t ⟨before, t ++ rest, n⟩ := by
    rw [Cursor.run_fst, List.takeWhile_append_of_pos ht, List.dropWhile_append_of_pos ht, hstop.1,
      hstop.2]
    simp [Cursor.past]
  refine ⟨[], rfl, fun k r hk => ?_⟩
  have hk : k ⟨(Cursor.run p before n 0 (t ++ rest)).1, captures⟩ = some r := by rw [hend]; exact hk
  simp only [run]
  -- the end of the run is tried first, however many characters it could give back
  cases (Cursor.run p before n 0 (t ++ rest)).2 with
  | zero => exact hk
  | succ count => rw [backOff_step, hk, Option.some_or]

theorem Reads.seq (ha : Reads a t (u ++ rest) found) (hb : Reads b u rest more) :
    Reads (seq a b) (t ++ u) rest (more ++ found) := by
  intro s hs
  rw [List.append_assoc] at hs
  obtain ⟨captures, hcaptures, hruna⟩ := ha s hs
  obtain ⟨captures', hcaptures', hrunb⟩ :=
    hb ⟨s.cursor.past t, captures ++ s.captures⟩ (Cursor.ahead_past hs)
  refine ⟨captures' ++ captures, by rw [List.map_append, hcaptures, hcaptures'], fun k r hk => ?_⟩
  refine hruna _ r (hrunb k r ?_)
  rw [Cursor.past_append hs, ← List.append_assoc]
  exact hk

theorem reads_many1 (hne : t ≠ []) (ht : t.all p = true) (hrest : rest.head?.any p = false) :
    Reads (many1 p) t rest [] := by
  obtain ⟨x, t, rfl⟩ := List.exists_cons_of_ne_nil hne
  rw [List.all_cons, Bool.and_eq_true] at ht
  exact (reads_one ht.1).seq (reads_many ht.2 hrest)

theorem Reads.cons (ha : Reads a t (u ++ rest) found) (hps : Reads (inOrder ps) u rest more) :
    Reads (inOrder (a :: ps)) (t ++ u) rest (more ++ found) := by
  cases ps with
  | nil =>
    intro s hs
    obtain ⟨captures, hcaptures, hrun⟩ := ha.seq hps s hs
    exact ⟨captures, hcaptures, fun k r hk => hrun k r hk⟩
  | cons b ps => exact ha.seq hps

theorem Reads.last (ha : Reads a t rest found) : Reads (inOrder [a]) t rest found := ha

theorem Reads.alt_left (ha : Reads a t rest found) (b : Pattern) :
    Reads (alt a b) t rest found := by
  intro s hs
  obtain ⟨captures, hcaptures, hrun⟩ := ha s hs
  refine ⟨captures, hcaptures, fun k r hk => ?_⟩
  rw [run_alt, hrun k r hk, Option.some_or]

theorem Reads.alt_right (ha : Misses a (t ++ rest)) (hb : Reads b t rest found) :
    Reads (alt a b) t rest found := by
  intro s hs
  obtain ⟨captures, hcaptures, hrun⟩ := hb s hs
  refine ⟨captures, hcaptures, fun k r hk => ?_⟩
  rw [run_alt, ha s k hs, Option.none_or, hrun k r hk]

theorem Reads.capture (ha : Reads a t rest found) (name : String) :
    Reads (capture name a) t rest ((name, t) :: found) := by
  intro s hs
  obtain ⟨captures, hcaptures, hrun⟩ := ha s hs
  refine ⟨⟨name, s.cursor.ahead, t.length⟩ :: captures, ?_, fun k r hk => hrun _ r ?_⟩
  · rw [List.map_cons, hcaptures]
    simp [Capture.text, hs]
  · simpa [Cursor.past] using hk

/-- A lazy repetition goes on as long as nothing matches behind it. -/
theorem run_few_past {stop : Char → Bool} {c : Cursor} {k : Rest} {r : State}
    {captures : List Capture} (ht : t.all p = true)
    (hrest : rest.head?.all stop = true)
    (hmiss : ∀ t', t' <:+ t → t' ≠ [] → t'.head?.all stop = true →
      ∀ s : State, s.cursor.ahead = t' ++ rest → k s = none)
    (hc : c.ahead = t ++ rest) (hk : k ⟨c.past t, captures⟩ = some r) :
    run (few p stop) ⟨c, captures⟩ k = some r := by
  obtain ⟨before, ahead, n⟩ := c
  simp only at hc
  subst hc
  induction t generalizing before n with
  | nil =>
    cases rest with
    | nil => exact hk
    | cons x rest =>
      have hx : stop x = true := hrest
      rw [List.nil_append, run_few_cons, if_pos hx, Option.or_eq_some_iff]
      exact .inl hk
  | cons x t ih =>
    rw [List.all_cons, Bool.and_eq_true] at ht
    have hlater : ∀ t', t' <:+ t → t' ≠ [] → t'.head?.all stop = true →
        ∀ s : State, s.cursor.ahead = t' ++ rest → k s = none :=
      fun t' ht' => hmiss t' (ht'.trans (List.suffix_cons x t))
    have hhere : (if stop x then k ⟨⟨before, x :: (t ++ rest), n⟩, captures⟩ else none) = none := by
      split
      · rename_i hx
        exact hmiss _ List.suffix_rfl (List.cons_ne_nil _ _) hx _ rfl
      · rfl
    rw [List.cons_append, run_few_cons, hhere, Option.none_or, if_pos ht.1]
    refine ih ht.2 hlater _ _ ?_
    simpa [Cursor.past, Nat.add_assoc, Nat.add_comm 1] using hk

/-- A lazy capture ends where what follows can be read, if no earlier place will do. -/
theorem reads_few1To {stop : Char → Bool} (name : String) (hne : t ≠ []) (ht : t.all p = true)
    (hnext : (u ++ rest).head?.all stop = true)
    (hmiss : ∀ t', t' <:+ t → t' ≠ [] → t'.head?.all stop = true →
      Misses (inOrder ps) (t' ++ (u ++ rest)))
    (hps : Reads (inOrder ps) u rest more) :
    Reads (inOrder (capture name (few1To stop p) :: ps)) (t ++ u) rest (more ++ [(name, t)]) := by
  rintro ⟨⟨before, ahead, n⟩, taken⟩ hs
  rw [List.append_assoc] at hs
  obtain rfl : ahead = t ++ (u ++ rest) := hs
  obtain ⟨captures, hcaptures, hrun⟩ := hps
    ⟨Cursor.past t ⟨before, t ++ (u ++ rest), n⟩, ⟨name, t ++ (u ++ rest), t.length⟩ :: taken⟩
    (Cursor.ahead_past rfl)
  refine ⟨captures ++ [⟨name, t ++ (u ++ rest), t.length⟩], ?_, fun k r hk => ?_⟩
  · rw [List.map_append, hcaptures]
    simp [Capture.text]
  · obtain ⟨x, t, rfl⟩ := List.exists_cons_of_ne_nil hne
    rw [List.all_cons, Bool.and_eq_true] at ht
    have hpast : Cursor.past t ⟨x :: before, t ++ (u ++ rest), n + 1⟩ =
        Cursor.past (x :: t) ⟨before, x :: t ++ (u ++ rest), n⟩ := by
      simp [Cursor.past, Nat.add_assoc, Nat.add_comm 1]
    rw [run_inOrder_cons, List.cons_append, run, few1To, run, run_one_cons, if_pos ht.1]
    refine run_few_past ht.2 hnext (fun t' ht' hne' hstop s hs =>
      hmiss t' (ht'.trans (List.suffix_cons x t)) hne' hstop _ _ hs) rfl ?_
    have hlength : (Cursor.past t ⟨x :: before, t ++ (u ++ rest), n + 1⟩).position - n =
        (x :: t).length := by
      simp only [Cursor.past, List.length_cons]
      omega
    simp only [hlength]
    rw [hpast]
    refine hrun k r ?_
    rw [Cursor.past_append rfl]
    simpa using hk

theorem Reads.matchAt? (ha : Reads a t rest found) {c : Cursor} (hc : c.ahead = t ++ rest) :
    ∃ m, a.matchAt? c = some m ∧ m.first = c ∧ m.last = c.past t ∧
      ∀ name, m.get? name = (found.find? (·.1 == name)).map Prod.snd := by
  obtain ⟨captures, hcaptures, hrun⟩ := ha ⟨c, []⟩ hc
  refine ⟨⟨c, c.past t, captures⟩, ?_, rfl, rfl, fun name => ?_⟩
  · rw [Pattern.matchAt?, hrun some _ rfl, List.append_nil]
    rfl
  · rw [← hcaptures, List.find?_map, Option.map_map]
    rfl

/-- A match that a text starts with is the only one if nothing is found behind it. -/
theorem findAll_eq_singleton {m : Match} (h : a.matchAt? (Cursor.start t) = some m)
    (hm : m.first.position < m.last.position) (hbehind : a.searchAt? m.last = none) :
    a.findAll t = [m] := by
  rw [findAll, matchesFrom_some (searchAt?_of_matchAt? h), resume?, if_pos hm, Option.elim_some,
    matchesFrom_none hbehind]
  rfl

theorem findAll_eq_nil (h : a.searchAt? (Cursor.start t) = none) : a.findAll t = [] :=
  matchesFrom_none h _ _

-- -------------------------------------
-- Places without a match
-- -------------------------------------

theorem StartsIn.misses (ha : StartsIn q a) (ht : t.head?.any q = false) : Misses a t := by
  rintro ⟨⟨before, ahead, n⟩, captures⟩ k hs
  obtain rfl : ahead = t := hs
  refine ha _ k ?_
  cases ahead with
  | nil => rfl
  | cons x ahead => exact ht

/-- Where a pattern starts with the wrong character, no match starts. -/
theorem head?_upTo {x : Char} (ha : StartsIn q a) (hx : q x = false) (t : Text) :
    (a.upTo (x :: t)).head? = some x := by
  unfold upTo
  cases hsearch : a.search? (x :: t) with
  | none => rfl
  | some m =>
    have hcons := searchAt?_cons a x [] t 0
    have hfail : a.matchAt? ⟨[], x :: t, 0⟩ = none := by
      rw [matchAt?, ha _ _ (show Cursor.facing q ⟨[], x :: t, 0⟩ = false from hx)]
      rfl
    rw [hfail, Option.none_or] at hcons
    have hfound : a.searchAt? ⟨[x], t, 1⟩ = some m := hcons ▸ hsearch
    have hposition : 1 ≤ m.first.position := (searchAt?_reaches hfound).1.position_le
    obtain ⟨n, hn⟩ := Nat.exists_eq_add_of_le' hposition
    simp [hn]

-- -------------------------------------
-- What a match passes
-- -------------------------------------

theorem within_empty : Within q empty := fun s _ _ h => ⟨[], s, by simp, .nil _, h⟩

theorem within_lit {word : Text} (hword : word.all q = true) : Within q (lit word) := by
  intro s k r h
  obtain ⟨c, hc, hk⟩ := run_lit_inv h
  exact ⟨word, ⟨c, s.captures⟩, List.all_eq_true.mp hword, hc, hk⟩

theorem within_one (hp : ∀ x, p x = true → q x = true) : Within q (one p) := by
  intro s k r h
  obtain ⟨x, c, hx, hc, hk⟩ := run_one_inv h
  exact ⟨[x], ⟨c, s.captures⟩, by simpa using hp x hx, hc, hk⟩

theorem within_many (hp : ∀ x, p x = true → q x = true) : Within q (many p) := by
  intro s k r h
  obtain ⟨passed, c, hpassed, hc, hk⟩ := run_many_inv h
  exact ⟨passed, ⟨c, s.captures⟩, fun x hx => hp x (hpassed x hx), hc, hk⟩

theorem within_few (hp : ∀ x, p x = true → q x = true) (stop : Char → Bool) :
    Within q (few p stop) := by
  rintro ⟨⟨before, ahead, n⟩, captures⟩ k r h
  induction ahead generalizing before n with
  | nil => exact ⟨[], _, by simp, .nil _, h⟩
  | cons x ahead ih =>
    rw [run_few_cons, Option.or_eq_some_iff] at h
    rcases h with h | ⟨-, h⟩
    · split at h
      · exact ⟨[], _, by simp, .nil _, h⟩
      · cases h
    · split at h
      · rename_i hx
        obtain ⟨passed, s', hpassed, hs', hk⟩ := ih _ _ h
        exact ⟨x :: passed, s', by simpa [hp x hx] using hpassed,
          (Cursor.passes_one ..).append hs', hk⟩
      · cases h

theorem Within.seq (ha : Within q a) (hb : Within q b) : Within q (seq a b) := by
  intro s k r h
  obtain ⟨passed, s', hpassed, hs', h⟩ := ha s _ r h
  obtain ⟨passed', s'', hpassed', hs'', hk⟩ := hb s' k r h
  refine ⟨passed ++ passed', s'', fun x hx => ?_, hs'.append hs'', hk⟩
  exact (List.mem_append.mp hx).elim (hpassed x) (hpassed' x)

theorem Within.alt (ha : Within q a) (hb : Within q b) : Within q (alt a b) := by
  intro s k r h
  rw [run_alt, Option.or_eq_some_iff] at h
  rcases h with h | ⟨-, h⟩
  · exact ha s k r h
  · exact hb s k r h

theorem Within.capture (ha : Within q a) (name : String) : Within q (capture name a) := by
  intro s k r h
  obtain ⟨passed, s', hpassed, hs', hk⟩ := ha s _ r h
  exact ⟨passed, ⟨s'.cursor, _ :: s'.captures⟩, hpassed, hs', hk⟩

theorem Within.cons (ha : Within q a) (hps : Within q (inOrder ps)) :
    Within q (inOrder (a :: ps)) := by
  cases ps with
  | nil => exact ha
  | cons b ps => exact ha.seq hps

/-- A match that goes on behind patterns within a class. -/
theorem run_inOrder_within {before after : List Pattern} (h : Within q (inOrder before))
    {s : State} {k : Rest} {r : State} (hrun : run (inOrder (before ++ after)) s k = some r) :
    ∃ passed s', (∀ x ∈ passed, q x = true) ∧ s.cursor.Passes passed s'.cursor ∧
      run (inOrder after) s' k = some r := by
  have hsplit : ∀ (before : List Pattern) (s : State), run (inOrder (before ++ after)) s k =
      run (inOrder before) s fun s' => run (inOrder after) s' k := by
    intro before
    induction before with
    | nil => exact fun _ => rfl
    | cons a before ih =>
      intro s
      rw [List.cons_append, run_inOrder_cons, run_inOrder_cons]
      exact congrArg (run a s) (funext ih)
  exact h s _ r (hsplit before s ▸ hrun)

/-- What is left starts in the class `p`, but a character that cannot be passed comes first. -/
theorem Within.misses {before after : List Pattern} (hbefore : Within q (inOrder before))
    (hafter : StartsIn p (inOrder after)) {x : Char} (ht : t.any p = false)
    (hq : q x = false) (hp : p x = false) (rest : Text) :
    Misses (inOrder (before ++ after)) (t ++ x :: rest) := by
  intro s k hs
  cases hrun : run (inOrder (before ++ after)) s k with
  | none => rfl
  | some r =>
    exfalso
    obtain ⟨passed, s', hpassed, hs', hrun⟩ := run_inOrder_within hbefore hrun
    have hsplit : passed ++ s'.cursor.ahead = t ++ x :: rest := hs'.1 ▸ hs
    have hface : s'.cursor.facing p = false := by
      rcases List.append_eq_append_iff.mp hsplit with
        ⟨front, hfront, hahead⟩ | ⟨front, hfront, hrest⟩
      · rw [Cursor.facing, hahead]
        cases front with
        | nil => exact hp
        | cons y front =>
          rw [hfront, List.any_append, Bool.or_eq_false_iff, List.any_cons,
            Bool.or_eq_false_iff] at ht
          exact ht.2.1
      · cases front with
        | nil =>
          rw [Cursor.facing, ← List.nil_append s'.cursor.ahead, ← hrest]
          exact hp
        | cons y front =>
          obtain rfl : x = y := by simpa using congrArg List.head? hrest
          rw [hpassed x (by simp [hfront])] at hq
          cases hq
    rw [hafter s' k hface] at hrun
    cases hrun

-- -------------------------------------
-- Rounds
-- -------------------------------------

/-- Each of the texts is read in front of those behind it, and in front of the rest no round is. -/
def ReadsEach (a : Pattern) (rest : Text) : List Text → Prop
  | [] => Misses a rest
  | t :: rounds => t ≠ [] ∧ Reads a t (rounds.flatten ++ rest) [] ∧ ReadsEach a rest rounds

/-- Rounds are read one after the other, as long as there are as many to go. -/
theorem ReadsEach.greedyRounds {rounds : List Text} (h : ReadsEach a rest rounds) {s : State}
    (hs : s.cursor.ahead = rounds.flatten ++ rest) {limit : Text}
    (hlimit : rounds.length ≤ limit.length) {k : Rest} {r : State}
    (hk : k ⟨s.cursor.past rounds.flatten, s.captures⟩ = some r) :
    greedyRounds (run a) limit s k = some r := by
  induction rounds generalizing s limit with
  | nil =>
    have hk : k s = some r := by simpa [Cursor.past] using hk
    cases limit with
    | nil => exact hk
    | cons x limit => rw [greedyRounds_cons, h s _ hs, Option.none_or, hk]
  | cons t rounds ih =>
    obtain ⟨hne, hread, hrounds⟩ := h
    rw [List.flatten_cons] at hs hk
    rw [List.append_assoc] at hs
    obtain ⟨x, limit, rfl⟩ := List.exists_cons_of_length_pos
      (Nat.lt_of_lt_of_le (Nat.succ_pos _) hlimit)
    obtain ⟨captures, hcaptures, hrun⟩ := hread s hs
    obtain rfl : captures = [] := List.map_eq_nil_iff.mp hcaptures
    rw [greedyRounds_cons, hrun, Option.some_or]
    have hahead : s.cursor.position < (s.cursor.past t).position :=
      Nat.lt_add_of_pos_right (List.length_pos_iff.mpr hne)
    rw [if_pos hahead]
    refine ih hrounds (Cursor.ahead_past hs) (Nat.le_of_succ_le_succ hlimit) ?_
    rw [Cursor.past_append hs]
    exact hk

theorem ReadsEach.length_le {rounds : List Text} (h : ReadsEach a rest rounds) :
    rounds.length ≤ rounds.flatten.length := by
  induction rounds with
  | nil => exact Nat.le_refl 0
  | cons t rounds ih =>
    have ht := List.length_pos_iff.mpr h.1
    have hrounds := ih h.2.2
    rw [List.flatten_cons, List.length_append, List.length_cons]
    omega

theorem ReadsEach.star {rounds : List Text} (h : ReadsEach a rest rounds) :
    Reads (star a) rounds.flatten rest [] := by
  intro s hs
  refine ⟨[], rfl, fun k r hk => h.greedyRounds hs ?_ hk⟩
  rw [hs, List.length_append]
  exact Nat.le_add_right_of_le h.length_le

end Pattern

end RepoAtlas
