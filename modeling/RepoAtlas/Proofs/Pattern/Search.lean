import RepoAtlas.Proofs.Pattern.Captured
import RepoAtlas.Proofs.Pattern.Reads
import RepoAtlas.Proofs.Text.Blank

/-!
# Where a pattern is found

`Pattern.upTo_cases`: the part in front of the first match ends where the pattern matches, or the
pattern matches nowhere in the text. What cannot start a match is passed over by a search.
-/

namespace RepoAtlas

namespace Cursor

/-- The place in a text that lies between two parts of it. -/
def between (front rest : Text) : Cursor := ⟨front.reverse, rest, front.length⟩

theorem On.eq_between {t : Text} {c : Cursor} (h : c.On t) :
    ∃ front, t = front ++ c.ahead ∧ c = between front c.ahead := by
  obtain ⟨before, ahead, n⟩ := c
  obtain ⟨ht, hn⟩ := h
  simp only at ht hn
  exact ⟨before.reverse, ht.symm, by simp [between, hn]⟩

end Cursor

namespace Pattern

variable {q : Char → Bool} {a : Pattern} {ps : List Pattern} {t front rest : Text}
  {found : List (String × Text)} {c : Cursor}

theorem matchAt?_of_searchAt?_none (h : a.searchAt? c = none) (hc : c.ahead = front ++ rest) :
    a.matchAt? (c.past front) = none := by
  obtain ⟨before, ahead, n⟩ := c
  simp only at hc
  subst hc
  induction front generalizing before n with
  | nil =>
    cases rest with
    | nil => exact h
    | cons x rest =>
      rw [List.nil_append, searchAt?_cons, Option.or_eq_none_iff] at h
      exact h.1
  | cons x front ih =>
    rw [List.cons_append, searchAt?_cons, Option.or_eq_none_iff] at h
    have hnext := ih (x :: before) (n + 1) h.2
    simpa [Cursor.past, Nat.add_assoc, Nat.add_comm 1] using hnext

theorem upTo_cases (a : Pattern) (t : Text) :
    (a.upTo t = t ∧
      ∀ front rest, t = front ++ rest → a.matchAt? (Cursor.between front rest) = none) ∨
    ∃ front rest, t = front ++ rest ∧ a.upTo t = front ∧
      (a.matchAt? (Cursor.between front rest)).isSome := by
  have hsearch : a.search? t = a.searchAt? (Cursor.start t) := rfl
  unfold upTo
  cases hm : a.searchAt? (Cursor.start t) with
  | none =>
    left
    rw [hsearch, hm]
    refine ⟨rfl, fun front rest ht => ?_⟩
    have hnone : a.matchAt? ((Cursor.start t).past front) = none :=
      matchAt?_of_searchAt?_none hm ht
    simpa [Cursor.past, Cursor.start, Cursor.between, ht] using hnone
  | some m =>
    right
    rw [hsearch, hm]
    obtain ⟨front, ht, hfirst⟩ :=
      ((Cursor.on_start t).reaches (searchAt?_reaches hm).1).eq_between
    refine ⟨front, m.first.ahead, ht, ?_, ?_⟩
    · show t.take m.first.position = front
      rw [hfirst, ht]
      simp [Cursor.between]
    · rw [← hfirst, matchAt?_of_searchAt? hm]
      rfl

theorem searchAt?_past (hmiss : ∀ t, t <:+ front → t ≠ [] → Misses a (t ++ rest))
    (hc : c.ahead = front ++ rest) : a.searchAt? c = a.searchAt? (c.past front) := by
  obtain ⟨before, ahead, n⟩ := c
  simp only at hc
  subst hc
  induction front generalizing before n with
  | nil => rfl
  | cons x front ih =>
    have hhere : a.matchAt? ⟨before, x :: (front ++ rest), n⟩ = none := by
      rw [matchAt?, hmiss _ List.suffix_rfl (List.cons_ne_nil _ _) _ _ rfl]
      rfl
    rw [List.cons_append, searchAt?_cons, hhere, Option.none_or,
      ih (fun t ht => hmiss t (ht.trans (List.suffix_cons x front)))]
    simp [Cursor.past, Nat.add_assoc, Nat.add_comm 1]

/-- What cannot start a match is passed over. -/
theorem StartsIn.searchAt?_past (ha : StartsIn q a) (hfront : front.any q = false)
    (hc : c.ahead = front ++ rest) : a.searchAt? c = a.searchAt? (c.past front) := by
  refine Pattern.searchAt?_past (fun t ht hne => ha.misses ?_) hc
  obtain ⟨x, t, rfl⟩ := List.exists_cons_of_ne_nil hne
  simpa using List.any_eq_false.mp hfront x (ht.subset (.head _))

theorem StartsIn.exists_cons (ha : StartsIn q a) {s r : State} {k : Rest}
    (h : run a s k = some r) : ∃ x t, q x = true ∧ s.cursor.ahead = x :: t := by
  have hfacing : s.cursor.facing q = true := by
    rw [← Bool.not_eq_false]
    intro hnot
    rw [ha s k hnot] at h
    cases h
  unfold Cursor.facing at hfacing
  split at hfacing
  · cases hfacing
  · exact ⟨_, _, hfacing, ‹_›⟩

theorem StartsIn.search?_eq_none (ha : StartsIn q a) (ht : t.any q = false) :
    a.search? t = none := by
  have hend : a.searchAt? (Cursor.start t) = a.searchAt? ((Cursor.start t).past t) :=
    ha.searchAt?_past ht (List.append_nil t).symm
  have hahead : ((Cursor.start t).past t).ahead = [] := Cursor.ahead_past (List.append_nil t).symm
  have hmiss : a.matchAt? ((Cursor.start t).past t) = none := by
    rw [matchAt?, ha _ _ (by rw [Cursor.facing, hahead])]
    rfl
  have hsearch : a.search? t = a.searchAt? (Cursor.start t) := rfl
  rw [hsearch, hend, searchAt?, hahead, searchFrom?, ← hahead]
  exact hmiss

theorem StartsIn.upTo_eq_self (ha : StartsIn q a) (ht : t.any q = false) : a.upTo t = t := by
  rw [upTo, ha.search?_eq_none ht]

/-- A reading is found behind what cannot start a match. -/
theorem Reads.searchAt? (hread : Reads a t rest found) (ha : StartsIn q a)
    (hfront : front.any q = false) (hc : c.ahead = front ++ (t ++ rest)) :
    ∃ m, a.searchAt? c = some m ∧ m.first = c.past front ∧
      ∀ name, m.get? name = (found.find? (·.1 == name)).map Prod.snd := by
  obtain ⟨m, hmatch, hfirst, -, hget⟩ := hread.matchAt? (Cursor.ahead_past hc)
  exact ⟨m, (ha.searchAt?_past hfront hc).trans (searchAt?_of_matchAt? hmatch), hfirst, hget⟩

theorem upTo_eq_of_reads (hread : Reads a t rest found) (ha : StartsIn q a)
    (hfront : front.any q = false) : a.upTo (front ++ (t ++ rest)) = front := by
  obtain ⟨m, hsearch, hfirst, -⟩ := hread.searchAt? ha hfront
    (c := Cursor.start (front ++ (t ++ rest))) rfl
  have hfound : a.search? (front ++ (t ++ rest)) = some m := hsearch
  rw [upTo, hfound]
  simp [hfirst, Cursor.past, Cursor.start]

theorem not_isBlank_of_wordOr {extra : Text} (hextra : extra.all (!Text.isBlank ·) = true)
    {c : Char} (hc : wordOr extra c = true) : Text.isBlank c = false := by
  rcases (Bool.or_eq_true _ _).mp hc with hword | hmem
  · exact Text.not_isBlank_of_isWord hword
  · simpa using List.all_eq_true.mp hextra c (by simpa using hmem)

theorem reads_here {p : Cursor → Bool} (h : ∀ c : Cursor, c.ahead = rest → p c = true) :
    Reads (here p) [] rest [] := by
  intro s hs
  refine ⟨[], rfl, fun k r hk => ?_⟩
  rw [run, if_pos (h _ hs)]
  simpa [Cursor.past] using hk

theorem run_textEnd_inv {s r : State} {k : Rest} (h : run textEnd s k = some r) :
    (s.cursor.ahead = [] ∨ s.cursor.ahead = ['\n']) ∧ k s = some r := by
  simp only [textEnd, run] at h
  generalize s.cursor.ahead = ahead at h ⊢
  split at h
  · exact ⟨.inl rfl, h⟩
  · exact ⟨.inr rfl, h⟩
  · cases h

theorem run_opt_cons (a : Pattern) (ps : List Pattern) (s : State) (k : Rest) :
    run (inOrder (opt a :: ps)) s k = (run (inOrder (a :: ps)) s k).or (run (inOrder ps) s k) := by
  rw [run_inOrder_cons, run_inOrder_cons, opt, run_alt]
  rfl

/-- A pattern that may be left out is left out where nothing matches with it. -/
theorem Reads.opt_skip (hskip : Misses (inOrder (a :: ps)) (t ++ rest))
    (h : Reads (inOrder ps) t rest found) : Reads (inOrder (opt a :: ps)) t rest found := by
  intro s hs
  obtain ⟨captures, hcaptures, hrun⟩ := h s hs
  refine ⟨captures, hcaptures, fun k r hk => ?_⟩
  rw [run_opt_cons, hskip s k hs, Option.none_or, hrun k r hk]

end Pattern

end RepoAtlas
