import RepoAtlas.Proofs.Pattern.Run

/-!
# What a capture holds

`Takes P p`: the pattern `p` captures nothing itself, and every text that it passes has the
property `P`. Behind other patterns, such a pattern makes a capture that has the property too.
-/

namespace RepoAtlas

theorem Cursor.Passes.take {c d : Cursor} {passed : Text} (h : c.Passes passed d) :
    c.ahead.take (d.position - c.position) = passed := by
  obtain ⟨hahead, -, hposition⟩ := h
  rw [hahead, hposition, Nat.add_sub_cancel_left, List.take_left]

namespace Pattern

def Takes (P : Text → Prop) (p : Pattern) : Prop :=
  ∀ {s k r}, run p s k = some r →
    ∃ passed c, P passed ∧ s.cursor.Passes passed c ∧ k ⟨c, s.captures⟩ = some r

theorem takes_lit (word : Text) : Takes (· = word) (lit word) := by
  intro s k r h
  obtain ⟨c, hc, hk⟩ := run_lit_inv h
  exact ⟨word, c, rfl, hc, hk⟩

theorem takes_one (p : Char → Bool) : Takes (fun t => ∃ c, t = [c] ∧ p c = true) (one p) := by
  intro s k r h
  obtain ⟨x, c, hx, hc, hk⟩ := run_one_inv h
  exact ⟨[x], c, ⟨x, rfl, hx⟩, hc, hk⟩

theorem takes_many (p : Char → Bool) : Takes (fun t => ∀ c ∈ t, p c = true) (many p) := by
  intro s k r h
  exact run_many_inv h

theorem takes_many1 (p : Char → Bool) :
    Takes (fun t => t ≠ [] ∧ ∀ c ∈ t, p c = true) (many1 p) := by
  intro s k r h
  obtain ⟨passed, c, hne, hpassed, hc, hk⟩ := run_many1_inv h
  exact ⟨passed, c, ⟨hne, hpassed⟩, hc, hk⟩

theorem Takes.seq {P Q : Text → Prop} {a b : Pattern} (ha : Takes P a) (hb : Takes Q b) :
    Takes (fun t => ∃ front back, t = front ++ back ∧ P front ∧ Q back) (seq a b) := by
  intro s k r h
  obtain ⟨front, c, hfront, hc, h⟩ := ha h
  obtain ⟨back, d, hback, hd, hk⟩ := hb h
  exact ⟨front ++ back, d, ⟨front, back, rfl, hfront, hback⟩, hc.append hd, hk⟩

theorem Takes.mono {P Q : Text → Prop} {a : Pattern} (ha : Takes P a) (h : ∀ t, P t → Q t) :
    Takes Q a := by
  intro s k r hrun
  obtain ⟨passed, c, hpassed, hc, hk⟩ := ha hrun
  exact ⟨passed, c, h passed hpassed, hc, hk⟩

theorem Takes.get {P : Text → Prop} {p : Pattern} (hp : Takes P p) (ps : List Pattern)
    {name : String} {c : Cursor} {m : Match}
    (h : (inOrder (ps ++ [capture name p])).matchAt? c = some m) : P (m.get name) := by
  obtain ⟨r, hrun, rfl⟩ := Option.map_eq_some_iff.mp h
  obtain ⟨s, -, hcapture⟩ := run_inOrder_last ps hrun
  rw [run] at hcapture
  obtain ⟨passed, d, hpassed, hd, hk⟩ := hp hcapture
  cases hk
  simpa [Match.get, Match.get?, Capture.text, hd.take] using hpassed

theorem Takes.get_of_search? {P : Text → Prop} {p : Pattern} (hp : Takes P p) (ps : List Pattern)
    {name : String} {t : Text} {m : Match}
    (h : (inOrder (ps ++ [capture name p])).search? t = some m) : P (m.get name) := by
  have hsearch : (inOrder (ps ++ [capture name p])).searchAt? (Cursor.start t) = some m := h
  exact hp.get ps (matchAt?_of_searchAt? hsearch)

end Pattern

end RepoAtlas
