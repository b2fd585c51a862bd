import RepoAtlas.Proofs.Pattern.Run

/-!
# Splitting at a separator

`Pattern.splitBy_intercalate`: splitting a text at a separator undoes joining pieces with it, if the
first character of the separator occurs in none of the pieces.
-/

namespace RepoAtlas

namespace Cursor

/-- The place behind a text that lies ahead. -/
def past (passed : Text) (c : Cursor) : Cursor :=
  ⟨passed.reverse ++ c.before, c.ahead.drop passed.length, c.position + passed.length⟩

theorem passes_past {c : Cursor} {passed rest : Text} (h : c.ahead = passed ++ rest) :
    c.Passes passed (c.past passed) ∧ (c.past passed).ahead = rest := by
  refine ⟨⟨?_, rfl, rfl⟩, ?_⟩
  · simp [past, h]
  · simp [past, h]

end Cursor

namespace Pattern

variable {x : Char} {sep : Text}

theorem matchAt?_lit_ne {c : Cursor} (h : c.ahead.head? ≠ some x) :
    (lit (x :: sep)).matchAt? c = none := by
  obtain ⟨before, ahead, n⟩ := c
  cases ahead with
  | nil => rfl
  | cons y ahead =>
    have hxy : x ≠ y := fun hxy => h (congrArg some hxy.symm)
    simp [matchAt?, run, Cursor.eat?, hxy]

theorem searchAt?_lit_of_not_mem (sep : Text) {c : Cursor} (h : x ∉ c.ahead) :
    (lit (x :: sep)).searchAt? c = none := by
  obtain ⟨before, ahead, n⟩ := c
  induction ahead generalizing before n with
  | nil => rfl
  | cons y ahead ih =>
    simp only [List.mem_cons, not_or] at h
    rw [searchAt?_cons, matchAt?_lit_ne (by simpa using Ne.symm h.1), Option.none_or]
    exact ih _ _ h.2

theorem searchAt?_lit {c : Cursor} {piece rest : Text} (hpiece : x ∉ piece)
    (h : c.ahead = piece ++ x :: sep ++ rest) :
    (lit (x :: sep)).searchAt? c =
      some ⟨c.past piece, (c.past piece).past (x :: sep), []⟩ := by
  obtain ⟨before, ahead, n⟩ := c
  simp only at h
  subst h
  induction piece generalizing before n with
  | nil =>
    have heat : Cursor.eat? (x :: sep) ⟨before, x :: sep ++ rest, n⟩ =
        some (Cursor.past (x :: sep) ⟨before, x :: sep ++ rest, n⟩) :=
      Cursor.eat?_eq_some_iff.mpr (Cursor.passes_past rfl).1
    have hmatch : (lit (x :: sep)).matchAt? ⟨before, x :: sep ++ rest, n⟩ =
        some ⟨⟨before, x :: sep ++ rest, n⟩,
          Cursor.past (x :: sep) ⟨before, x :: sep ++ rest, n⟩, []⟩ := by
      simp only [matchAt?, run, heat]
      rfl
    simp only [List.nil_append, List.cons_append] at hmatch ⊢
    rw [searchAt?_cons, hmatch]
    rfl
  | cons y piece ih =>
    simp only [List.mem_cons, not_or] at hpiece
    simp only [List.cons_append] at ih ⊢
    rw [searchAt?_cons, matchAt?_lit_ne (by simpa using Ne.symm hpiece.1), Option.none_or,
      ih hpiece.2]
    simp [Cursor.past, Nat.add_assoc, Nat.add_comm 1]

/-- Piece by piece from a place on, with at least as many searches as there are pieces. -/
theorem pieces_matchesFrom {piece : Text} {pieces : List Text}
    (h : ∀ p ∈ piece :: pieces, x ∉ p) {limit : Nat} (hlimit : pieces.length ≤ limit)
    {c : Cursor} (hc : c.ahead = (x :: sep).intercalate (piece :: pieces)) :
    splitBy.pieces c ((lit (x :: sep)).matchesFrom limit c []) = piece :: pieces := by
  induction pieces generalizing piece limit c with
  | nil =>
    have hahead : c.ahead = piece := by simpa [List.intercalate] using hc
    have hnone := searchAt?_lit_of_not_mem sep (hahead.symm ▸ h piece (.head _))
    rw [matchesFrom_none hnone]
    exact congrArg ([·]) hahead
  | cons next pieces ih =>
    obtain ⟨hpiece, hrest⟩ := List.forall_mem_cons.mp h
    rw [List.intercalate_cons_cons] at hc
    have hsearch := searchAt?_lit hpiece hc
    obtain ⟨limit, rfl⟩ : ∃ n, limit = n + 1 := Nat.exists_eq_add_one.mpr (by simp at hlimit; omega)
    have hfront : c.ahead = piece ++ (x :: sep ++ (x :: sep).intercalate (next :: pieces)) := by
      rw [hc, List.append_assoc]
    have hlast := (Cursor.passes_past (Cursor.passes_past hfront).2).2
    have hresume : resume? ⟨c.past piece, (c.past piece).past (x :: sep), []⟩ =
        some ((c.past piece).past (x :: sep)) := if_pos (by simp [Cursor.past])
    rw [matchesFrom_some hsearch, hresume, Option.elim_some, matchesFrom_eq]
    show c.ahead.take ((c.past piece).position - c.position) ::
      splitBy.pieces ((c.past piece).past (x :: sep))
        ((lit (x :: sep)).matchesFrom limit ((c.past piece).past (x :: sep)) []) = _
    rw [ih hrest (Nat.le_of_succ_le_succ hlimit) hlast, hfront]
    simp [Cursor.past]

theorem splitBy_intercalate {pieces : List Text} (hne : pieces ≠ []) (h : ∀ p ∈ pieces, x ∉ p) :
    (lit (x :: sep)).splitBy ((x :: sep).intercalate pieces) = pieces := by
  obtain ⟨piece, pieces, rfl⟩ := List.exists_cons_of_ne_nil hne
  have hlength : pieces.length ≤ ((x :: sep).intercalate (piece :: pieces)).length + 1 := by
    clear hne h
    induction pieces generalizing piece with
    | nil => simp
    | cons next pieces ih =>
      have := ih next
      simp only [List.intercalate_cons_cons, List.length_append, List.length_cons] at this ⊢
      omega
  exact pieces_matchesFrom h hlength rfl

end Pattern

end RepoAtlas
