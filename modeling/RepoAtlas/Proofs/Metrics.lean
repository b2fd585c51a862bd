import RepoAtlas.Metrics
import RepoAtlas.Proofs.Pattern.Packing
import RepoAtlas.Proofs.Text.Lines

/-!
# Metrics of texts put together

`Metrics.ofText_append`: two texts joined by a line feed have the lines and the comments of both, and
at least the decisions of both. A decision more may lie across the line feed: white space in front of
a question mark may be the end of a line.
-/

namespace RepoAtlas.Metrics

open Pattern

theorem fixed_decisions : ∀ p ∈ decisions, ∃ n, 0 < n ∧ Fixed n p := by
  have hword {w : String} (hw : 0 < w.toList.length) : ∃ n, 0 < n ∧ Fixed n (word w) :=
    ⟨0 + (w.toList.length + 0), by omega,
      fixed_wordEdge.seq ((fixed_lit w.toList).seq fixed_wordEdge)⟩
  have hlit {w : Text} (hw : 0 < w.length) : ∃ n, 0 < n ∧ Fixed n (lit w) :=
    ⟨w.length, hw, fixed_lit w⟩
  have hquestion : ∃ n, 0 < n ∧ Fixed n (inOrder [one Text.isBlank, "?", one Text.isBlank]) :=
    ⟨1 + (1 + 1), by decide, (fixed_one _).seq ((fixed_lit ['?']).seq (fixed_one _))⟩
  simp only [decisions, List.forall_mem_cons, List.not_mem_nil, false_imp_iff, implies_true,
    and_true]
  exact ⟨hword (by decide), hword (by decide), hword (by decide), hword (by decide),
    hword (by decide), hword (by decide), hword (by decide), hlit (by decide), hlit (by decide),
    hword (by decide), hword (by decide), hquestion, hword (by decide), hword (by decide)⟩

/-- Decisions of both texts, and perhaps one across the line feed. -/
theorem decisionCount_append (a b : Text) :
    decisionCount a + decisionCount b ≤ decisionCount (a ++ '\n' :: b) := by
  have hfixed := fixed_decisions
  unfold decisionCount
  generalize decisions = patterns at hfixed
  induction patterns with
  | nil => exact Nat.le_refl 0
  | cons p patterns ih =>
    obtain ⟨⟨n, hn, hp⟩, hpatterns⟩ := List.forall_mem_cons.mp hfixed
    have hcount := length_findAll_append hp hn a b
    have hrest := ih hpatterns
    simp only [List.map_cons, List.foldr_cons]
    omega

theorem codeLines_append (a b : Text) :
    codeLines (a ++ '\n' :: b) = codeLines a ++ codeLines b := by
  unfold codeLines
  rw [Text.lines_append]
  rcases Text.lines_concat_newline a with h | h
  · simp [h]
  · have hempty : Text.trim [] = [] := rfl
    simp [h, hempty]

theorem commentCount_append (a b : Text) :
    commentCount (a ++ '\n' :: b) = commentCount a + commentCount b := by
  simp [commentCount, codeLines_append]

/-- Lines and comments of two texts add up, and complexity grows at least by what each has above one.
So neither text has more lines or a higher complexity than both together, and no text has more
comments than lines. -/
theorem ofText_append (a b : Text) :
    (ofText (a ++ '\n' :: b)).lines = (ofText a).lines + (ofText b).lines ∧
    commentCount (a ++ '\n' :: b) = commentCount a + commentCount b ∧
    (ofText a).complexity - 1 + ((ofText b).complexity - 1) ≤
      (ofText (a ++ '\n' :: b)).complexity - 1 ∧
    ((ofText a).lines ≤ (ofText (a ++ '\n' :: b)).lines ∧
      (ofText b).lines ≤ (ofText (a ++ '\n' :: b)).lines) ∧
    ((ofText a).complexity ≤ (ofText (a ++ '\n' :: b)).complexity ∧
      (ofText b).complexity ≤ (ofText (a ++ '\n' :: b)).complexity) ∧
    ∀ content, commentCount content ≤ (ofText content).lines := by
  have hlines : (codeLines (a ++ '\n' :: b)).length = (codeLines a).length + (codeLines b).length := by
    rw [codeLines_append, List.length_append]
  have hdecisions := decisionCount_append a b
  simp only [ofText, hlines]
  refine ⟨by omega, commentCount_append a b, by omega, by omega, by omega, fun content => ?_⟩
  exact Int.ofNat_le.mpr List.countP_le_length

/-- A decision across the line feed. -/
example : (ofText "a".toList).complexity = 1 ∧ (ofText "? b".toList).complexity = 1 ∧
    (ofText "a\n? b".toList).complexity = 2 := by
  decide +kernel

end RepoAtlas.Metrics
