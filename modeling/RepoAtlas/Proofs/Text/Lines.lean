import RepoAtlas.Text.Blank
import RepoAtlas.Text.Lines

/-!
# Lines of texts

The lines of a text are the pieces that it was joined from, as long as no piece has an end of a line
in it. A last piece that is empty is no line. `lines_append`: whatever stands in front of a line feed,
the lines behind it are those of what stands there alone.
-/

namespace RepoAtlas.Text

/-- A text on one line. -/
def Unbroken (t : Text) : Prop := ∀ c ∈ t, isLineBreak c = false

instance (t : Text) : Decidable t.Unbroken :=
  decidable_of_iff (t.all (!isLineBreak ·) = true) (by simp [Unbroken])

theorem isBlank_of_isLineBreak {c : Char} (h : isLineBreak c = true) : isBlank c = true := by
  simp only [isLineBreak, isBlank, Bool.or_eq_true, Bool.and_eq_true, decide_eq_true_eq,
    beq_iff_eq] at h ⊢
  split
  · simp only [Bool.or_eq_true, Bool.and_eq_true, decide_eq_true_eq]
    omega
  · simp only [Bool.or_eq_true, Bool.and_eq_true, decide_eq_true_eq, beq_iff_eq]
    omega

theorem linesFrom_append {front : Text} (h : front.Unbroken) (line rest : Text) :
    linesFrom line (front ++ rest) = linesFrom (front.reverse ++ line) rest := by
  induction front generalizing line with
  | nil => rfl
  | cons c front ih =>
    obtain ⟨hc, hfront⟩ := List.forall_mem_cons.mp h
    have hreturn : c ≠ '\r' := by
      rintro rfl
      cases hc
    rw [List.cons_append, linesFrom, hc, if_neg Bool.false_ne_true, ih hfront, List.reverse_cons,
      List.append_assoc, List.singleton_append]
    exact fun _ h _ => hreturn h

theorem lines_of_unbroken {t : Text} (h : t.Unbroken) : lines t = if t = [] then [] else [t] := by
  have hread := linesFrom_append h [] []
  rw [List.append_nil, List.append_nil] at hread
  rw [lines, hread]
  simp [linesFrom]

theorem lines_append_newline {line : Text} (h : line.Unbroken) (t : Text) :
    lines (line ++ '\n' :: t) = line :: lines t := by
  rw [lines, linesFrom_append h, List.append_nil]
  simp [linesFrom, lines, isLineBreak]

theorem lines_intercalate {front : List Text} (h : ∀ line ∈ front, line.Unbroken) {last : Text}
    (hlast : last.Unbroken) :
    lines (['\n'].intercalate (front ++ [last])) = front ++ if last = [] then [] else [last] := by
  induction front with
  | nil => simpa [List.intercalate] using lines_of_unbroken hlast
  | cons line front ih =>
    obtain ⟨hline, hfront⟩ := List.forall_mem_cons.mp h
    obtain ⟨next, rest, hrest⟩ := List.exists_cons_of_ne_nil (List.concat_ne_nil last front)
    rw [List.cons_append, hrest, List.intercalate_cons_cons, ← hrest, List.append_assoc,
      List.singleton_append, lines_append_newline hline, ih hfront, List.cons_append]

theorem lines_intercalate_of_ne_nil {pieces : List Text}
    (h : ∀ piece ∈ pieces, piece.Unbroken ∧ piece ≠ []) :
    lines (['\n'].intercalate pieces) = pieces := by
  cases pieces.eq_nil_or_concat with
  | inl hnil => rw [hnil]; rfl
  | inr hconcat =>
    obtain ⟨front, last, rfl⟩ := hconcat
    rw [List.concat_eq_append] at h ⊢
    have hlast := h last (by simp)
    rw [lines_intercalate (fun piece hpiece => (h piece (by simp [hpiece])).1) hlast.1,
      if_neg hlast.2]

-- -------------------------------------
-- Texts joined by a line feed
-- -------------------------------------

theorem linesFrom_cons {c : Char} {t : Text} (h : ¬(c = '\r' ∧ t.head? = some '\n'))
    (line : Text) : linesFrom line (c :: t) =
      if isLineBreak c then line.reverse :: lines t else linesFrom (c :: line) t := by
  rw [linesFrom, lines]
  rintro rest rfl rfl
  exact h ⟨rfl, rfl⟩

/-- Between a carriage return and a line feed there is no end of a line. -/
theorem linesFrom_cons_append {c : Char} {t : Text} (hseam : ¬(c = '\r' ∧ t = []))
    (hreturn : ∀ rest, c = '\r' → t = '\n' :: rest → False) (line b : Text) :
    linesFrom line (c :: (t ++ '\n' :: b)) =
      if isLineBreak c then line.reverse :: lines (t ++ '\n' :: b)
      else linesFrom (c :: line) (t ++ '\n' :: b) := by
  refine linesFrom_cons ?_ line
  rintro ⟨hc, hfeed⟩
  cases t with
  | nil => exact hseam ⟨hc, rfl⟩
  | cons x t =>
    obtain rfl : x = '\n' := Option.some.inj hfeed
    exact hreturn t hc rfl

theorem linesFrom_newline (line b : Text) : linesFrom line ('\n' :: b) = line.reverse :: lines b :=
  linesFrom_cons (by simp) line

/-- A line feed ends a line, even behind a carriage return, so the lines behind it are those of what
stands there alone. -/
theorem linesFrom_append_newline (line a b : Text) :
    linesFrom line (a ++ '\n' :: b) = linesFrom line (a ++ ['\n']) ++ lines b := by
  fun_induction linesFrom line a with
  | case1 line => simp [linesFrom_newline, lines, linesFrom]
  | case2 line => simp [linesFrom_newline, lines, linesFrom]
  | case3 line t ih => simp [linesFrom, ih]
  | case4 line c t hreturn hbreak ih =>
    by_cases hseam : c = '\r' ∧ t = []
    · obtain ⟨rfl, rfl⟩ := hseam
      simp [linesFrom, lines]
    · rw [List.cons_append, List.cons_append, linesFrom_cons_append hseam hreturn,
        linesFrom_cons_append hseam hreturn, if_pos hbreak, if_pos hbreak, lines, ih]
      rfl
  | case5 line c t hreturn hbreak ih =>
    have hseam : ¬(c = '\r' ∧ t = []) := fun h => hbreak (h.1 ▸ rfl)
    rw [List.cons_append, List.cons_append, linesFrom_cons_append hseam hreturn,
      linesFrom_cons_append hseam hreturn, if_neg hbreak, if_neg hbreak, ih]

theorem lines_append (a b : Text) : lines (a ++ '\n' :: b) = lines (a ++ ['\n']) ++ lines b :=
  linesFrom_append_newline [] a b

/-- A line feed at the end of a text ends its last line, or makes an empty one. -/
theorem linesFrom_concat_newline (line a : Text) :
    linesFrom line (a ++ ['\n']) = linesFrom line a ∨
      linesFrom line (a ++ ['\n']) = linesFrom line a ++ [[]] := by
  fun_induction linesFrom line a with
  | case1 line hempty =>
    obtain rfl := List.isEmpty_iff.mp hempty
    exact .inr rfl
  | case2 line => exact .inl (linesFrom_newline line [])
  | case3 line t ih => simpa [linesFrom] using ih
  | case4 line c t hreturn hbreak ih =>
    by_cases hseam : c = '\r' ∧ t = []
    · obtain ⟨rfl, rfl⟩ := hseam
      exact .inl rfl
    · rw [List.cons_append, linesFrom_cons_append hseam hreturn, if_pos hbreak]
      exact ih.imp (congrArg _) (congrArg _)
  | case5 line c t hreturn hbreak ih =>
    have hseam : ¬(c = '\r' ∧ t = []) := fun h => hbreak (h.1 ▸ rfl)
    rw [List.cons_append, linesFrom_cons_append hseam hreturn, if_neg hbreak]
    exact ih

theorem lines_concat_newline (a : Text) :
    lines (a ++ ['\n']) = lines a ∨ lines (a ++ ['\n']) = lines a ++ [[]] :=
  linesFrom_concat_newline [] a

-- -------------------------------------
-- The first line
-- -------------------------------------

theorem exists_linesFrom_cons {line : Text} (hne : line ≠ []) (t : Text) :
    ∃ z later, linesFrom line t = (line.reverse ++ z) :: later ∧ ∀ c ∈ z, c ∈ t := by
  fun_induction linesFrom line t with
  | case1 line hempty => exact absurd (List.isEmpty_iff.mp hempty) hne
  | case2 line => exact ⟨[], [], by simp, by simp⟩
  | case3 line t ih => exact ⟨[], linesFrom [] t, by simp, by simp⟩
  | case4 line c t hreturn hbreak ih => exact ⟨[], linesFrom [] t, by simp, by simp⟩
  | case5 line c t hreturn hbreak ih =>
    obtain ⟨z, later, hlines, hz⟩ := ih (List.cons_ne_nil _ _)
    refine ⟨c :: z, later, by simp [hlines], fun x hx => ?_⟩
    rcases List.mem_cons.mp hx with rfl | hx
    · exact .head _
    · exact .tail _ (hz x hx)

theorem exists_lines_cons {front : Text} (h : front.Unbroken) (hne : front ≠ []) (rest : Text) :
    ∃ z later, lines (front ++ rest) = (front ++ z) :: later ∧ ∀ c ∈ z, c ∈ rest := by
  have hlines := @exists_linesFrom_cons front.reverse (by simpa using hne) rest
  rw [lines, linesFrom_append h, List.append_nil]
  simpa using hlines

end RepoAtlas.Text
