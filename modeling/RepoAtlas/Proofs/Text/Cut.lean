import RepoAtlas.Proofs.Text.Blank

/-!
# Cutting a text in two

Where the parts of a text are told apart by the class of a character between them, or by white space
at an end, there is one way only to cut it.
-/

namespace RepoAtlas.Text

variable {q : Char → Bool} {a b t u : Text} {x y c : Char}

/-- A place in a text with a given character in it is in front of the character or behind it. -/
theorem append_cons_eq_append {passed ahead : Text} (h : a ++ x :: u = passed ++ ahead) :
    (∃ t, a = passed ++ t ∧ ahead = t ++ x :: u) ∨ ∃ t, passed = a ++ x :: t ∧ u = t ++ ahead := by
  rcases List.append_eq_append_iff.mp h with ⟨t, hpassed, hu⟩ | ⟨t, ha, hahead⟩
  · cases t with
    | nil => exact .inl ⟨[], by simpa using hpassed.symm, by simpa using hu.symm⟩
    | cons y t =>
      obtain ⟨rfl, rfl⟩ : x = y ∧ u = t ++ ahead := by simpa using hu
      exact .inr ⟨t, hpassed, rfl⟩
  · exact .inl ⟨t, ha, hahead⟩

/-- A text is cut in front of its first character of a class. -/
theorem eq_of_append_cons (ha : ∀ c ∈ a, q c = false) (hb : ∀ c ∈ b, q c = false) (hx : q x = true)
    (hy : q y = true) (h : a ++ x :: t = b ++ y :: u) : a = b ∧ x = y ∧ t = u := by
  have hfront : ∀ {a t : Text} {x : Char}, (∀ c ∈ a, q c = false) → q x = true →
      (a ++ x :: t).takeWhile (!q ·) = a := by
    intro a t x ha hx
    rw [List.takeWhile_append_of_pos fun c hc => by simp [ha c hc]]
    simp [hx]
  have hab : a = b := by rw [← hfront ha hx, h, hfront hb hy]
  subst hab
  simpa using h

/-- A text is cut in front of its only character of a class. -/
theorem eq_of_append_sole (ha : ∀ c ∈ a, q c = false) (ht : ∀ c ∈ t, q c = false) (hy : q y = true)
    (h : a ++ x :: t = b ++ y :: u) : a = b := by
  rcases append_cons_eq_append h with ⟨rest, hfront, hahead⟩ | ⟨rest, -, hbehind⟩
  · cases rest with
    | nil => simpa using hfront
    | cons z rest =>
      obtain ⟨rfl, -⟩ : y = z ∧ u = rest ++ x :: t := by simpa using hahead
      rw [ha y (by simp [hfront])] at hy
      cases hy
  · rw [ht y (by simp [hbehind])] at hy
    cases hy

/-- A text is cut in front of the white space at its end. -/
theorem eq_of_append_blank (ha : ∃ c, a.getLast? = some c ∧ isBlank c = false)
    (hb : ∃ c, b.getLast? = some c ∧ isBlank c = false) (ht : ∀ c ∈ t, isBlank c = true)
    (hu : ∀ c ∈ u, isBlank c = true) (h : a ++ t = b ++ u) : a = b := by
  have hcut : ∀ {a t : Text}, (∃ c, a.getLast? = some c ∧ isBlank c = false) →
      (∀ c ∈ t, isBlank c = true) → trimRight (a ++ t) = a := by
    rintro a t ⟨c, hlast, hblank⟩ ht
    rw [← List.head?_reverse] at hlast
    obtain ⟨rest, hrest⟩ := List.head?_eq_some_iff.mp hlast
    rw [trimRight, List.reverse_append, List.dropWhile_append_of_pos (by simpa using ht), hrest,
      List.dropWhile_cons_of_neg (by simp [hblank]), ← hrest, List.reverse_reverse]
  rw [← hcut ha ht, h, hcut hb hu]

theorem ends_of_trim (hne : t ≠ []) (h : trim t = t) :
    (∃ c, t.head? = some c ∧ isBlank c = false) ∧ ∃ c, t.getLast? = some c ∧ isBlank c = false := by
  have hshort {u : Text} (hlength : u.length < t.length) (htrim : trim t = trim u) : False := by
    have hpart := trim_infix u
    have hle := hpart.length_le
    rw [← htrim, h] at hle
    omega
  constructor
  · obtain ⟨c, u, rfl⟩ := List.exists_cons_of_ne_nil hne
    refine ⟨c, rfl, Bool.eq_false_iff.mpr fun hblank => hshort (u := u) (by simp) ?_⟩
    exact trim_blank_append (List.forall_mem_singleton.mpr hblank) u
  · obtain ⟨init, x, rfl⟩ : ∃ init x, t = init ++ [x] :=
      ⟨t.dropLast, t.getLast hne, (List.dropLast_concat_getLast hne).symm⟩
    refine ⟨x, List.getLast?_concat, Bool.eq_false_iff.mpr fun hblank => ?_⟩
    exact hshort (u := init) (by simp) (trim_concat hblank init)

-- -------------------------------------
-- Texts without their white space
-- -------------------------------------

/-- What of a text is not white space. -/
def ink (t : Text) : Text := t.filter (!isBlank ·)

theorem ink_append (a b : Text) : ink (a ++ b) = ink a ++ ink b := List.filter_append a b

theorem ink_of_blank (h : ∀ c ∈ t, isBlank c = true) : ink t = [] :=
  List.filter_eq_nil_iff.mpr fun c hc => by simp [h c hc]

theorem mem_ink (hc : c ∈ t) : isBlank c = true ∨ c ∈ ink t := by
  cases hblank : isBlank c with
  | true => exact .inl rfl
  | false => exact .inr (List.mem_filter.mpr ⟨hc, by simp [hblank]⟩)

end RepoAtlas.Text
