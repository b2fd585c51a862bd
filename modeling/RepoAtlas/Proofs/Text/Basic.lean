import RepoAtlas.Text.Basic

/-!
# Texts

The order by code point is a total order. Splitting at a character undoes joining with it, the tests
for a beginning and an ending of a text find prefixes and suffixes, and a text is what it is cut into.
-/

namespace RepoAtlas.Text

-- -------------------------------------
-- Order
-- -------------------------------------

theorem le_total (a b : Text) : le a b = true ∨ le b a = true := by
  simp only [le, Bool.not_eq_true', decide_eq_false_iff_not]
  exact List.le_total a b

theorem le_trans (hab : le a b = true) (hbc : le b c = true) : le a c = true := by
  simp only [le, Bool.not_eq_true', decide_eq_false_iff_not] at hab hbc ⊢
  exact List.le_trans hab hbc

theorem le_antisymm (hab : le a b = true) (hba : le b a = true) : a = b := by
  simp only [le, Bool.not_eq_true', decide_eq_false_iff_not] at hab hba
  exact List.le_antisymm hab hba

-- -------------------------------------
-- Pieces
-- -------------------------------------

variable {sep : Char} {a : Text}

theorem splitOn_ne_nil (sep : Char) (t : Text) : splitOn sep t ≠ [] := by
  cases t with
  | nil => simp [splitOn]
  | cons c t =>
    unfold splitOn
    split
    · simp
    · split <;> simp

theorem splitOn_append (sep : Char) (a b : Text) :
    splitOn sep (a ++ sep :: b) = splitOn sep a ++ splitOn sep b := by
  induction a with
  | nil => simp [splitOn]
  | cons c a ih =>
    by_cases hc : c = sep
    · simp [splitOn, hc, ih]
    · simp only [List.cons_append, splitOn, beq_iff_eq, hc, if_false, ih]
      cases hs : splitOn sep a with
      | nil => exact absurd hs (splitOn_ne_nil sep a)
      | cons piece pieces => rfl

theorem splitOn_of_not_mem (h : sep ∉ a) : splitOn sep a = [a] := by
  induction a with
  | nil => rfl
  | cons c a ih =>
    simp only [List.mem_cons, not_or] at h
    simp [splitOn, Ne.symm h.1, ih h.2]

/-- What has no separator in it starts the first piece. -/
theorem exists_splitOn_append (h : sep ∉ a) (b : Text) :
    ∃ rest pieces, splitOn sep (a ++ b) = (a ++ rest) :: pieces := by
  induction a with
  | nil => exact List.exists_cons_of_ne_nil (splitOn_ne_nil sep b)
  | cons c a ih =>
    simp only [List.mem_cons, not_or] at h
    obtain ⟨rest, pieces, hpieces⟩ := ih h.2
    exact ⟨rest, pieces, by simp [splitOn, hpieces, Ne.symm h.1]⟩

theorem splitOn_intercalate {pieces : List Text} (hne : pieces ≠ [])
    (h : ∀ piece ∈ pieces, sep ∉ piece) : splitOn sep ([sep].intercalate pieces) = pieces := by
  induction pieces with
  | nil => exact absurd rfl hne
  | cons piece pieces ih =>
    obtain ⟨hpiece, hpieces⟩ := List.forall_mem_cons.mp h
    cases pieces with
    | nil => simpa [List.intercalate] using splitOn_of_not_mem hpiece
    | cons next pieces =>
      rw [List.intercalate_cons_cons, List.append_assoc, List.singleton_append, splitOn_append,
        splitOn_of_not_mem hpiece, ih (List.cons_ne_nil _ _) hpieces, List.singleton_append]

theorem mem_intercalate {pieces : List Text} {c : Char} (h : c ∈ [sep].intercalate pieces) :
    c = sep ∨ ∃ piece ∈ pieces, c ∈ piece := by
  induction pieces with
  | nil => simp [List.intercalate] at h
  | cons piece pieces ih =>
    cases pieces with
    | nil => exact .inr ⟨piece, .head _, by simpa [List.intercalate] using h⟩
    | cons next pieces =>
      rw [List.intercalate_cons_cons, List.mem_append, List.mem_append, List.mem_singleton] at h
      rcases h with (h | h) | h
      · exact .inr ⟨piece, .head _, h⟩
      · exact .inl h
      · exact (ih h).imp_right fun ⟨found, hmem, hc⟩ => ⟨found, .tail _ hmem, hc⟩

theorem not_mem_of_mem_splitOn {t piece : Text} (h : piece ∈ splitOn sep t) : sep ∉ piece := by
  induction t generalizing piece with
  | nil => simp_all [splitOn]
  | cons c t ih =>
    by_cases hc : c = sep
    · obtain rfl | hmem : piece = [] ∨ piece ∈ splitOn sep t := by simpa [splitOn, hc] using h
      · simp
      · exact ih hmem
    · cases hs : splitOn sep t with
      | nil => exact absurd hs (splitOn_ne_nil sep t)
      | cons first pieces =>
        rw [hs] at ih
        obtain rfl | hmem : piece = c :: first ∨ piece ∈ pieces := by
          simpa [splitOn, hc, hs] using h
        · simpa [Ne.symm hc] using ih (.head _)
        · exact ih (.tail _ hmem)

theorem mem_of_mem_splitOn {t piece : Text} (h : piece ∈ splitOn sep t) (hc : c ∈ piece) :
    c ∈ t := by
  induction t generalizing piece with
  | nil => simp_all [splitOn]
  | cons first t ih =>
    by_cases hsep : first = sep
    · obtain rfl | hmem : piece = [] ∨ piece ∈ splitOn sep t := by simpa [splitOn, hsep] using h
      · cases hc
      · exact .tail _ (ih hmem hc)
    · cases hs : splitOn sep t with
      | nil => exact absurd hs (splitOn_ne_nil sep t)
      | cons front pieces =>
        rw [hs] at ih
        obtain rfl | hmem : piece = first :: front ∨ piece ∈ pieces := by
          simpa [splitOn, hsep, hs] using h
        · rcases List.mem_cons.mp hc with rfl | hc
          · exact .head _
          · exact .tail _ (ih (.head _) hc)
        · exact .tail _ (ih (.tail _ hmem) hc)

theorem replaceChar_append (old new : Char) (s t : Text) :
    replaceChar old new (s ++ t) = replaceChar old new s ++ replaceChar old new t :=
  List.map_append

theorem replaceChar_of_not_mem {old : Char} {t : Text} (h : old ∉ t) (new : Char) :
    replaceChar old new t = t := by
  induction t with
  | nil => rfl
  | cons c t ih =>
    simp only [List.mem_cons, not_or] at h
    have hc : (c == old) = false := by simpa using Ne.symm h.1
    rw [replaceChar, List.map_cons, hc, ← replaceChar, ih h.2]
    rfl

-- -------------------------------------
-- Beginnings and endings
-- -------------------------------------

theorem after?_eq_some_iff {start t rest : Text} :
    after? start t = some rest ↔ t = start ++ rest := by
  fun_induction after? start t with
  | case1 t => simp
  | case2 => simp
  | case3 a start c t hac ih => simp_all
  | case4 a start c t hac =>
    have hca : c ≠ a := fun h => hac (by simp [h])
    simp [hca]

theorem after?_suffix {start t rest : Text} (h : after? start t = some rest) : rest <:+ t :=
  ⟨start, (after?_eq_some_iff.mp h).symm⟩

theorem suffix_of_findSome?_after? {α β : Type} {entries : List (Text × α)} {f : α → β} {b : β}
    {t rest : Text} (h : entries.findSome? (fun entry => (after? entry.1 t).map (f entry.2, ·)) =
      some (b, rest)) : rest <:+ t := by
  obtain ⟨entry, -, hentry⟩ := List.exists_of_findSome?_eq_some h
  obtain ⟨after, hafter, hpair⟩ := Option.map_eq_some_iff.mp hentry
  cases hpair
  exact after?_suffix hafter

theorem cut?_suffix {sep t front rest : Text} (h : cut? sep t = some (front, rest)) :
    rest <:+ t := by
  induction t generalizing front with
  | nil =>
    simp only [cut?] at h
    split at h
    · cases h
      exact List.suffix_rfl
    · cases h
  | cons c t ih =>
    simp only [cut?] at h
    split at h
    · rename_i after hafter
      cases h
      exact after?_suffix hafter
    · obtain ⟨found, hfound, hpair⟩ := Option.map_eq_some_iff.mp h
      cases hpair
      exact (ih hfound).trans (List.suffix_cons ..)

theorem startsWith_iff {start t : Text} : startsWith start t = true ↔ start <+: t := by
  rw [startsWith, Option.isSome_iff_exists]
  exact exists_congr fun rest => after?_eq_some_iff.trans eq_comm

theorem startsWith_eq_false {start t : Text} {c : Char} (hc : c ∈ start) (h : c ∉ t) :
    startsWith start t = false := by
  rw [Bool.eq_false_iff, Ne, startsWith_iff]
  exact fun hstart => h (hstart.subset hc)

theorem occursIn_iff {part t : Text} : occursIn part t = true ↔ part <:+: t := by
  unfold occursIn
  induction t with
  | nil => cases part <;> simp [cut?]
  | cons c t ih =>
    rw [List.infix_cons_iff, ← ih, ← startsWith_iff, startsWith, cut?]
    cases after? part (c :: t) <;> simp

theorem absent_of {part t : Text} (h : occursIn part t = false) : ¬part <:+: t := by
  rw [← occursIn_iff, h]
  exact Bool.false_ne_true

-- Up to the first occurrence

theorem upTo_of_absent {sep t : Text} (h : ¬sep <:+: t) : upTo sep t = t := by
  have hnone : cut? sep t = none := by simpa [← occursIn_iff, occursIn] using h
  rw [upTo, hnone]

theorem upTo_of_start {sep t : Text} (h : sep <+: t) : upTo sep t = [] := by
  obtain ⟨rest, rfl⟩ := h
  have hafter : after? sep (sep ++ rest) = some rest := after?_eq_some_iff.mpr rfl
  cases happend : sep ++ rest with
  | nil =>
    obtain ⟨rfl, -⟩ := List.append_eq_nil_iff.mp happend
    rfl
  | cons c t =>
    rw [happend] at hafter
    rw [upTo, cut?, hafter]

theorem upTo_cons {sep t : Text} {c : Char} (h : ¬sep <+: c :: t) :
    upTo sep (c :: t) = c :: upTo sep t := by
  have hnone : after? sep (c :: t) = none := by simpa [← startsWith_iff, startsWith] using h
  rw [upTo, upTo, cut?, hnone]
  cases cut? sep t <;> rfl

theorem prefix_upTo (sep t : Text) : upTo sep t <+: t := by
  induction t with
  | nil => cases sep <;> exact List.prefix_rfl
  | cons c t ih =>
    by_cases hstart : sep <+: c :: t
    · rw [upTo_of_start hstart]
      exact List.nil_prefix
    · rw [upTo_cons hstart]
      exact List.cons_prefix_cons.mpr ⟨rfl, ih⟩

/-- What follows an occurrence changes nothing in front of the first one. -/
theorem upTo_append_of_occurs {sep a : Text} (h : sep <:+: a) (b : Text) :
    upTo sep (a ++ b) = upTo sep a := by
  induction a with
  | nil =>
    obtain rfl := List.infix_nil.mp h
    rw [upTo_of_start List.nil_prefix, upTo_of_start List.nil_prefix]
  | cons c a ih =>
    by_cases hstart : sep <+: c :: a
    · rw [upTo_of_start hstart, upTo_of_start (hstart.trans (List.prefix_append ..))]
    · have hlater : sep <:+: a := (List.infix_cons_iff.mp h).resolve_left hstart
      have hstart' : ¬sep <+: c :: (a ++ b) := by
        intro hlong
        refine hstart (List.prefix_of_prefix_length_le hlong (List.prefix_append (c :: a) b) ?_)
        exact Nat.le_succ_of_le hlater.length_le
      rw [List.cons_append, upTo_cons hstart', upTo_cons hstart, ih hlater]

/-- An occurrence of two characters does not overlap an earlier one, unless the two are equal. -/
theorem upTo_append_pair {x y : Char} {a : Text} (hlast : x = y → a.getLast? ≠ some x) (b : Text) :
    upTo [x, y] (a ++ x :: y :: b) = upTo [x, y] a := by
  by_cases hinfix : [x, y] <:+: a
  · exact upTo_append_of_occurs hinfix _
  rw [upTo_of_absent hinfix]
  induction a with
  | nil => exact upTo_of_start (List.prefix_append [x, y] b)
  | cons c a ih =>
    obtain ⟨hstart, hlater⟩ := not_or.mp (mt List.infix_cons_iff.mpr hinfix)
    have hrest : x = y → a.getLast? ≠ some x := by
      cases a with
      | nil => simp
      | cons d a => exact fun hxy => by simpa using hlast hxy
    have hstart' : ¬[x, y] <+: c :: (a ++ x :: y :: b) := by
      intro hlong
      cases a with
      | nil =>
        obtain ⟨rfl, rfl⟩ : x = c ∧ y = x := by simpa using hlong
        exact hlast rfl rfl
      | cons d a => exact hstart (by simpa using hlong)
    rw [List.cons_append, upTo_cons hstart', ih hrest hlater]

/-- What has no character of the separator is passed over, in front and behind. -/
theorem upTo_append_left {sep front : Text} {x : Char} (hsep : sep.head? = some x)
    (h : x ∉ front) (t : Text) : upTo sep (front ++ t) = front ++ upTo sep t := by
  induction front with
  | nil => rfl
  | cons c front ih =>
    simp only [List.mem_cons, not_or] at h
    have hstart : ¬sep <+: c :: (front ++ t) := by
      intro hlong
      cases sep with
      | nil => cases hsep
      | cons y sep =>
        cases hsep
        exact h.1 (List.cons_prefix_cons.mp hlong).1
    rw [List.cons_append, upTo_cons hstart, ih h.2, List.cons_append]

theorem getLast?_append_ne {s t : Text} {c : Char} (hs : s.getLast? ≠ some c)
    (ht : t.getLast? ≠ some c) : (s ++ t).getLast? ≠ some c := by
  rw [List.getLast?_append, Ne, Option.or_eq_some_iff]
  rintro (h | ⟨-, h⟩)
  · exact ht h
  · exact hs h

/-- No occurrence arises where two texts meet, unless both sides have a character of it. -/
theorem absent_append_right {sep behind t : Text} {x : Char} (hsep : sep.getLast? = some x)
    (h : x ∉ behind) (hnot : ¬sep <:+: t) : ¬sep <:+: t ++ behind := by
  rintro ⟨before, after, heq⟩
  obtain ⟨front, rfl⟩ : ∃ front, sep = front ++ [x] := by
    obtain ⟨front, y, rfl⟩ := (List.eq_nil_or_concat sep).resolve_left (by rintro rfl; cases hsep)
    exact ⟨front, by simpa using hsep⟩
  -- the last character of the occurrence lies in `t`, and so does all of it
  rcases List.append_eq_append_iff.mp heq with ⟨rest, ht, -⟩ | ⟨rest, hsplit, hbehind⟩
  · exact hnot ⟨before, rest, ht.symm⟩
  · cases rest.eq_nil_or_concat with
    | inl hnil => exact hnot ⟨before, [], by simpa [hnil] using hsplit⟩
    | inr hconcat =>
      obtain ⟨rest, y, rfl⟩ := hconcat
      have hy : y = x := by simpa using congrArg List.getLast? hsplit.symm
      exact h (by simp [hbehind, hy])

theorem absent_append_left {sep front t : Text} {x : Char} (hsep : sep.head? = some x)
    (h : x ∉ front) (hnot : ¬sep <:+: t) : ¬sep <:+: front ++ t := by
  rw [← List.reverse_infix] at hnot ⊢
  rw [List.reverse_append]
  exact absent_append_right (by simpa using hsep) (by simpa using h) hnot

theorem upTo_append_right {sep behind t : Text} {x : Char} (hsep : sep.getLast? = some x)
    (h : x ∉ behind) (hnot : ¬sep <:+: t) : upTo sep (t ++ behind) = t ++ behind :=
  upTo_of_absent (absent_append_right hsep h hnot)

theorem upTo_singleton (c : Char) (t : Text) : upTo [c] t = t.takeWhile (· != c) := by
  induction t with
  | nil => rfl
  | cons d t ih =>
    by_cases hd : d = c
    · have hstart : [c] <+: d :: t := by simp [hd]
      rw [upTo_of_start hstart, List.takeWhile_cons_of_neg (by simpa using hd)]
    · have hstart : ¬[c] <+: d :: t := by simpa using Ne.symm hd
      rw [upTo_cons hstart, ih, List.takeWhile_cons_of_pos (by simpa using hd)]

theorem endsWith_iff {ending t : Text} : endsWith ending t = true ↔ ending <:+ t := by
  rw [endsWith, startsWith_iff, List.reverse_prefix]

theorem not_mem_takeWhile_bne (sep : Char) (t : Text) : sep ∉ t.takeWhile (· != sep) := by
  intro h
  simpa using List.all_eq_true.mp List.all_takeWhile sep h

theorem bne_of_not_mem {sep : Char} {t : Text} (h : sep ∉ t) : ∀ c ∈ t, (c != sep) = true := by
  intro c hc
  rw [bne_iff_ne]
  rintro rfl
  exact h hc

theorem takeWhile_bne_append {sep : Char} {t : Text} (h : sep ∈ t) :
    ∃ rest, t = t.takeWhile (· != sep) ++ sep :: rest := by
  induction t with
  | nil => cases h
  | cons c t ih =>
    by_cases hc : c = sep
    · exact ⟨t, by simp [hc]⟩
    · obtain ⟨rest, hrest⟩ := ih (by simpa [Ne.symm hc] using h)
      refine ⟨rest, ?_⟩
      rw [List.takeWhile_cons_of_pos (by simpa using hc), List.cons_append, ← hrest]

theorem takeWhile_bne_append_of_mem {sep : Char} {t : Text} (h : sep ∈ t) (rest : Text) :
    (t ++ rest).takeWhile (· != sep) = t.takeWhile (· != sep) := by
  obtain ⟨behind, hbehind⟩ := takeWhile_bne_append h
  have hfront := bne_of_not_mem (not_mem_takeWhile_bne sep t)
  generalize t.takeWhile (· != sep) = front at hbehind hfront
  rw [hbehind, List.append_assoc, List.takeWhile_append_of_pos hfront, List.cons_append,
    List.takeWhile_cons_of_neg (by simp), List.append_nil]

theorem cutLast?_eq_some {sep : Char} {t front back : Text}
    (h : cutLast? sep t = some (front, back)) : t = front ++ sep :: back ∧ sep ∉ back := by
  unfold cutLast? at h
  split at h
  · rename_i hsep
    obtain ⟨rest, hrest⟩ :=
      takeWhile_bne_append (List.mem_reverse.mpr (List.contains_iff_mem.mp hsep))
    have hback := not_mem_takeWhile_bne sep t.reverse
    generalize t.reverse.takeWhile (· != sep) = last at h hrest hback
    have ht : t = rest.reverse ++ sep :: last.reverse := by
      simpa using congrArg List.reverse hrest
    have hfront : t.take (t.length - last.length - 1) = rest.reverse := by
      rw [ht]
      refine List.take_left' ?_
      simp only [List.length_append, List.length_cons, List.length_reverse]
      omega
    cases h
    rw [hfront]
    exact ⟨ht, by simpa using hback⟩
  · cases h

theorem cutLast?_append {sep : Char} {back : Text} (h : sep ∉ back) (front : Text) :
    cutLast? sep (front ++ sep :: back) = some (front, back) := by
  have hback : (front ++ sep :: back).reverse.takeWhile (· != sep) = back.reverse := by
    rw [List.reverse_append, List.reverse_cons, List.append_assoc, List.takeWhile_append_of_pos
      (bne_of_not_mem (by simpa using h)), List.singleton_append,
      List.takeWhile_cons_of_neg (by simp), List.append_nil]
  have hlength : (front ++ sep :: back).length - back.length - 1 = front.length := by
    simp only [List.length_append, List.length_cons]
    omega
  have hmem : (front ++ sep :: back).contains sep = true := by simp
  simp only [cutLast?, hmem, if_true, hback, List.length_reverse, hlength, List.take_left,
    List.reverse_reverse]

-- -------------------------------------
-- Texts as keys
-- -------------------------------------

theorem lookup_cons {α : Type} (e key : Text) (a : α) (entries : List (Text × α)) :
    ((e, a) :: entries).lookup key = if key = e then some a else entries.lookup key := by
  rw [List.lookup_cons]
  by_cases hkey : key = e
  · simp [hkey]
  · simp [hkey, beq_eq_false_iff_ne.mpr hkey]

theorem mem_of_lookup {α : Type} {a : α} {entries : List (Text × α)} {key : Text}
    (h : entries.lookup key = some a) : (key, a) ∈ entries := by
  obtain ⟨front, back, rfl, -⟩ := List.lookup_eq_some_iff.mp h
  simp

theorem lookup_iff_mem {α : Type} {a : α} {entries : List (Text × α)} {key : Text}
    (hnodup : (entries.map Prod.fst).Nodup) : entries.lookup key = some a ↔ (key, a) ∈ entries := by
  refine ⟨mem_of_lookup, fun hmem => ?_⟩
  induction entries with
  | nil => cases hmem
  | cons entry entries ih =>
    obtain ⟨hnew, hnodup⟩ := List.nodup_cons.mp hnodup
    rcases List.mem_cons.mp hmem with rfl | hmem
    · exact List.lookup_cons_self
    · have hne : key ≠ entry.1 := fun heq => hnew (heq ▸ List.mem_map_of_mem hmem)
      rw [List.lookup_cons, beq_false_of_ne hne]
      exact ih hnodup hmem

end RepoAtlas.Text
