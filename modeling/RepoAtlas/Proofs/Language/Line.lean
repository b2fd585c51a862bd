import Mathlib.Data.List.Forall2
import RepoAtlas.Language.Form
import RepoAtlas.Proofs.Pattern.Search
import RepoAtlas.Proofs.Text.Blank

/-!
# Statements at the start of a line

A form of a statement is looked for where a line starts. If it starts with a word, then no match
starts on a line whose first word is another one.
-/

namespace RepoAtlas

namespace Text

/-- The word that a line starts with, behind spaces and tabs; it may be empty. -/
def firstWord (t : Text) : Text := (t.dropWhile Pattern.isSpaceOrTab).takeWhile isWord

/-- A property of what stands behind each line feed. -/
def BehindBreaks (P : Text → Prop) : Text → Prop
  | [] => True
  | x :: t => (x = '\n' → P t) ∧ BehindBreaks P t

variable {P : Text → Prop}

instance decidableBehindBreaks [DecidablePred P] : (t : Text) → Decidable (BehindBreaks P t)
  | [] => isTrue trivial
  | x :: t =>
    have := decidableBehindBreaks t
    inferInstanceAs (Decidable ((x = '\n' → P t) ∧ BehindBreaks P t))

theorem behindBreaks_append {front : Text} (h : '\n' ∉ front) (t : Text) :
    BehindBreaks P (front ++ t) ↔ BehindBreaks P t := by
  induction front with
  | nil => rfl
  | cons x front ih =>
    simp only [List.mem_cons, not_or] at h
    rw [List.cons_append, BehindBreaks, ih h.2]
    exact and_iff_right fun hx => absurd hx.symm h.1

theorem BehindBreaks.of_append {front t : Text} (h : BehindBreaks P (front ++ t)) :
    BehindBreaks P t := by
  induction front with
  | nil => exact h
  | cons x front ih => exact ih h.2

theorem BehindBreaks.imp {Q : Text → Prop} {t : Text} (h : BehindBreaks P t)
    (himp : ∀ t, P t → Q t) : BehindBreaks Q t := by
  induction t with
  | nil => trivial
  | cons x t ih => exact ⟨fun hx => himp t (h.1 hx), ih h.2⟩

/-- What follows a character that belongs to no word is not part of the first word. -/
theorem firstWord_append_cons {x : Char} (hgap : Pattern.isSpaceOrTab x = false)
    (hword : isWord x = false) (t rest : Text) : firstWord (t ++ x :: rest) = firstWord t := by
  have hdrop : (t ++ x :: rest).dropWhile Pattern.isSpaceOrTab =
      t.dropWhile Pattern.isSpaceOrTab ++ x :: rest := by
    induction t with
    | nil => simp [hgap]
    | cons y t ih =>
      by_cases hy : Pattern.isSpaceOrTab y = true
      · simpa [hy] using ih
      · simp [hy]
  rw [firstWord, hdrop, firstWord]
  induction t.dropWhile Pattern.isSpaceOrTab with
  | nil => simp [hword]
  | cons y t ih =>
    by_cases hy : isWord y = true
    · simpa [hy] using ih
    · simp [hy]

/-- White space in front either counts as a gap or hides the first word. -/
theorem firstWord_blank_append {before : Text} (h : ∀ c ∈ before, isBlank c = true) (t : Text) :
    firstWord (before ++ t) = firstWord t ∨ firstWord (before ++ t) = [] := by
  induction before with
  | nil => exact .inl rfl
  | cons x before ih =>
    obtain ⟨hx, hbefore⟩ := List.forall_mem_cons.mp h
    by_cases hgap : Pattern.isSpaceOrTab x = true
    · simpa [firstWord, hgap] using ih hbefore
    · exact .inr (by simp [firstWord, hgap, not_isWord_of_isBlank hx])

end Text

namespace ImportForm

open Pattern Text

variable {pieces rest : List Pattern} {word : Text} {c : Cursor}

theorem eq_of_isSpaceOrTab {x : Char} (h : isSpaceOrTab x = true) : x = ' ' ∨ x = '\t' := by
  simpa [isSpaceOrTab] using h

theorem isBlank_of_isSpaceOrTab {x : Char} (h : isSpaceOrTab x = true) : isBlank x = true := by
  rcases eq_of_isSpaceOrTab h with rfl | rfl <;> rfl

theorem not_isWord_of_isSpaceOrTab {x : Char} (h : isSpaceOrTab x = true) : isWord x = false :=
  not_isWord_of_isBlank (isBlank_of_isSpaceOrTab h)

theorem dotted_of_isWord {x : Char} (h : isWord x = true) : dotted x = true := by
  simp [dotted, wordOr, h]

theorem not_isBlank_of_dotted {x : Char} (h : dotted x = true) : isBlank x = false :=
  not_isBlank_of_wordOr (by decide) h

theorem not_isSpaceOrTab_of_dotted {x : Char} (h : dotted x = true) : isSpaceOrTab x = false := by
  rw [Bool.eq_false_iff]
  intro hgap
  have hblank := not_isBlank_of_dotted h
  rw [isBlank_of_isSpaceOrTab hgap] at hblank
  cases hblank

theorem head?_dotted {t : Text} (hne : t ≠ []) (ht : t.all dotted = true) (rest : Text) :
    (t ++ rest).head?.any isSpaceOrTab = false := by
  obtain ⟨x, t, rfl⟩ := List.exists_cons_of_ne_nil hne
  exact not_isSpaceOrTab_of_dotted (List.all_eq_true.mp ht x (.head _))

/-- Where a match of a form that starts with a word starts, the word stands. -/
theorem firstWord_of_run (hne : word ≠ []) (hword : word.all isWord = true)
    (hrest : StartsIn (fun x => !isWord x) (inOrder rest)) {s : State} {k : Rest} {r : State}
    (h : run (inOrder (gap0 :: lit word :: rest)) s k = some r) :
    firstWord s.cursor.ahead = word := by
  rw [run_inOrder_cons] at h
  obtain ⟨passed, d, hpassed, hd, hlit⟩ := run_many_inv h
  rw [run_inOrder_cons] at hlit
  obtain ⟨e, he, hrun⟩ := run_lit_inv hlit
  obtain ⟨x, word, rfl⟩ := List.exists_cons_of_ne_nil hne
  have hx : isSpaceOrTab x = false := by
    rw [← Bool.not_eq_true]
    intro hgap
    simp [not_isWord_of_isSpaceOrTab hgap] at hword
  have hstop : e.ahead.takeWhile isWord = [] := by
    cases hahead : e.ahead with
    | nil => rfl
    | cons y ahead =>
      refine List.takeWhile_cons_of_neg fun hy => ?_
      rw [hrest ⟨e, s.captures⟩ k (by simp [Cursor.facing, hahead, hy])] at hrun
      cases hrun
  rw [firstWord, hd.1, he.1, List.dropWhile_append_of_pos hpassed, List.cons_append,
    List.dropWhile_cons_of_neg (by simp [hx]), ← List.cons_append,
    List.takeWhile_append_of_pos (List.all_eq_true.mp hword), hstop, List.append_nil]

theorem misses_of_firstWord (hne : word ≠ []) (hword : word.all isWord = true)
    (hrest : StartsIn (fun x => !isWord x) (inOrder rest)) {t : Text} (h : firstWord t ≠ word) :
    Misses (inOrder (gap0 :: lit word :: rest)) t := by
  rintro s k rfl
  cases hrun : run (inOrder (gap0 :: lit word :: rest)) s k with
  | none => rfl
  | some r => exact absurd (firstWord_of_run hne hword hrest hrun) h

theorem startsIn_gap (rest : List Pattern) :
    StartsIn (fun x => !isWord x) (inOrder (gap :: rest)) := by
  refine StartsIn.inOrder (StartsIn.inOrder (startsIn_one ?_) [many isSpaceOrTab]) rest
  intro c hc
  simp [not_isWord_of_isSpaceOrTab hc]

theorem startsIn_blank (rest : List Pattern) :
    StartsIn (fun x => !isWord x) (inOrder (blank :: rest)) := by
  refine StartsIn.inOrder (StartsIn.inOrder (startsIn_one ?_) [many isBlank]) rest
  intro c hc
  simp [not_isWord_of_isBlank hc]

theorem reads_gap0_nil {rest : Text} (h : rest.head?.any isSpaceOrTab = false) :
    Reads gap0 [] rest [] := reads_many rfl h

theorem reads_gap0 {rest : Text} (h : rest.head?.any isSpaceOrTab = false) :
    Reads gap0 [' '] rest [] := reads_many rfl h

theorem reads_gap {rest : Text} (h : rest.head?.any isSpaceOrTab = false) :
    Reads gap [' '] rest [] := reads_many1 (List.cons_ne_nil _ _) rfl h

theorem run_line (pieces : List Pattern) (s : State) (k : Rest) :
    run (line pieces) s k =
      if s.cursor.before.isEmpty || s.cursor.behind (· == '\n') then
        run (inOrder (gap0 :: pieces)) s k
      else none := by
  rw [line, run_inOrder_cons]
  rfl

/-- A search finds nothing if neither this place nor one behind a line feed starts a match. -/
theorem searchAt?_line_eq_none
    (hhere : (c.before.isEmpty || c.behind (· == '\n')) = true →
      Misses (inOrder (gap0 :: pieces)) c.ahead)
    (hbehind : BehindBreaks (Misses (inOrder (gap0 :: pieces))) c.ahead) :
    (line pieces).searchAt? c = none := by
  have hmatch : ∀ {c : Cursor}, ((c.before.isEmpty || c.behind (· == '\n')) = true →
      Misses (inOrder (gap0 :: pieces)) c.ahead) → (line pieces).matchAt? c = none := by
    intro c hhere
    rw [matchAt?, run_line]
    split
    · rename_i hstart
      rw [hhere hstart _ _ rfl]
      rfl
    · rfl
  obtain ⟨before, ahead, n⟩ := c
  induction ahead generalizing before n with
  | nil => exact hmatch hhere
  | cons x ahead ih =>
    rw [searchAt?_cons, hmatch hhere, Option.none_or]
    refine ih _ _ (fun hstart => hbehind.1 ?_) hbehind.2
    simpa [Cursor.behind] using hstart

/-- A form that starts with a word is found nowhere if no line has the word but for one where the
match fails later. -/
theorem findAll_line_eq_nil {t : Text} (hne : word ≠ []) (hword : word.all isWord = true)
    (hrest : StartsIn (fun x => !isWord x) (inOrder rest))
    (hstart : Misses (inOrder (gap0 :: lit word :: rest)) t)
    (hbreaks : BehindBreaks (firstWord · ≠ word) t) : (line (lit word :: rest)).findAll t = [] :=
  findAll_eq_nil <| searchAt?_line_eq_none (fun _ => hstart) <|
    hbreaks.imp fun _ => misses_of_firstWord hne hword hrest

/-- A text that starts with a statement, and has no other. -/
theorem findAll_line_eq_singleton {front behind : Text} {x : Char} {found : List (String × Text)}
    (hne : word ≠ []) (hword : word.all isWord = true)
    (hrest : StartsIn (fun x => !isWord x) (inOrder rest))
    (h : Reads (inOrder (gap0 :: lit word :: rest)) (front ++ [x]) behind found) (hx : x ≠ '\n')
    (hbreaks : BehindBreaks (firstWord · ≠ word) behind) :
    ∃ m, (line (lit word :: rest)).findAll (front ++ [x] ++ behind) = [m] ∧
      ∀ name, m.get? name = (found.find? (·.1 == name)).map Prod.snd := by
  have hstart : (Cursor.start (front ++ [x] ++ behind)).ahead = front ++ [x] ++ behind := rfl
  obtain ⟨m, hm, hfirst, hend, hget⟩ := h.matchAt? hstart
  have hmatch : (line (lit word :: rest)).matchAt? (Cursor.start (front ++ [x] ++ behind)) =
      some m := by
    rw [← hm, matchAt?, run_line]
    rfl
  refine ⟨m, findAll_eq_singleton hmatch ?_ ?_, hget⟩
  · rw [hfirst, hend]
    simp [Cursor.past, Cursor.start]
  · rw [hend]
    refine searchAt?_line_eq_none (fun hplace => ?_) ?_
    · exact absurd (by simpa [Cursor.past, Cursor.start, Cursor.behind] using hplace) hx
    · rw [Cursor.ahead_past hstart]
      exact hbreaks.imp fun _ => misses_of_firstWord hne hword hrest

-- -------------------------------------
-- A statement on each line
-- -------------------------------------

theorem matchAt?_line {c : Cursor} (h : (c.before.isEmpty || c.behind (· == '\n')) = true) :
    (line pieces).matchAt? c = (inOrder (gap0 :: pieces)).matchAt? c := by
  rw [matchAt?, run_line, if_pos h, matchAt?]

/-- Within a line, the search goes on to the next one. -/
theorem searchAt?_line_feed {c : Cursor} {t ahead : Text} (hne : t ≠ []) (hfeed : '\n' ∉ t)
    (hc : c.ahead = t ++ '\n' :: ahead) :
    (line pieces).searchAt? (c.past t) = (line pieces).searchAt? (c.past (t ++ ['\n'])) := by
  obtain ⟨front, x, rfl⟩ : ∃ front x, t = front ++ [x] :=
    ⟨t.dropLast, t.getLast hne, (List.dropLast_append_getLast hne).symm⟩
  have hx : (x == '\n') = false := by
    rw [beq_eq_false_iff_ne]
    rintro rfl
    exact hfeed (by simp)
  have hinside : (line pieces).matchAt? (c.past (front ++ [x])) = none := by
    rw [matchAt?, run_line, if_neg (by simp [Cursor.past, Cursor.behind, hx])]
    rfl
  rw [← Cursor.past_append hc]
  generalize hd : c.past (front ++ [x]) = d at hinside
  have hahead : d.ahead = '\n' :: ahead := hd ▸ Cursor.ahead_past hc
  obtain ⟨before, rest, n⟩ := d
  obtain rfl : rest = '\n' :: ahead := hahead
  rw [searchAt?_cons, hinside, Option.none_or]
  rfl

/-- What a match captures. -/
def Captures (found : List (String × Text)) (m : Match) : Prop :=
  ∀ name, m.get? name = (found.find? (·.1 == name)).map Prod.snd

/-- A statement at the start of a line is found first. -/
theorem matchesFrom_line {t tail : Text} {found : List (String × Text)} {c : Cursor}
    (hread : Reads (inOrder (gap0 :: pieces)) t tail found) (hne : t ≠ [])
    (hstart : (c.before.isEmpty || c.behind (· == '\n')) = true) (hc : c.ahead = t ++ tail)
    (limit : Nat) : ∃ m, Captures found m ∧ (line pieces).matchesFrom (limit + 1) c [] =
      m :: (line pieces).matchesFrom limit (c.past t) [] := by
  obtain ⟨m, hm, hfirst, hlast, hget⟩ := hread.matchAt? hc
  have hsearch := searchAt?_of_matchAt? ((matchAt?_line hstart).trans hm)
  have hresume : resume? m = some (c.past t) := by
    have hahead : c.position < (c.past t).position :=
      Nat.lt_add_of_pos_right (List.length_pos_iff.mpr hne)
    rw [resume?, hfirst, hlast, if_pos hahead]
  refine ⟨m, hget, ?_⟩
  rw [matchesFrom_some hsearch, hresume, Option.elim_some, matchesFrom_eq]
  rfl

section Lines
variable {ι : Type} {text : ι → Text} {found : ι → List (String × Text)}

/-- Statements with one on each line are found one after the other. -/
theorem matchesFrom_lines {item : ι} {items : List ι}
    (htext : ∀ i ∈ item :: items, text i ≠ [] ∧ '\n' ∉ text i)
    (hread : ∀ i ∈ item :: items, ∀ tail : Text, (tail = [] ∨ tail.head? = some '\n') →
      Reads (inOrder (gap0 :: pieces)) (text i) tail (found i))
    (hnothing : Misses (inOrder (gap0 :: pieces)) [])
    {c : Cursor} (hstart : (c.before.isEmpty || c.behind (· == '\n')) = true)
    (hc : c.ahead = ['\n'].intercalate ((item :: items).map text)) {limit : Nat}
    (hlimit : items.length < limit) :
    List.Forall₂ (fun i m => Captures (found i) m) (item :: items)
      ((line pieces).matchesFrom limit c []) := by
  obtain ⟨limit, rfl⟩ := Nat.exists_eq_add_of_lt hlimit
  induction items generalizing item c with
  | nil =>
    have hahead : c.ahead = text item ++ [] := by simpa [List.intercalate] using hc
    obtain ⟨m, hm, hmatches⟩ := matchesFrom_line (hread item (.head _) [] (.inl rfl))
      (htext item (.head _)).1 hstart hahead (0 + limit)
    have hend : (c.past (text item)).ahead = [] := Cursor.ahead_past hahead
    have hbehind : (line pieces).searchAt? (c.past (text item)) = none :=
      searchAt?_line_eq_none (fun _ => hend ▸ hnothing) (hend ▸ trivial)
    rw [List.length_nil, hmatches, matchesFrom_none hbehind]
    exact .cons hm .nil
  | cons next items ih =>
    obtain ⟨⟨hne, hfeed⟩, htext⟩ := List.forall_mem_cons.mp htext
    obtain ⟨hitem, hread⟩ := List.forall_mem_cons.mp hread
    rw [List.map_cons, List.map_cons, List.intercalate_cons_cons, ← List.map_cons,
      List.append_assoc, List.singleton_append] at hc
    obtain ⟨m, hm, hmatches⟩ :=
      matchesFrom_line (hitem _ (.inr rfl)) hne hstart hc (items.length + 1 + limit)
    have hnext : (c.past (text item ++ ['\n'])).ahead =
        ['\n'].intercalate ((next :: items).map text) :=
      Cursor.ahead_past (by rw [hc, List.append_assoc, List.singleton_append])
    rw [List.length_cons, hmatches, matchesFrom_congr (searchAt?_line_feed hne hfeed hc)]
    refine .cons hm ?_
    have hlater := ih htext hread (by simp [Cursor.past, Cursor.behind]) hnext (by omega)
    rwa [Nat.add_right_comm] at hlater

end Lines

end ImportForm

end RepoAtlas
