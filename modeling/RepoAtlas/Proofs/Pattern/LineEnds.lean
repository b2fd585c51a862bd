import Mathlib.Data.List.Forall2
import RepoAtlas.Proofs.Pattern.Run

/-!
# Line ends

A pattern is run on a text and on the same text with a carriage return in front of every line feed.
Each place of the first text has its twin in the second, which has one more kind of place: between a
carriage return and its line feed. The two runs stay in step as long as that kind of place is
nowhere accepted. `Turns` says of a pattern what it asks of the work that follows it and what it
gives to the work before it, so patterns are put together from their parts.
-/

namespace RepoAtlas

/-- The text with a carriage return in front of every line feed. -/
def Text.withReturns : Text → Text
  | [] => []
  | x :: t => if x = '\n' then '\r' :: '\n' :: withReturns t else x :: withReturns t

/-- What `Text.withReturns` makes of the part of a text that was passed, nearest character first. -/
def Text.withReturnsBehind : Text → Text
  | [] => []
  | x :: t => if x = '\n' then '\n' :: '\r' :: withReturnsBehind t else x :: withReturnsBehind t

namespace Text

@[simp] theorem withReturns_nil : withReturns [] = [] := rfl

@[simp] theorem withReturns_newline (t : Text) :
    withReturns ('\n' :: t) = '\r' :: '\n' :: withReturns t := rfl

@[simp] theorem withReturns_cons {x : Char} (hx : x ≠ '\n') (t : Text) :
    withReturns (x :: t) = x :: withReturns t := by
  simp [withReturns, hx]

@[simp] theorem withReturnsBehind_newline (t : Text) :
    withReturnsBehind ('\n' :: t) = '\n' :: '\r' :: withReturnsBehind t := rfl

@[simp] theorem withReturnsBehind_cons {x : Char} (hx : x ≠ '\n') (t : Text) :
    withReturnsBehind (x :: t) = x :: withReturnsBehind t := by
  simp [withReturnsBehind, hx]

theorem withReturns_append (a b : Text) :
    withReturns (a ++ b) = withReturns a ++ withReturns b := by
  induction a with
  | nil => rfl
  | cons x a ih => by_cases hx : x = '\n' <;> simp [hx, ih]

theorem withReturnsBehind_eq (t : Text) :
    withReturnsBehind t = (withReturns t.reverse).reverse := by
  induction t with
  | nil => rfl
  | cons x t ih => by_cases hx : x = '\n' <;> simp [hx, ih, withReturns_append]

theorem withReturns_eq_self {t : Text} (h : '\n' ∉ t) : withReturns t = t := by
  induction t with
  | nil => rfl
  | cons x t ih =>
    simp only [List.mem_cons, not_or] at h
    rw [withReturns_cons (Ne.symm h.1), ih h.2]

theorem length_le_withReturns (t : Text) : t.length ≤ (withReturns t).length := by
  induction t with
  | nil => simp
  | cons x t ih => by_cases hx : x = '\n' <;> simp [hx] <;> omega

end Text

namespace Cursor

/-- The same place in the text with carriage returns. -/
def withReturns (c : Cursor) : Cursor :=
  ⟨Text.withReturnsBehind c.before, Text.withReturns c.ahead,
    (Text.withReturnsBehind c.before).length⟩

/-- The place between a carriage return and its line feed. -/
def midBreak (before ahead : Text) : Cursor :=
  ⟨'\r' :: Text.withReturnsBehind before, '\n' :: Text.withReturns ahead,
    (Text.withReturnsBehind before).length + 1⟩

variable {t : Text} {c d : Cursor}

theorem On.exists_between (hc : c.On t) (hd : d.On t) (h : c.position ≤ d.position) :
    ∃ w, d.before = w ++ c.before ∧ c.ahead = w.reverse ++ d.ahead := by
  have htext := hc.text.trans hd.text.symm
  rw [hc.position, hd.position] at h
  rcases List.append_eq_append_iff.mp htext with ⟨w, hbefore, hahead⟩ | ⟨w, hbefore, hahead⟩
  · refine ⟨w.reverse, ?_, by simpa using hahead⟩
    rw [← List.reverse_inj, hbefore]
    simp
  · have hw : w = [] := by
      have hlength := congrArg List.length hbefore
      simp only [List.length_reverse, List.length_append] at hlength
      exact List.eq_nil_of_length_eq_zero (by omega)
    subst hw
    exact ⟨[], by simpa using (List.reverse_inj.mp (by simpa using hbefore)).symm,
      by simpa using hahead.symm⟩

theorem withReturns_position_add_le (hc : c.On t) (hd : d.On t) (h : c.position ≤ d.position) :
    c.withReturns.position + (d.position - c.position) ≤ d.withReturns.position := by
  obtain ⟨w, hbefore, -⟩ := hc.exists_between hd h
  have hlength := Text.length_le_withReturns w.reverse
  simp only [withReturns, Text.withReturnsBehind_eq, hbefore, hc.position, hd.position,
    List.reverse_append, Text.withReturns_append, List.length_append, List.length_reverse] at *
  omega

theorem withReturns_position_lt_iff (hc : c.On t) (hd : d.On t) :
    c.withReturns.position < d.withReturns.position ↔ c.position < d.position := by
  rcases Nat.lt_or_ge c.position d.position with h | h
  · have := withReturns_position_add_le hc hd (by omega)
    omega
  · have := withReturns_position_add_le hd hc h
    omega

theorem take_withReturns (hc : c.On t) (hd : d.On t) :
    c.withReturns.ahead.take (d.withReturns.position - c.withReturns.position) =
      Text.withReturns (c.ahead.take (d.position - c.position)) := by
  by_cases h : c.position ≤ d.position
  · obtain ⟨w, hbefore, hahead⟩ := hc.exists_between hd h
    have hw : d.position - c.position = w.reverse.length := by
      simp [hc.position, hd.position, hbefore]
    have hw' : d.withReturns.position - c.withReturns.position =
        (Text.withReturns w.reverse).length := by
      simp [withReturns, Text.withReturnsBehind_eq, hbefore, Text.withReturns_append]
    rw [hw, hw', hahead, List.take_left, withReturns, hahead, Text.withReturns_append,
      List.take_left]
  · have h' := (withReturns_position_lt_iff hd hc).mpr (by omega)
    have hzero : d.position - c.position = 0 := by omega
    have hzero' : d.withReturns.position - c.withReturns.position = 0 := by omega
    rw [hzero, hzero']
    rfl

/-- The text up to a line feed, and the one up to inside the line break. -/
theorem take_midBreak {before ahead : Text} {n : Nat} (hc : c.On t)
    (hd : On t ⟨before, '\n' :: ahead, n⟩) (h : c.position ≤ n) :
    c.withReturns.ahead.take ((midBreak before ahead).position - c.withReturns.position) =
      Text.withReturns (c.ahead.take (n - c.position)) ++ ['\r'] := by
  obtain ⟨w, hbefore, hahead⟩ := hc.exists_between hd h
  simp only at hbefore hahead
  have hw : n - c.position = w.reverse.length := by
    have := hd.position
    simp only at this
    simp [hc.position, this, hbefore]
  have hw' : (midBreak before ahead).position - c.withReturns.position =
      (Text.withReturns w.reverse).length + 1 := by
    simp [midBreak, withReturns, Text.withReturnsBehind_eq, hbefore, Text.withReturns_append]
    omega
  rw [hw, hw', hahead, List.take_left, withReturns, hahead, Text.withReturns_append,
    List.take_length_add_append]
  rfl

/-- A run of characters of a class that has the carriage return but not the line feed. -/
theorem skip_withReturns {p : Char → Bool} (hreturn : p '\r' = true) (hnewline : p '\n' = false)
    (c : Cursor) :
    c.withReturns.skip p = (c.skip p).withReturns ∨
      ∃ before ahead n, c.skip p = ⟨before, '\n' :: ahead, n⟩ ∧
        c.withReturns.skip p = midBreak before ahead := by
  obtain ⟨before, ahead, n⟩ := c
  induction ahead generalizing before n with
  | nil => exact .inl rfl
  | cons x ahead ih =>
    by_cases hx : x = '\n'
    · subst hx
      refine .inr ⟨before, ahead, n, skip_stop hnewline .., ?_⟩
      simp only [withReturns, Text.withReturns_newline]
      rw [skip_cons hreturn, skip_stop hnewline]
      rfl
    · by_cases hpx : p x = true
      · have := ih (x :: before) (n + 1)
        simp only [withReturns, Text.withReturns_cons hx, Text.withReturnsBehind_cons hx,
          List.length_cons, skip_cons hpx] at this ⊢
        exact this
      · rw [Bool.not_eq_true] at hpx
        left
        simp only [withReturns, Text.withReturns_cons hx, skip_stop hpx]

end Cursor

namespace Pattern

-- -------------------------------------
-- Work that is in step
-- -------------------------------------

/-- A relation of captures that is kept when both runs add a capture of the same name between twin
places. -/
def Extensible (t : Text) (C : List Capture → List Capture → Prop) : Prop :=
  ∀ captures captures' name (c d : Cursor), c.On t → d.On t → C captures captures' →
    C (⟨name, c.ahead, d.position - c.position⟩ :: captures)
      (⟨name, c.withReturns.ahead, d.withReturns.position - c.withReturns.position⟩ :: captures')

/-- At twin places both fail, or both succeed with results in the relation `R`. -/
def Alike (t : Text) (C : List Capture → List Capture → Prop) (R : State → State → Prop)
    (k k' : Rest) : Prop :=
  ∀ c captures captures', c.On t → C captures captures' →
    Option.Rel R (k ⟨c, captures⟩) (k' ⟨c.withReturns, captures'⟩)

/-- Fails between a carriage return and its line feed. -/
def Refuses (t : Text) (k' : Rest) : Prop :=
  ∀ before ahead n captures', Cursor.On t ⟨before, '\n' :: ahead, n⟩ →
    k' ⟨.midBreak before ahead, captures'⟩ = none

/-- Fails between a carriage return and its line feed if the other fails behind the line feed. -/
def Yields (t : Text) (k k' : Rest) : Prop :=
  ∀ before ahead n captures captures', Cursor.On t ⟨before, '\n' :: ahead, n⟩ →
    k ⟨⟨'\n' :: before, ahead, n + 1⟩, captures⟩ = none →
      k' ⟨.midBreak before ahead, captures'⟩ = none

/-- Does between a carriage return and its line feed what the other does behind the line feed. -/
def Leads (t : Text) (C : List Capture → List Capture → Prop) (R : State → State → Prop)
    (k k' : Rest) : Prop :=
  ∀ before ahead n captures captures', Cursor.On t ⟨before, '\n' :: ahead, n⟩ →
    C captures captures' →
      Option.Rel R (k ⟨⟨'\n' :: before, ahead, n + 1⟩, captures⟩)
        (k' ⟨.midBreak before ahead, captures'⟩)

/-- What a pattern asks of the work behind it and gives to the work before it. Runs stay in step,
if the work behind refuses the places inside a line break when `asks` holds; and the pattern
refuses them when `gives` holds. -/
structure Turns (t : Text) (asks gives : Bool) (p : Pattern) : Prop where
  alike : ∀ {C R} {k k' : Rest}, Extensible t C → Alike t C R k k' →
    (asks = true → Refuses t k') → Alike t C R (fun s => run p s k) (fun s => run p s k')
  refuses : gives = true → ∀ {k' : Rest}, (asks = true → Refuses t k') →
    Refuses t fun s => run p s k'

/-- A class of characters without carriage return and line feed. -/
def Apart (p : Char → Bool) : Prop := p '\r' = false ∧ p '\n' = false

/-- A class of characters with carriage return and line feed. -/
def Amid (p : Char → Bool) : Prop := p '\r' = true ∧ p '\n' = true

/-- A text that is there, and has neither carriage returns nor line feeds. -/
def Unbroken (word : Text) : Prop := word ≠ [] ∧ '\r' ∉ word ∧ '\n' ∉ word

instance (p : Char → Bool) : Decidable (Apart p) := inferInstanceAs (Decidable (_ ∧ _))

instance (p : Char → Bool) : Decidable (Amid p) := inferInstanceAs (Decidable (_ ∧ _))

instance (word : Text) : Decidable (Unbroken word) := inferInstanceAs (Decidable (_ ∧ _))

variable {t : Text} {C : List Capture → List Capture → Prop} {R : State → State → Prop}
  {k k' : Rest} {p stop : Char → Bool} {asks gives : Bool} {a b : Pattern}

theorem rel_or {α β : Type} {R : α → β → Prop} {x y : Option α} {x' y' : Option β}
    (hx : Option.Rel R x x') (hy : Option.Rel R y y') : Option.Rel R (x.or y) (x'.or y') := by
  cases hx with
  | some h => exact .some h
  | none => exact hy

theorem rel_cases {α β : Type} {R : α → β → Prop} {x : Option α} {x' : Option β}
    (h : Option.Rel R x x') :
    (x = none ∧ x' = none) ∨ ∃ a b, x = some a ∧ x' = some b ∧ R a b := by
  cases h with
  | some h => exact .inr ⟨_, _, rfl, rfl, h⟩
  | none => exact .inl ⟨rfl, rfl⟩

theorem rel_map {α β γ δ : Type} {R : α → β → Prop} {S : γ → δ → Prop} {f : α → γ} {g : β → δ}
    {x : Option α} {x' : Option β} (hx : Option.Rel R x x') (h : ∀ a b, R a b → S (f a) (g b)) :
    Option.Rel S (x.map f) (x'.map g) := by
  cases hx with
  | some hr => exact .some (h _ _ hr)
  | none => exact .none

/-- A further try that fails whenever it is reached. -/
theorem rel_or_none {α β : Type} {R : α → β → Prop} {x : Option α} {x' y' : Option β}
    (hx : Option.Rel R x x') (hy : x = none → y' = none) : Option.Rel R x (x'.or y') := by
  cases hx with
  | some h => exact .some h
  | none =>
    rw [hy rfl]
    exact .none

theorem Refuses.yields (h : Refuses t k') : Yields t k k' :=
  fun _ _ _ _ captures' hon _ => h _ _ _ captures' hon

-- -------------------------------------
-- Patterns put together
-- -------------------------------------

namespace Turns

theorem lower (h : Turns t asks true a) : Turns t asks gives a :=
  ⟨h.alike, fun _ => h.refuses rfl⟩

theorem empty : Turns t asks asks empty :=
  ⟨fun _ hk _ => hk, fun h _ hr => hr h⟩

theorem seq {between : Bool} (ha : Turns t between gives a) (hb : Turns t asks between b) :
    Turns t asks gives (seq a b) where
  alike hC hk hr := ha.alike hC (hb.alike hC hk hr) fun h => hb.refuses h hr
  refuses h _ hr := ha.refuses h fun h => hb.refuses h hr

theorem alt (ha : Turns t asks gives a) (hb : Turns t asks gives b) :
    Turns t asks gives (alt a b) where
  alike hC hk hr c captures captures' hon hcaptures := by
    simp only [run_alt]
    exact rel_or (ha.alike hC hk hr c _ _ hon hcaptures) (hb.alike hC hk hr c _ _ hon hcaptures)
  refuses h k' hr before ahead n captures' hon := by
    have hfirst : run a ⟨.midBreak before ahead, captures'⟩ k' = none :=
      ha.refuses h hr _ _ _ _ hon
    have hsecond : run b ⟨.midBreak before ahead, captures'⟩ k' = none :=
      hb.refuses h hr _ _ _ _ hon
    simp [run_alt, hfirst, hsecond]

theorem opt (ha : Turns t asks asks a) : Turns t asks asks (opt a) := ha.alt empty

theorem cons {between : Bool} {rest : List Pattern} (ha : Turns t between gives a)
    (hrest : Turns t asks between (inOrder rest)) : Turns t asks gives (inOrder (a :: rest)) := by
  cases rest with
  | nil => exact ⟨(ha.seq hrest).alike, (ha.seq hrest).refuses⟩
  | cons b rest => exact ha.seq hrest

theorem capture {name : String} (ha : Turns t asks gives a) :
    Turns t asks gives (capture name a) where
  alike hC hk hr c captures captures' hon hcaptures := by
    simp only [run]
    refine ha.alike hC ?_ ?_ c captures captures' hon hcaptures
    · intro d added added' hd hadded
      exact hk d _ _ hd (hC _ _ name c d hon hd hadded)
    · intro h before ahead n _ hon
      exact hr h before ahead n _ hon
  refuses h k' hr before ahead n captures' hon := by
    simp only [run]
    refine ha.refuses h ?_ before ahead n captures' hon
    intro h before ahead n _ hon
    exact hr h before ahead n _ hon

-- -------------------------------------
-- Texts, classes and conditions without line breaks
-- -------------------------------------

theorem eat?_withReturns {word : Text} (hword : '\r' ∉ word ∧ '\n' ∉ word) (c : Cursor) :
    c.withReturns.eat? word = (c.eat? word).map Cursor.withReturns := by
  induction word generalizing c with
  | nil => rfl
  | cons x word ih =>
    simp only [List.mem_cons, not_or] at hword
    obtain ⟨before, ahead, n⟩ := c
    cases ahead with
    | nil => rfl
    | cons y ahead =>
      by_cases hy : y = '\n'
      · subst hy
        simp [Cursor.withReturns, Cursor.eat?, Ne.symm hword.1.1, Ne.symm hword.2.1]
      · by_cases hxy : x = y
        · have := ih ⟨hword.1.2, hword.2.2⟩ ⟨y :: before, ahead, n + 1⟩
          simpa [Cursor.withReturns, Cursor.eat?, hy, hxy] using this
        · simp [Cursor.withReturns, Cursor.eat?, hy, hxy]

theorem rel_lit {word : Text} (hword : '\r' ∉ word ∧ '\n' ∉ word) {c : Cursor}
    {captures captures' : List Capture} (hon : c.On t)
    (hk : ∀ d : Cursor, d.On t → d.before = word.reverse ++ c.before →
      Option.Rel R (k ⟨d, captures⟩) (k' ⟨d.withReturns, captures'⟩)) :
    Option.Rel R (run (.lit word) ⟨c, captures⟩ k)
      (run (.lit word) ⟨c.withReturns, captures'⟩ k') := by
  simp only [run, eat?_withReturns hword]
  cases heat : c.eat? word with
  | none => exact .none
  | some d =>
    have hreach := Cursor.eat?_eq_some_iff.mp heat
    exact hk d (hon.reaches ⟨word, hreach⟩) hreach.2.1

theorem lit {word : Text} (hword : Unbroken word) :
    Turns t asks true (lit word) where
  alike _ hk _ _ _ _ hon hcaptures :=
    rel_lit hword.2 hon fun d hd _ => hk d _ _ hd hcaptures
  refuses _ _ _ before ahead n captures' hon := by
    obtain ⟨x, word, rfl⟩ := List.exists_cons_of_ne_nil hword.1
    have hx : x ≠ '\n' := fun h => hword.2.2 (by simp [h])
    simp [run, Cursor.midBreak, Cursor.eat?, hx]

theorem one (hp : Apart p) : Turns t asks true (one p) where
  alike _ hk _ := by
    rintro ⟨before, ahead, n⟩ captures captures' hon hcaptures
    cases ahead with
    | nil => exact .none
    | cons x ahead =>
      by_cases hx : x = '\n'
      · subst hx
        simp only [Cursor.withReturns, Text.withReturns_newline, run_one_cons, hp.1, hp.2]
        exact .none
      · simp only [Cursor.withReturns, Text.withReturns_cons hx, run_one_cons]
        split
        · simpa [Cursor.withReturns, hx] using hk _ _ _ hon.pass hcaptures
        · exact .none
  refuses _ _ _ before ahead n captures' hon := by
    simp [Cursor.midBreak, run_one_cons, hp.2]

theorem many (hp : Apart p) : Turns t asks asks (many p) where
  alike _ hk _ := by
    rintro ⟨before, ahead, n⟩ captures captures' hon hcaptures
    induction ahead generalizing before n with
    | nil => exact hk _ _ _ hon hcaptures
    | cons x ahead ih =>
      have hhere := hk _ _ _ hon hcaptures
      by_cases hx : x = '\n'
      · subst hx
        simp only [Cursor.withReturns, Text.withReturns_newline, run_many_stop hp.1,
          run_many_stop hp.2] at hhere ⊢
        exact hhere
      · have hthere := ih _ _ hon.pass
        simp only [Cursor.withReturns, Text.withReturns_cons hx,
          Text.withReturnsBehind_cons hx, List.length_cons] at hhere hthere ⊢
        by_cases hpx : p x = true
        · rw [run_many_cons hpx, run_many_cons hpx]
          exact rel_or hthere hhere
        · rw [run_many_stop (by simpa using hpx), run_many_stop (by simpa using hpx)]
          exact hhere
  refuses h k' hr before ahead n captures' hon := by
    have := hr h _ _ _ captures' hon
    simpa [Cursor.midBreak, run_many_stop hp.2] using this

theorem many1 (hp : Apart p) : Turns t asks true (many1 p) := (one hp).seq (many hp)

theorem few (hp : Apart p) (hstop : stop '\r' = stop '\n') :
    Turns t asks asks (few p stop) where
  alike _ hk _ := by
    rintro ⟨before, ahead, n⟩ captures captures' hon hcaptures
    induction ahead generalizing before n with
    | nil => exact hk _ _ _ hon hcaptures
    | cons x ahead ih =>
      have hhere := hk _ _ _ hon hcaptures
      by_cases hx : x = '\n'
      · subst hx
        simp only [Cursor.withReturns, Text.withReturns_newline, run_few_cons, hp.1, hp.2,
          hstop] at hhere ⊢
        split
        · exact rel_or hhere .none
        · exact .none
      · have hthere := ih _ _ hon.pass
        simp only [Cursor.withReturns, Text.withReturns_cons hx,
          Text.withReturnsBehind_cons hx, List.length_cons, run_few_cons] at hhere hthere ⊢
        refine rel_or ?_ ?_
        · split
          · exact hhere
          · exact .none
        · split
          · exact hthere
          · exact .none
  refuses h k' hr before ahead n captures' hon := by
    have := hr h _ _ _ captures' hon
    simp only [Cursor.midBreak, run_few_cons, hp.2] at this ⊢
    simp [this]

theorem few1 (hp : Apart p) : Turns t asks true (few1 p) := (one hp).seq (few hp rfl)

theorem here {q : Cursor → Bool} (hq : ∀ c : Cursor, q c.withReturns = q c)
    (hmid : ∀ before ahead, q (.midBreak before ahead) = false) : Turns t asks true (here q) where
  alike _ hk _ c captures captures' hon hcaptures := by
    simp only [run, hq]
    split
    · exact hk c _ _ hon hcaptures
    · exact .none
  refuses _ _ _ before ahead n captures' hon := by
    simp [run, hmid]

theorem lineStart : Turns t asks true lineStart := by
  refine here ?_ fun before ahead => by simp [Cursor.midBreak, Cursor.behind]
  rintro ⟨before, ahead, n⟩
  cases before with
  | nil => rfl
  | cons x before =>
    by_cases hx : x = '\n' <;> simp [Cursor.withReturns, Cursor.behind, hx]

theorem isWord_return : Text.isWord '\r' = false := by decide

theorem isWord_newline : Text.isWord '\n' = false := by decide

theorem wordEdge : Turns t asks true wordEdge := by
  refine here ?_ fun before ahead => by
    simp [Cursor.midBreak, Cursor.behind, Cursor.facing, isWord_return, isWord_newline]
  rintro ⟨before, ahead, n⟩
  have hbehind : (Cursor.withReturns ⟨before, ahead, n⟩).behind Text.isWord =
      Cursor.behind Text.isWord ⟨before, ahead, n⟩ := by
    cases before with
    | nil => rfl
    | cons x before =>
      by_cases hx : x = '\n' <;> simp [Cursor.withReturns, Cursor.behind, hx]
  have hfacing : (Cursor.withReturns ⟨before, ahead, n⟩).facing Text.isWord =
      Cursor.facing Text.isWord ⟨before, ahead, n⟩ := by
    cases ahead with
    | nil => rfl
    | cons x ahead =>
      by_cases hx : x = '\n' <;>
        simp [Cursor.withReturns, Cursor.facing, hx, isWord_return, isWord_newline]
  rw [hbehind, hfacing]

end Turns

-- -------------------------------------
-- Classes with line breaks
-- -------------------------------------

section

variable {before ahead : Text} {n : Nat} {captures captures' : List Capture}

/-- A repetition from inside a line break is tried behind the line feed first, and inside the break
only if that fails. -/
theorem rel_many_midBreak (hp : Amid p) (hy : Yields t k k')
    (hon : Cursor.On t ⟨before, '\n' :: ahead, n⟩)
    (hthere : Option.Rel R (run (many p) ⟨⟨'\n' :: before, ahead, n + 1⟩, captures⟩ k)
      (run (many p) ⟨Cursor.withReturns ⟨'\n' :: before, ahead, n + 1⟩, captures'⟩ k')) :
    Option.Rel R (run (many p) ⟨⟨'\n' :: before, ahead, n + 1⟩, captures⟩ k)
      (run (many p) ⟨.midBreak before ahead, captures'⟩ k') := by
  rw [Cursor.midBreak, run_many_cons hp.2]
  refine rel_or_none hthere fun hnone => ?_
  exact hy _ _ _ captures captures' hon (rest_none_of_run_many hnone)

theorem Alike.many_amid (hp : Amid p) (hk : Alike t C R k k') (hy : Yields t k k') :
    Alike t C R (fun s => run (many p) s k) (fun s => run (many p) s k') := by
  rintro ⟨before, ahead, n⟩ captures captures' hon hcaptures
  induction ahead generalizing before n with
  | nil => exact hk _ _ _ hon hcaptures
  | cons x ahead ih =>
    have hhere := hk _ _ _ hon hcaptures
    have hthere := ih _ _ hon.pass
    by_cases hx : x = '\n'
    · subst hx
      have hmid := rel_many_midBreak hp hy hon hthere
      simp only [Cursor.withReturns, Text.withReturns_newline] at hhere ⊢
      rw [run_many_cons hp.1, run_many_cons hp.2]
      exact rel_or hmid hhere
    · simp only [Cursor.withReturns, Text.withReturns_cons hx,
        Text.withReturnsBehind_cons hx, List.length_cons] at hhere hthere ⊢
      by_cases hpx : p x = true
      · rw [run_many_cons hpx, run_many_cons hpx]
        exact rel_or hthere hhere
      · rw [run_many_stop (by simpa using hpx), run_many_stop (by simpa using hpx)]
        exact hhere

theorem Alike.leads_many (hp : Amid p) (hk : Alike t C R k k') (hy : Yields t k k') :
    Leads t C R (fun s => run (many p) s k) (fun s => run (many p) s k') :=
  fun _ _ _ _ _ hon hcaptures =>
    rel_many_midBreak hp hy hon (hk.many_amid hp hy _ _ _ hon.pass hcaptures)

/-- One character of a class that has both characters of a line break. -/
theorem Alike.one_amid (hp : Amid p) (hk : Alike t C R k k') (hl : Leads t C R k k') :
    Alike t C R (fun s => run (one p) s k) (fun s => run (one p) s k') := by
  rintro ⟨before, ahead, n⟩ captures captures' hon hcaptures
  cases ahead with
  | nil => exact .none
  | cons x ahead =>
    by_cases hx : x = '\n'
    · subst hx
      simp only [Cursor.withReturns, Text.withReturns_newline, run_one_cons, hp.1, hp.2, if_true]
      exact hl _ _ _ _ _ hon hcaptures
    · have hthere := hk _ _ _ hon.pass hcaptures
      simp only [Cursor.withReturns, Text.withReturns_cons hx,
        Text.withReturnsBehind_cons hx, List.length_cons, run_one_cons] at hthere ⊢
      split
      · exact hthere
      · exact .none

theorem Alike.many1_amid (hp : Amid p) (hk : Alike t C R k k') (hy : Yields t k k') :
    Alike t C R (fun s => run (many1 p) s k) (fun s => run (many1 p) s k') :=
  (hk.many_amid hp hy).one_amid hp (hk.leads_many hp hy)

theorem Turns.many_amid (hp : Amid p) : Turns t true false (.many p) where
  alike _ hk hr := hk.many_amid hp (hr rfl).yields
  refuses h := nomatch h

theorem Turns.many1_amid (hp : Amid p) : Turns t true false (.many1 p) where
  alike _ hk hr := hk.many1_amid hp (hr rfl).yields
  refuses h := nomatch h

/-- A lazy repetition from inside a line break goes on behind the line feed. -/
theorem run_few_midBreak (hp : Amid p) (hr : Refuses t k')
    (hon : Cursor.On t ⟨before, '\n' :: ahead, n⟩) :
    run (few p stop) ⟨.midBreak before ahead, captures'⟩ k' =
      run (few p stop) ⟨Cursor.withReturns ⟨'\n' :: before, ahead, n + 1⟩, captures'⟩ k' := by
  have hmid := hr _ _ _ captures' hon
  rw [Cursor.midBreak] at hmid ⊢
  rw [run_few_cons, hmid, hp.2]
  simp [Cursor.withReturns]

theorem Alike.few_amid (hp : Amid p) (hstop : stop '\r' = stop '\n') (hk : Alike t C R k k')
    (hr : Refuses t k') :
    Alike t C R (fun s => run (few p stop) s k) (fun s => run (few p stop) s k') := by
  rintro ⟨before, ahead, n⟩ captures captures' hon hcaptures
  induction ahead generalizing before n with
  | nil => exact hk _ _ _ hon hcaptures
  | cons x ahead ih =>
    have hhere := hk _ _ _ hon hcaptures
    have hthere := ih _ _ hon.pass
    by_cases hx : x = '\n'
    · subst hx
      simp only [← run_few_midBreak hp hr hon] at hthere
      simp only [Cursor.withReturns, Text.withReturns_newline] at hhere ⊢
      rw [run_few_cons p stop '\n', run_few_cons p stop '\r', hp.1, hp.2, hstop, if_pos rfl,
        if_pos rfl]
      refine rel_or ?_ hthere
      split
      · exact hhere
      · exact .none
    · simp only [Cursor.withReturns, Text.withReturns_cons hx,
        Text.withReturnsBehind_cons hx, List.length_cons, run_few_cons] at hhere hthere ⊢
      refine rel_or ?_ ?_
      · split
        · exact hhere
        · exact .none
      · split
        · exact hthere
        · exact .none

theorem Alike.leads_few (hp : Amid p) (hstop : stop '\r' = stop '\n') (hk : Alike t C R k k')
    (hr : Refuses t k') :
    Leads t C R (fun s => run (few p stop) s k) (fun s => run (few p stop) s k') := by
  intro before ahead n captures captures' hon hcaptures
  simp only [run_few_midBreak hp hr hon]
  exact hk.few_amid hp hstop hr _ _ _ hon.pass hcaptures

theorem Turns.few1To_amid (hp : Amid p) (hstop : stop '\r' = stop '\n') :
    Turns t true false (.few1To stop p) where
  alike _ hk hr := (hk.few_amid hp hstop (hr rfl)).one_amid hp (hk.leads_few hp hstop (hr rfl))
  refuses h := nomatch h

end

-- -------------------------------------
-- Rounds
-- -------------------------------------

/-- Rounds stay in step, given at least as many of them as there are characters ahead. -/
theorem rel_greedyRounds (ha : Turns t false false a) (hC : Extensible t C)
    (hk : Alike t C R k k') {rounds rounds' : Text} {c : Cursor}
    {captures captures' : List Capture} (hon : c.On t) (hcaptures : C captures captures')
    (hahead : c.ahead.length ≤ rounds.length) (hrounds : rounds.length ≤ rounds'.length) :
    Option.Rel R (greedyRounds (run a) rounds ⟨c, captures⟩ k)
      (greedyRounds (run a) rounds' ⟨c.withReturns, captures'⟩ k') := by
  have hend := hon.position_add
  induction rounds generalizing rounds' c captures captures' with
  | nil =>
    cases rounds' with
    | nil => exact hk c _ _ hon hcaptures
    | cons x rounds' =>
      -- at the end of the text no further round can consume anything
      have hround : Option.Rel R (run a ⟨c, captures⟩ fun _ => none)
          (run a ⟨c.withReturns, captures'⟩ fun s' =>
            if c.withReturns.position < s'.cursor.position
            then greedyRounds (run a) rounds' s' k' else none) := by
        refine ha.alike hC ?_ nofun c _ _ hon hcaptures
        intro d _ _ hd _
        have hd' := hd.position_add
        have hzero : c.ahead.length = 0 := Nat.le_zero.mp hahead
        simp only [Cursor.withReturns_position_lt_iff hon hd]
        rw [if_neg (by omega)]
        exact .none
      rw [run_none] at hround
      rw [greedyRounds_cons]
      exact rel_or hround (hk c _ _ hon hcaptures)
  | cons x rounds ih =>
    cases rounds' with
    | nil => simp at hrounds
    | cons x' rounds' =>
      rw [greedyRounds_cons, greedyRounds_cons]
      refine rel_or ?_ (hk c _ _ hon hcaptures)
      refine ha.alike hC ?_ nofun c _ _ hon hcaptures
      intro d added added' hd hadded
      have hd' := hd.position_add
      simp only [List.length_cons, Nat.add_le_add_iff_right] at hahead hrounds
      simp only [Cursor.withReturns_position_lt_iff hon hd]
      split
      · exact ih hd hadded (by omega) hrounds hd'
      · exact .none

theorem Turns.star (ha : Turns t false false a) : Turns t false false (.star a) where
  alike hC hk _ _ _ _ hon hcaptures :=
    rel_greedyRounds ha hC hk hon hcaptures (Nat.le_refl _) (Text.length_le_withReturns _)
  refuses h := nomatch h

-- -------------------------------------
-- Matches
-- -------------------------------------

/-- Twin matches: they start at twin places, and what they found is in the relation `R`. -/
structure TwinMatch (t : Text) (R : State → State → Prop) (m m' : Match) : Prop where
  on : m.first.On t
  first : m'.first = m.first.withReturns
  found : R ⟨m.last, m.captures⟩ ⟨m'.last, m'.captures⟩

/-- Where twin matches end: at twin places, or the second one a carriage return later, in front of
a line feed at which no match starts. -/
inductive TwinEnds (t : Text) (p : Pattern) : (c c' : Cursor) → Prop where
  | twin {c : Cursor} : c.On t → TwinEnds t p c c.withReturns
  | late {before ahead : Text} {n : Nat} : Cursor.On t ⟨before, '\n' :: ahead, n⟩ →
      p.matchAt? ⟨before, '\n' :: ahead, n⟩ = none →
      TwinEnds t p ⟨before, '\n' :: ahead, n⟩ (.midBreak before ahead)

/-- Where searches go on after twin matches. -/
inductive Abreast (t : Text) (p : Pattern) : (c c' : Cursor) → Prop where
  | ends {c c' : Cursor} : TwinEnds t p c c' → Abreast t p c c'
  | behind {before ahead : Text} {n : Nat} : Cursor.On t ⟨before, '\n' :: ahead, n⟩ →
      Abreast t p ⟨'\n' :: before, ahead, n + 1⟩ (.midBreak before ahead)

section

variable {p : Pattern} {c c' : Cursor}
  (hp : Alike t C R (fun s => run p s some) (fun s => run p s some)) (hC : C [] [])
  (hrefuses : Refuses t fun s => run p s some)

include hp hC in
theorem matchAt?_alike (hon : c.On t) :
    Option.Rel (TwinMatch t R) (p.matchAt? c) (p.matchAt? c.withReturns) :=
  rel_map (hp c _ _ hon hC) fun _ _ h => ⟨hon, rfl, h⟩

include hrefuses in
theorem searchAt?_midBreak (hon : Cursor.On t ⟨before, '\n' :: ahead, n⟩) :
    p.searchAt? (.midBreak before ahead) =
      p.searchAt? (Cursor.withReturns ⟨'\n' :: before, ahead, n + 1⟩) := by
  have hnone : p.matchAt? (.midBreak before ahead) = none := by
    simpa [matchAt?] using hrefuses _ _ _ [] hon
  rw [Cursor.midBreak] at hnone ⊢
  rw [searchAt?_cons, hnone]
  rfl

include hp hC hrefuses in
theorem searchAt?_alike (hon : c.On t) :
    Option.Rel (TwinMatch t R) (p.searchAt? c) (p.searchAt? c.withReturns) := by
  obtain ⟨before, ahead, n⟩ := c
  induction ahead generalizing before n with
  | nil => exact matchAt?_alike hp hC hon
  | cons x ahead ih =>
    have hhere := matchAt?_alike hp hC hon
    have hthere := ih _ _ hon.pass
    by_cases hx : x = '\n'
    · subst hx
      rw [← searchAt?_midBreak hrefuses hon] at hthere
      simp only [Cursor.withReturns, Text.withReturns_newline] at hhere ⊢
      rw [searchAt?_cons, searchAt?_cons p '\r']
      exact rel_or hhere hthere
    · simp only [Cursor.withReturns, Text.withReturns_cons hx,
        Text.withReturnsBehind_cons hx, List.length_cons] at hhere hthere ⊢
      rw [searchAt?_cons, searchAt?_cons]
      exact rel_or hhere hthere

include hp hC hrefuses in
/-- Searches that go on abreast find twin matches. -/
theorem Abreast.searchAt? (h : Abreast t p c c') :
    Option.Rel (TwinMatch t R) (p.searchAt? c) (p.searchAt? c') := by
  cases h with
  | ends h =>
    cases h with
    | twin hon => exact searchAt?_alike hp hC hrefuses hon
    | late hon hnone =>
      rw [searchAt?_midBreak hrefuses hon, searchAt?_cons, hnone]
      exact searchAt?_alike hp hC hrefuses hon.pass
  | behind hon =>
    rw [searchAt?_midBreak hrefuses hon]
    exact searchAt?_alike hp hC hrefuses hon.pass

/-- After twin matches the searches go on abreast. -/
theorem TwinMatch.resume? {m m' : Match} (h : TwinMatch t R m m')
    (hends : TwinEnds t p m.last m'.last) :
    Option.Rel (Abreast t p) (resume? m) (resume? m') := by
  unfold Pattern.resume?
  rw [h.first]
  revert hends
  generalize m.last = last, m'.last = last'
  intro hends
  cases hends with
  | twin hon =>
    simp only [Cursor.withReturns_position_lt_iff h.on hon]
    split
    · exact .some (.ends (.twin hon))
    · obtain ⟨before, ahead, n⟩ := last
      cases ahead with
      | nil => exact .none
      | cons x ahead =>
        by_cases hx : x = '\n'
        · subst hx
          exact .some (.behind hon)
        · have hends : TwinEnds t p _ _ := .twin hon.pass
          simp only [Cursor.withReturns, Text.withReturnsBehind_cons hx] at hends
          simp only [Cursor.next?, Cursor.withReturns, Text.withReturns_cons hx]
          exact .some (.ends hends)
  | @late before ahead n hon hnone =>
    have hlt := Cursor.withReturns_position_lt_iff h.on hon
    have hmid : (Cursor.midBreak before ahead).position =
        (Cursor.withReturns ⟨before, '\n' :: ahead, n⟩).position + 1 := rfl
    split
    · rename_i hfirst
      rw [if_pos (by have := hlt.mpr hfirst; omega)]
      exact .some (.ends (.late hon hnone))
    · split
      · exact .some (.behind hon)
      · exact .some (.ends (.twin hon.pass))

include hp hC hrefuses in
theorem matchesFrom_alike (hends : ∀ s s', R s s' → TwinEnds t p s.cursor s'.cursor)
    {limit limit' : Nat} (hc : c.On t) (hc' : Abreast t p c c') (hlimit : c.ahead.length < limit)
    (hlimit' : limit ≤ limit') :
    List.Forall₂ (TwinMatch t R) (p.matchesFrom limit c []) (p.matchesFrom limit' c' []) := by
  induction limit generalizing limit' c c' with
  | zero => omega
  | succ limit ih =>
    obtain ⟨limit', rfl⟩ : ∃ n, limit' = n + 1 := ⟨limit' - 1, by omega⟩
    rcases rel_cases (hc'.searchAt? hp hC hrefuses) with ⟨hm, hm'⟩ | ⟨m, m', hm, hm', htwin⟩
    · rw [matchesFrom_none hm, matchesFrom_none hm']
      exact .nil
    rw [matchesFrom_some hm, matchesFrom_some hm']
    rcases rel_cases (htwin.resume? (hends _ _ htwin.found)) with
      ⟨hd, hd'⟩ | ⟨d, d', hd, hd', habreast⟩
    · rw [hd, hd']
      exact .cons htwin .nil
    · obtain ⟨hon, hlt⟩ := resume?_lt hc hm hd
      have hc := hc.position_add
      have hahead := hon.position_add
      rw [hd, hd', Option.elim_some, Option.elim_some, matchesFrom_eq, matchesFrom_eq p limit']
      exact .cons htwin (ih hon habreast (by omega) (by omega))

include hp hC hrefuses in
/-- A pattern whose runs stay in step has twin matches. -/
theorem findAll_alike (hends : ∀ s s', R s s' → TwinEnds t p s.cursor s'.cursor) :
    List.Forall₂ (TwinMatch t R) (p.findAll t) (p.findAll (Text.withReturns t)) :=
  matchesFrom_alike hp hC hrefuses hends (Cursor.on_start t)
    (.ends (.twin (Cursor.on_start t))) (Nat.lt_succ_self _)
    (Nat.succ_le_succ (Text.length_le_withReturns t))

end

-- -------------------------------------
-- Captures
-- -------------------------------------

/-- Captures of the same name whose texts differ in the carriage returns only. -/
def TwinCapture (a a' : Capture) : Prop := a'.name = a.name ∧ a'.text = Text.withReturns a.text

theorem extensible_twinCapture (t : Text) : Extensible t (List.Forall₂ TwinCapture) :=
  fun _ _ _ _ _ hc hd h => .cons ⟨rfl, Cursor.take_withReturns hc hd⟩ h

theorem extensible_any (t : Text) : Extensible t fun _ _ => True :=
  fun _ _ _ _ _ _ _ _ => trivial

/-- Success and failure alone, whatever was captured. -/
abbrev AlikeAny (t : Text) (k k' : Rest) : Prop := Alike t (fun _ _ => True) (fun _ _ => True) k k'

theorem alikeAny_some (t : Text) : AlikeAny t some some := fun _ _ _ _ _ => .some trivial

theorem Turns.alikeAny {p : Pattern} (hp : Turns t false gives p) (hk : AlikeAny t k k') :
    AlikeAny t (fun s => run p s k) fun s => run p s k' :=
  hp.alike (extensible_any t) hk nofun

theorem Alike.none {c : Cursor} {captures captures' : List Capture} (h : AlikeAny t k k')
    (hon : c.On t) (hk : k ⟨c, captures⟩ = none) : k' ⟨c.withReturns, captures'⟩ = none := by
  rcases rel_cases (h c captures captures' hon trivial) with ⟨-, hk'⟩ | ⟨s, s', hs, -⟩
  · exact hk'
  · rw [hk] at hs
    cases hs

/-- Twin results: at twin places and with twin captures. -/
structure TwinState (t : Text) (s s' : State) : Prop where
  on : s.cursor.On t
  cursor : s'.cursor = s.cursor.withReturns
  captures : List.Forall₂ TwinCapture s.captures s'.captures

theorem alike_twinState (t : Text) :
    Alike t (List.Forall₂ TwinCapture) (TwinState t) some some :=
  fun _ _ _ hon hcaptures => .some ⟨hon, rfl, hcaptures⟩

theorem findAll_twinState {p : Pattern}
    (hp : Alike t (List.Forall₂ TwinCapture) (TwinState t) (fun s => run p s some)
      fun s => run p s some)
    (hrefuses : Refuses t fun s => run p s some) :
    List.Forall₂ (TwinMatch t (TwinState t)) (p.findAll t) (p.findAll (Text.withReturns t)) := by
  refine findAll_alike hp .nil hrefuses ?_
  rintro s s' ⟨hon, hcursor, -⟩
  rw [hcursor]
  exact .twin hon

theorem Turns.findAll {p : Pattern} (hp : Turns t false true p) :
    List.Forall₂ (TwinMatch t (TwinState t)) (p.findAll t) (p.findAll (Text.withReturns t)) :=
  findAll_twinState (hp.alike (extensible_twinCapture t) (alike_twinState t) nofun)
    (hp.refuses rfl nofun)

theorem get?_twin {captures captures' : List Capture} {name : String}
    (h : List.Forall₂ TwinCapture captures captures') :
    (captures'.find? (·.name == name)).map Capture.text =
      ((captures.find? (·.name == name)).map Capture.text).map Text.withReturns := by
  induction h with
  | nil => rfl
  | cons hhead _ ih =>
    simp only [List.find?_cons, hhead.1]
    split
    · simp [hhead.2]
    · exact ih

end Pattern

end RepoAtlas
