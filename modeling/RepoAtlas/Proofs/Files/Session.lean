import Mathlib.Data.List.Induction
import RepoAtlas.Files.Session
import RepoAtlas.Proofs.Files.Cache
import RepoAtlas.Proofs.Grouping

/-!
# A cache shows files as they were first asked for

What a cache answers is told by the steps taken so far, without a cache: a path that was asked for
since the last clearing has the text that its file had the first time, and the others are not held.
`Session.run_answers`: this is so at every step of every session, however files change in between.
Paths with a null character are refused, and leave no trace.
-/

namespace RepoAtlas.Session

-- -------------------------------------
-- Histories
-- -------------------------------------

def Step.isClear : Step → Bool
  | .clear => true
  | _ => false

/-- What a step does to the file system. -/
def Step.applyTo (files : Entry) : Step → Entry
  | .change c => (c.run.run files).2
  | _ => files

/-- The path that a step asks for, unless it is refused. -/
def Step.asked? : Step → Option Path
  | .get p => if p.hasNull then none else some p
  | _ => none

def filesAfter (start : Entry) (steps : List Step) : Entry := steps.foldl Step.applyTo start

/-- The steps since the cache was last cleared. -/
def sinceClear (steps : List Step) : List Step := (steps.reverse.takeWhile (!·.isClear)).reverse

/-- The paths that were asked for since the cache was last cleared. -/
def askedPaths (steps : List Step) : List Path := (sinceClear steps).filterMap Step.asked?

/-- Since the cache was last cleared, a path was asked for first after the steps `earlier`. -/
structure FirstAsked (steps : List Step) (p : Path) (earlier : List Step) : Prop where
  split : ∃ later, steps = earlier ++ .get p :: later ∧ .clear ∉ later
  first : .get p ∉ sinceClear earlier

variable {start : Entry} {steps earlier : List Step} {p : Path} {x : Step} {s : Session}
  {answer : Answer}

theorem filesAfter_concat (start : Entry) (steps : List Step) (x : Step) :
    filesAfter start (steps ++ [x]) = x.applyTo (filesAfter start steps) := List.foldl_concat ..

theorem sinceClear_concat (steps : List Step) (x : Step) :
    sinceClear (steps ++ [x]) = if x.isClear then [] else sinceClear steps ++ [x] := by
  cases hx : x.isClear <;> simp [sinceClear, hx]

theorem firstAsked_concat : FirstAsked (steps ++ [x]) p earlier ↔
    x ≠ .clear ∧ FirstAsked steps p earlier ∨
      x = .get p ∧ earlier = steps ∧ .get p ∉ sinceClear steps := by
  constructor
  · rintro ⟨⟨later, hsplit, hlater⟩, hfirst⟩
    rcases List.eq_nil_or_concat later with rfl | ⟨front, y, rfl⟩
    · obtain ⟨rfl, hx⟩ := List.append_inj' hsplit rfl
      cases hx
      exact .inr ⟨rfl, rfl, hfirst⟩
    · rw [List.concat_eq_append, ← List.cons_append, ← List.append_assoc] at hsplit
      obtain ⟨rfl, hx⟩ := List.append_inj' hsplit rfl
      cases hx
      rw [List.concat_eq_append, List.mem_append, List.mem_singleton, not_or] at hlater
      exact .inl ⟨Ne.symm hlater.2, ⟨front, rfl, hlater.1⟩, hfirst⟩
  · rintro (⟨hx, ⟨later, rfl, hlater⟩, hfirst⟩ | ⟨rfl, rfl, hfirst⟩)
    · refine ⟨⟨later ++ [x], by simp, ?_⟩, hfirst⟩
      rw [List.mem_append, List.mem_singleton, not_or]
      exact ⟨hlater, Ne.symm hx⟩
    · exact ⟨⟨[], rfl, List.not_mem_nil⟩, hfirst⟩

theorem not_firstAsked_nil : ¬FirstAsked [] p earlier := by
  rintro ⟨⟨later, hsplit, -⟩, -⟩
  simp at hsplit

theorem isClear_iff : x.isClear = true ↔ x = .clear := by
  cases x <;> simp [Step.isClear]

theorem exists_firstAsked_iff :
    (∃ earlier, FirstAsked steps p earlier) ↔ .get p ∈ sinceClear steps := by
  induction steps using List.reverseRecOn with
  | nil => simp [not_firstAsked_nil, sinceClear]
  | append_singleton steps x ih =>
    simp only [firstAsked_concat, exists_or, exists_and_left, exists_eq_left, ih, sinceClear_concat]
    by_cases hx : x = .clear
    · subst hx
      simp [Step.isClear]
    · have hclear : x.isClear = false := Bool.eq_false_iff.mpr (mt isClear_iff.mp hx)
      by_cases hget : .get p ∈ sinceClear steps <;> simp [hx, hclear, hget, eq_comm]

theorem FirstAsked.unique {other : List Step} (h : FirstAsked steps p earlier)
    (h' : FirstAsked steps p other) : earlier = other := by
  induction steps using List.reverseRecOn with
  | nil => exact absurd h not_firstAsked_nil
  | append_singleton steps x ih =>
    rw [firstAsked_concat] at h h'
    rcases h with ⟨-, h⟩ | ⟨-, rfl, hnew⟩
    · rcases h' with ⟨-, h'⟩ | ⟨-, -, hnew⟩
      · exact ih h h'
      · exact absurd (exists_firstAsked_iff.mp ⟨_, h⟩) hnew
    · rcases h' with ⟨-, h'⟩ | ⟨-, rfl, -⟩
      · exact absurd (exists_firstAsked_iff.mp ⟨_, h'⟩) hnew
      · rfl

theorem askedPaths_concat (hx : x ≠ .clear) :
    askedPaths (steps ++ [x]) = askedPaths steps ++ x.asked?.toList := by
  rw [askedPaths, sinceClear_concat, if_neg (mt isClear_iff.mp hx), List.filterMap_append]
  cases hasked : x.asked? <;> simp [askedPaths, hasked]

theorem mem_askedPaths : p ∈ askedPaths steps ↔ p.hasNull = false ∧ .get p ∈ sinceClear steps := by
  simp only [askedPaths, List.mem_filterMap]
  constructor
  · rintro ⟨x, hx, hp⟩
    cases x with
    | get q =>
      simp only [Step.asked?] at hp
      split at hp
      · cases hp
      · rename_i hnull
        cases hp
        exact ⟨by simpa using hnull, hx⟩
    | _ => cases hp
  · rintro ⟨hnull, hmem⟩
    exact ⟨_, hmem, by simp [Step.asked?, hnull]⟩

-- -------------------------------------
-- What the answers should be
-- -------------------------------------

/-- The answer to a step that is told by the steps before it. -/
inductive Answers (start : Entry) (steps : List Step) : Step → Answer → Prop
  | change (c : Change Unit) :
    Answers start steps (.change c) (.changed (c.run.run (filesAfter start steps)).1)
  /-- The text is that of the first time the path was asked for, empty if it could not be read. -/
  | get {p : Path} {earlier : List Step} (hnull : p.hasNull = false)
    (hfirst : FirstAsked (steps ++ [.get p]) p earlier) :
    Answers start steps (.get p) (.text (.ok (Cache.textOf (filesAfter start earlier).readText p)))
  | refused {p : Path} (hnull : p.hasNull = true) :
    Answers start steps (.get p) (.text (.error .nullCharacter))
  | clear : Answers start steps .clear .cleared
  | held {p : Path} (h : p.hasNull = false ∧ .get p ∈ sinceClear steps) :
    Answers start steps (.contains p) (.held true)
  | notHeld {p : Path} (h : ¬(p.hasNull = false ∧ .get p ∈ sinceClear steps)) :
    Answers start steps (.contains p) (.held false)
  /-- The number of different paths that were asked for. -/
  | size : Answers start steps .size (.count (askedPaths steps).eraseDups.length)

theorem Answers.unique {other : Answer} (h : Answers start steps x answer)
    (h' : Answers start steps x other) : answer = other := by
  cases h with
  | change c => cases h'; rfl
  | get hnull hfirst =>
    cases h' with
    | get hnull' hfirst' => rw [hfirst.unique hfirst']
    | refused hnull' => simp [hnull] at hnull'
  | refused hnull =>
    cases h' with
    | get hnull' hfirst' => simp [hnull] at hnull'
    | refused hnull' => rfl
  | clear => cases h'; rfl
  | held h =>
    cases h' with
    | held h' => rfl
    | notHeld h' => exact absurd h h'
  | notHeld h =>
    cases h' with
    | held h' => exact absurd h' h
    | notHeld h' => rfl
  | size => cases h'; rfl

-- -------------------------------------
-- One step
-- -------------------------------------

/-- The state of a session agrees with the steps that were taken. -/
structure Follows (start : Entry) (steps : List Step) (s : Session) : Prop where
  files : s.files = filesAfter start steps
  known : ∀ p t, s.cache.find? p = some t ↔ p.hasNull = false ∧
    ∃ earlier, FirstAsked steps p earlier ∧ t = Cache.textOf (filesAfter start earlier).readText p
  size : s.cache.size = (askedPaths steps).eraseDups.length

theorem follows_start (start : Entry) : Follows start [] ⟨start, {}⟩ where
  files := rfl
  known p t := by simp [not_firstAsked_nil]
  size := by simp [askedPaths, sinceClear, Cache.size]

theorem Follows.contains_iff (h : Follows start steps s) :
    s.cache.contains p = true ↔ p.hasNull = false ∧ .get p ∈ sinceClear steps := by
  rw [Cache.contains_eq, Option.isSome_iff_exists, ← exists_firstAsked_iff]
  simp only [h.known, exists_and_left]
  refine and_congr_right fun _ => ⟨?_, ?_⟩
  · rintro ⟨t, earlier, hfirst, -⟩
    exact ⟨earlier, hfirst⟩
  · rintro ⟨earlier, hfirst⟩
    exact ⟨_, earlier, hfirst, rfl⟩

/-- A step that is no clearing and asks for nothing leaves what is known. -/
theorem Follows.idle (h : Follows start steps s) (hclear : x ≠ .clear) (hget : ∀ p, x ≠ .get p) :
    Follows start (steps ++ [x]) ⟨x.applyTo s.files, s.cache⟩ where
  files := by rw [filesAfter_concat, h.files]
  known p t := by simp [firstAsked_concat, hclear, hget p, h.known]
  size := by
    have hasked : x.asked? = none := by
      cases x with
      | get p => exact absurd rfl (hget p)
      | _ => rfl
    simpa [askedPaths_concat hclear, hasked] using h.size

theorem Follows.clear (h : Follows start steps s) :
    Follows start (steps ++ [.clear]) ⟨s.files, s.cache.clear⟩ where
  files := by rw [filesAfter_concat, h.files]; rfl
  known p t := by simp [firstAsked_concat, Cache.clear]
  size := by simp [askedPaths, sinceClear_concat, Step.isClear, Cache.clear, Cache.size]

theorem Follows.refuse (h : Follows start steps s) (hnull : p.hasNull = true) :
    Follows start (steps ++ [.get p]) s where
  files := by rw [filesAfter_concat, h.files]; rfl
  known q t := by
    rw [h.known]
    refine and_congr_right fun hq => ?_
    have hne : Step.get p ≠ .get q := by
      rintro heq
      cases heq
      simp [hnull] at hq
    simp [firstAsked_concat, hne]
  size := by simpa [askedPaths_concat, Step.asked?, hnull] using h.size

/-- A path that is asked for is held from then on, with its text of now if it is new. -/
theorem Follows.get (h : Follows start steps s) (hnull : p.hasNull = false) :
    Follows start (steps ++ [.get p]) ⟨s.files, (s.cache.get s.files.readText p).2⟩ where
  files := by rw [filesAfter_concat, h.files]; rfl
  known q t := by
    rw [Cache.find?_get, Option.or_eq_some_iff, h.known]
    by_cases hq : q = p
    · subst hq
      have hnew : s.cache.find? q = none ↔ .get q ∉ sinceClear steps := by
        rw [← Option.not_isSome_iff_eq_none, ← Cache.contains_eq, h.contains_iff]
        simp [hnull]
      simp only [firstAsked_concat, hnew, hnull, if_true, Option.some.injEq, true_and]
      constructor
      · rintro (⟨earlier, hfirst, ht⟩ | ⟨hnot, rfl⟩)
        · exact ⟨earlier, .inl ⟨by simp, hfirst⟩, ht⟩
        · exact ⟨steps, .inr ⟨rfl, hnot⟩, by rw [h.files]⟩
      · rintro ⟨earlier, ⟨-, hfirst⟩ | ⟨rfl, hnot⟩, ht⟩
        · exact .inl ⟨earlier, hfirst, ht⟩
        · exact .inr ⟨hnot, by rw [ht, h.files]⟩
    · simp [firstAsked_concat, hq, Ne.symm hq]
  size := by
    have hasked : askedPaths (steps ++ [.get p]) = askedPaths steps ++ [p] := by
      simp [askedPaths_concat, Step.asked?, hnull]
    have hheld : s.cache.contains p = true ↔ p ∈ askedPaths steps :=
      h.contains_iff.trans mem_askedPaths.symm
    rw [Cache.size_get, h.size, hasked, Grouping.eraseDups_concat]
    by_cases hp : p ∈ askedPaths steps <;> simp [hheld, hp]

/-- A step gives the answer that it should, and keeps the session in agreement. -/
theorem Follows.step (h : Follows start steps s) (x : Step) :
    Follows start (steps ++ [x]) (s.step x).1 ∧ Answers start steps x (s.step x).2 := by
  cases x with
  | change c =>
    refine ⟨h.idle (by simp) (by simp), ?_⟩
    have hanswer : (s.step (.change c)).2 = .changed (c.run.run s.files).1 := rfl
    rw [hanswer, h.files]
    exact .change c
  | get p =>
    cases hnull : p.hasNull with
    | false =>
      have hstep : s.step (.get p) = (⟨s.files, (s.cache.get s.files.readText p).2⟩,
          .text (.ok (s.cache.get s.files.readText p).1)) := by
        simp [Session.step, Cache.fetch, hnull]
      have hafter := h.get hnull
      rw [hstep]
      refine ⟨hafter, ?_⟩
      -- What the cache holds afterwards is what it answers.
      have hheld : (s.cache.get s.files.readText p).2.find? p =
          some (s.cache.get s.files.readText p).1 := by
        rw [Cache.find?_get, Cache.get_fst]
        cases s.cache.find? p <;> simp
      obtain ⟨-, earlier, hfirst, htext⟩ := (hafter.known p _).mp hheld
      rw [htext]
      exact .get hnull hfirst
    | true =>
      have hnew : s.cache.contains p = false := by
        simp [← Bool.not_eq_true, h.contains_iff, hnull]
      have hstep : s.step (.get p) = (s, .text (.error .nullCharacter)) := by
        simp [Session.step, Cache.fetch, hnull, hnew]
      rw [hstep]
      exact ⟨h.refuse hnull, .refused hnull⟩
  | clear => exact ⟨h.clear, .clear⟩
  | contains p =>
    refine ⟨h.idle (by simp) (by simp), ?_⟩
    have hanswer : (s.step (.contains p)).2 = .held (s.cache.contains p) := rfl
    rw [hanswer]
    cases hheld : s.cache.contains p with
    | true => exact .held (h.contains_iff.mp hheld)
    | false => exact .notHeld (by simp [← h.contains_iff, hheld])
  | size =>
    refine ⟨h.idle (by simp) (by simp), ?_⟩
    have hanswer : (s.step .size).2 = .count s.cache.size := rfl
    rw [hanswer, h.size]
    exact .size

-- -------------------------------------
-- Runs
-- -------------------------------------

theorem run_append (s : Session) (first second : List Step) :
    s.run (first ++ second) = (((s.run first).1.run second).1,
      (s.run first).2 ++ ((s.run first).1.run second).2) := by
  induction first generalizing s with
  | nil => rfl
  | cons x first ih => simp [run, ih]

theorem length_run (s : Session) (steps : List Step) : (s.run steps).2.length = steps.length := by
  induction steps generalizing s with
  | nil => rfl
  | cons x steps ih => simp [run, ih]

theorem follows_run (start : Entry) (steps : List Step) :
    Follows start steps (run ⟨start, {}⟩ steps).1 := by
  induction steps using List.reverseRecOn with
  | nil => exact follows_start start
  | append_singleton steps x ih =>
    rw [run_append]
    exact (ih.step x).1

/-- Each step of a session has one answer that it should have, and gives it. -/
theorem run_answers (start : Entry) (before : List Step) (x : Step) (after : List Step) :
    ∃ answer, (run ⟨start, {}⟩ (before ++ x :: after)).2[before.length]? = some answer ∧
      ∀ other, Answers start before x other ↔ other = answer := by
  have hanswer := ((follows_run start before).step x).2
  refine ⟨_, ?_, fun other => ⟨fun h => h.unique hanswer, fun h => h ▸ hanswer⟩⟩
  rw [run_append, List.getElem?_append_right (Nat.le_of_eq (length_run ..)), length_run,
    Nat.sub_self]
  rfl

/-- A path with a null character is not read as empty: it is refused, and not held afterwards. -/
theorem run_null_character :
    (run ⟨.folder [], {}⟩ [.get ['a', '\x00'], .contains ['a', '\x00'], .size]).2 =
      [.text (.error .nullCharacter), .held false, .count 0] := by
  simp [run, step, Cache.fetch, Cache.contains, Cache.size, Path.hasNull]

end RepoAtlas.Session
