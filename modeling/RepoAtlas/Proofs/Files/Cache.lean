import RepoAtlas.Files.Cache

/-!
# What a cache knows

A cache that was filled from a file system has the text of each file that was asked for.
-/

namespace RepoAtlas.Cache

variable {read : Path → Except FileError Text}

/-- The text of a file; one that cannot be read is empty. -/
def textOf (read : Path → Except FileError Text) (p : Path) : Text :=
  match read p with
  | .ok t => t
  | .error _ => []

theorem contains_eq (cache : Cache) (p : Path) : cache.contains p = (cache.find? p).isSome := by
  simp [contains, find?]

@[simp] theorem find?_empty (p : Path) : ({} : Cache).find? p = none := by
  simp [find?]

theorem get_fst (cache : Cache) (p : Path) :
    (cache.get read p).1 = (cache.find? p).getD (textOf read p) := by
  unfold get find? textOf
  split
  · simp [*]
  · cases hr : read p <;> simp [*]

theorem size_get (cache : Cache) (p : Path) :
    (cache.get read p).2.size = if cache.contains p then cache.size else cache.size + 1 := by
  unfold get contains size
  split
  · rename_i t hsome
    have hold : cache.texts.contains p = true := by
      rw [← Std.HashMap.isSome_getElem?_eq_contains, hsome]
      rfl
    rw [if_pos hold]
  · rename_i hnone
    have hnew : p ∉ cache.texts := by simpa using hnone
    simp [Std.HashMap.size_insert, hnew]

theorem find?_get (cache : Cache) (p q : Path) :
    (cache.get read p).2.find? q =
      (cache.find? q).or (if q = p then some (textOf read q) else none) := by
  unfold get find?
  split
  · rename_i t hp
    by_cases hq : q = p
    · simp [hq, hp]
    · simp [hq]
  · rename_i hp
    by_cases hq : q = p
    · subst hq
      cases hr : read q <;> simp [hp, hr, textOf]
    · simp [Std.HashMap.getElem?_insert, hq, Ne.symm hq]

/-- Texts that are known stay, and the others are read. -/
theorem find?_getAll (cache : Cache) (ps : List Path) (q : Path) :
    (cache.getAll read ps).find? q =
      (cache.find? q).or (if q ∈ ps then some (textOf read q) else none) := by
  induction ps generalizing cache with
  | nil => simp [getAll]
  | cons p ps ih =>
    have hstep : cache.getAll read (p :: ps) = (cache.get read p).2.getAll read ps := rfl
    rw [hstep, ih, find?_get, Option.or_assoc]
    by_cases hp : q = p <;> by_cases hq : q ∈ ps <;> simp [hp, hq]

theorem find?_getAll_empty {ps : List Path} {p : Path} (hp : p ∈ ps) :
    (({} : Cache).getAll read ps).find? p = some (textOf read p) := by
  simp [find?_getAll, hp]

end RepoAtlas.Cache
