import RepoAtlas.Files.Resolve
import RepoAtlas.Proofs.Path

/-!
# Resolved paths are absolute

`Entry.resolve_absolute`: a path that is resolved starts with a slash, also where a circle of links
keeps a part of it from being followed.
-/

namespace RepoAtlas

namespace Path

theorem head?_join {base : Path} (h : base.head? = some '/') (p : Path) :
    (join base p).head? = some '/' := by
  obtain ⟨rest, rfl⟩ := List.head?_eq_some_iff.mp h
  unfold join
  split
  · rfl
  · split
    · rename_i hlast
      exact absurd (List.getLast?_eq_none_iff.mp hlast) (List.cons_ne_nil _ _)
    · split <;> rfl

theorem head?_normalize {p : Path} (h : p.head? = some '/') : (normalize p).head? = some '/' := by
  obtain ⟨rest, rfl⟩ := List.head?_eq_some_iff.mp h
  have hslashes : ∃ more, leadingSlashes ('/' :: rest) = '/' :: more := by
    unfold leadingSlashes
    split
    · exact ⟨_, rfl⟩
    · exact ⟨_, rfl⟩
    · exact ⟨_, rfl⟩
    · rename_i hne
      exact absurd rfl (hne rest)
  obtain ⟨more, hmore⟩ := hslashes
  simp only [normalize, hmore, List.cons_append, List.head?_cons]

end Path

namespace Entry

theorem head?_pathOf (place : List Text) : (pathOf place).head? = some '/' := by
  unfold pathOf
  split
  · rfl
  · rename_i hne
    obtain ⟨front, last, rfl⟩ := (List.eq_nil_or_concat place).resolve_left hne
    simp

/-- What is kept of a path behind a circle is absolute. -/
def Resolved.Absolute : Resolved → Prop
  | .whole _ => True
  | .stuck p => p.head? = some '/'

theorem advance_absolute {top : Entry} {enter : KnownLinks → List Text → Path → Resolution}
    (henter : ∀ {known place target result}, enter known place target = .ok result →
      result.1.Absolute)
    {segments : List Text} (h : advance top enter known place segments = .ok result) :
    result.1.Absolute := by
  induction segments generalizing known place with
  | nil =>
    cases h
    trivial
  | cons segment rest ih =>
    -- Only a link that leads back to itself, here or further on, leaves a path behind.
    unfold advance at h
    split at h
    · exact ih h
    · split at h
      · exact ih h
      · extract_lets next at h
        split at h
        · split at h
          · exact ih h
          · cases h
            exact Path.head?_join (head?_pathOf _) _
          · split at h
            · cases h
            · rename_i hentered
              cases h
              exact Path.head?_join (henter hentered) _
            · exact ih h
        · exact ih h

theorem enter_absolute {top : Entry} {depth : Nat} {p : Path}
    (h : top.enter depth known place p = .ok result) : result.1.Absolute := by
  induction depth generalizing known place p result with
  | zero => cases h
  | succ depth ih => exact advance_absolute ih h

theorem resolve_absolute {top : Entry} {p q : Path} (h : top.resolve p = .ok q) :
    q.head? = some '/' := by
  simp only [resolve, bind, Except.bind] at h
  split at h
  · cases h
  · rename_i result hentered
    obtain ⟨resolved, known⟩ := result
    have habsolute := enter_absolute hentered
    split at h
    · cases h
    · cases h
      cases resolved with
      | whole place => exact head?_pathOf place
      | stuck p => exact Path.head?_normalize habsolute

end Entry

end RepoAtlas
