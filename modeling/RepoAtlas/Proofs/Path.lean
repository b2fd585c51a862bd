import RepoAtlas.Files.Listing
import RepoAtlas.Proofs.Text.Basic

/-!
# Segments of paths

Putting a name below a path adds one segment to it, so a path relative to a root is the list of the
names on the way to it. Different relative paths stay different below a root. An extension belongs to
the last segment.
-/

namespace RepoAtlas

namespace Path

/-- The segments of a path relative to a root, none for the root itself. -/
def parts (p : Path) : List Text := if p.isEmpty then [] else segments p

theorem parts_childPath (p : Path) {name : Text} (hne : name ≠ []) (hslash : '/' ∉ name) :
    parts (childPath p name) = parts p ++ [name] := by
  cases p with
  | nil => simp [parts, childPath, segments, hne, Text.splitOn_of_not_mem hslash]
  | cons c p =>
    have h := Text.splitOn_append '/' (c :: p) name
    simpa [parts, childPath, segments, Text.splitOn_of_not_mem hslash] using h

/-- A path whose first segment is not empty is relative. -/
theorem head?_ne_slash {p : Path} {first : Text} (h : parts p = first :: rest)
    (hne : first ≠ []) : p.head? ≠ some '/' := by
  intro hp
  obtain ⟨p, rfl⟩ := List.head?_eq_some_iff.mp hp
  simp only [parts, segments, Text.splitOn] at h
  simp_all

theorem join_ne_nil (base : Path) {p : Path} (hp : p ≠ []) : join base p ≠ [] := by
  unfold join
  split
  · exact hp
  · split
    · exact hp
    · split <;> simp [hp]

/-- Whatever is joined to a base is put behind the same text. -/
theorem exists_join_eq (base : Path) :
    ∃ front : Path, ∀ {p : Path}, p.head? ≠ some '/' → join base p = front ++ p := by
  cases hlast : base.getLast? with
  | none =>
    refine ⟨[], fun {p} hp => ?_⟩
    unfold join
    split <;> simp_all
  | some c =>
    refine ⟨if c == '/' then base else base ++ ['/'], fun {p} hp => ?_⟩
    unfold join
    split
    · simp at hp
    · simp only [hlast]
      split <;> simp

theorem join_injective (base : Path) {p q : Path} (hp : p.head? ≠ some '/')
    (hq : q.head? ≠ some '/') (h : join base p = join base q) : p = q := by
  obtain ⟨front, hfront⟩ := exists_join_eq base
  rw [hfront hp, hfront hq] at h
  exact List.append_cancel_left h

-- -------------------------------------
-- Names and extensions
-- -------------------------------------

theorem slash_not_mem_name (p : Path) : '/' ∉ name p := by
  rw [name, List.mem_reverse]
  exact Text.not_mem_takeWhile_bne '/' p.reverse

theorem name_suffix (p : Path) : name p <:+ p := by
  have h : p.reverse.takeWhile (· != '/') <+: p.reverse := List.takeWhile_prefix _
  simpa [name] using List.reverse_suffix.mpr h

theorem splitExtension_append (p : Path) :
    (splitExtension p).1 ++ (splitExtension p).2 = p ∧ '/' ∉ (splitExtension p).2 := by
  unfold splitExtension
  extract_lets file
  obtain ⟨folder, hp⟩ : file <:+ p := name_suffix p
  have hslash : '/' ∉ file := slash_not_mem_name p
  cases hcut : Text.cutLast? '.' file with
  | none => simp
  | some parts =>
    obtain ⟨stem, ext⟩ := parts
    obtain ⟨hfile, -⟩ := Text.cutLast?_eq_some hcut
    simp only
    split
    · simp
    · rw [hfile] at hslash hp
      have hstem : p.take (p.length - ext.length - 1) = folder ++ stem := by
        rw [← hp, ← List.append_assoc]
        refine List.take_left' ?_
        simp only [List.length_append, List.length_cons]
        omega
      rw [hstem, List.append_assoc, hp]
      refine ⟨rfl, fun h => hslash ?_⟩
      simp at h ⊢
      exact .inr h

/-- A text without slashes behind a path changes its last segment only. -/
theorem dropLast_segments_append (p : Path) {t : Text} (h : '/' ∉ t) :
    (segments (p ++ t)).dropLast = (segments p).dropLast := by
  induction p with
  | nil => simp [segments, Text.splitOn_of_not_mem h, Text.splitOn]
  | cons c p ih =>
    have hp := Text.splitOn_ne_nil '/' p
    have hpt := Text.splitOn_ne_nil '/' (p ++ t)
    simp only [segments, List.cons_append, Text.splitOn] at ih ⊢
    split
    · rw [List.dropLast_cons_of_ne_nil hpt, List.dropLast_cons_of_ne_nil hp, ih]
    · cases hl : Text.splitOn '/' (p ++ t) with
      | nil => exact absurd hl hpt
      | cons piece pieces =>
        cases hr : Text.splitOn '/' p with
        | nil => exact absurd hr hp
        | cons piece' pieces' =>
          rw [hl, hr] at ih
          cases pieces <;> cases pieces' <;> simp_all

end Path

end RepoAtlas
