import Mathlib.Data.List.Nodup
import RepoAtlas.Manifest.Dependencies
import RepoAtlas.Proofs.Grouping

/-!
# Dependencies

Packages whose names differ, also in normal form, are all kept apart, so that their order does not
matter to what is found among them.
-/

namespace RepoAtlas.Dependencies

variable {deps more : Dependencies} {known : KnownPackages} {normal : Text → Text}

-- -------------------------------------
-- Packages that are put together
-- -------------------------------------

theorem mem_put {package version : Text} {entry : Text × Text}
    (h : entry ∈ deps.put package version) : entry ∈ deps ∨ entry.2 = version := by
  induction deps with
  | nil =>
    obtain rfl := List.mem_singleton.mp h
    exact .inr rfl
  | cons first deps ih =>
    unfold put at h
    split at h
    · rcases List.mem_cons.mp h with rfl | h
      · exact .inr rfl
      · exact .inl (.tail _ h)
    · rcases List.mem_cons.mp h with rfl | h
      · exact .inl (.head _)
      · exact (ih h).imp_left (.tail _)

theorem put_of_new {package : Text} (h : package ∉ deps.map (·.1)) (version : Text) :
    deps.put package version = deps ++ [(package, version)] := by
  induction deps with
  | nil => rfl
  | cons entry deps ih =>
    rw [List.map_cons, List.mem_cons, not_or] at h
    rw [put, if_neg (by simpa using Ne.symm h.1), ih h.2, List.cons_append]

theorem putAll_of_nodup (h : ((deps ++ more).map (·.1)).Nodup) : deps.putAll more = deps ++ more := by
  unfold putAll
  induction more generalizing deps with
  | nil => rw [List.foldl_nil, List.append_nil]
  | cons entry more ih =>
    have hnew : entry.1 ∉ deps.map (·.1) := by
      rw [List.map_append, List.map_cons] at h
      exact fun hmem => (List.nodup_append.mp h).2.2 _ hmem _ (.head _) rfl
    rw [List.append_cons] at h ⊢
    rw [List.foldl_cons, ← ih h, ← put_of_new hnew]

theorem ofList_of_nodup (h : (more.map fun d => normal d.1).Nodup) : ofList more = more := by
  refine @putAll_of_nodup [] more (List.Nodup.of_map normal ?_)
  rwa [List.nil_append, List.map_map]

-- -------------------------------------
-- What is found
-- -------------------------------------

theorem requirement?_eq_some_iff (h : (deps.map fun d => normal d.1).Nodup)
    {package version : Text} : deps.requirement? normal package = some version ↔
      ∃ name, (name, version) ∈ deps ∧ normal name = normal package := by
  have hrequirement : deps.requirement? normal package =
      (deps.reverse.find? fun d => normal d.1 == normal package).map (·.2) := rfl
  rw [hrequirement, Option.map_eq_some_iff]
  constructor
  · rintro ⟨⟨name, _⟩, hfind, rfl⟩
    refine ⟨name, List.mem_reverse.mp (List.mem_of_find?_eq_some hfind), ?_⟩
    simpa using List.find?_some hfind
  · rintro ⟨name, hmem, hname⟩
    cases hfind : deps.reverse.find? fun d => normal d.1 == normal package with
    | none =>
      have hnone := List.find?_eq_none.mp hfind _ (List.mem_reverse.mpr hmem)
      simp [hname] at hnone
    | some found =>
      have hfound : normal found.1 = normal package := by simpa using List.find?_some hfind
      have hsame := List.inj_on_of_nodup_map h
        (List.mem_reverse.mp (List.mem_of_find?_eq_some hfind)) hmem (hfound.trans hname.symm)
      exact ⟨found, rfl, by rw [hsame]⟩

theorem findings_perm (hperm : deps.Perm more) (h : (deps.map fun d => normal d.1).Nodup) :
    more.findings known normal = deps.findings known normal := by
  have hmore : (more.map fun d => normal d.1).Nodup := (hperm.map _).nodup_iff.mp h
  have hsame : ∀ package, more.requirement? normal package = deps.requirement? normal package := by
    intro package
    refine Option.ext fun version => ?_
    rw [requirement?_eq_some_iff h, requirement?_eq_some_iff hmore]
    exact exists_congr fun name => and_congr_left fun _ => hperm.mem_iff.symm
  simp only [findings, hsame]

theorem map_framework_findings (deps : Dependencies) (known : KnownPackages)
    (normal : Text → Text) : (deps.findings known normal).map (·.framework) =
      (known.filter fun entry => (deps.requirement? normal entry.1).isSome).map (·.2) := by
  induction known with
  | nil => rfl
  | cons entry known ih =>
    rw [findings, List.filterMap_cons]
    split
    · rename_i hentry
      have hnone := Option.map_eq_none_iff.mp hentry
      rw [List.filter_cons_of_neg (by simp [hnone])]
      exact ih
    · rename_i finding hentry
      obtain ⟨requirement, hsome, rfl⟩ := Option.map_eq_some_iff.mp hentry
      rw [List.filter_cons_of_pos (by simp [hsome])]
      exact congrArg (entry.2 :: ·) ih

theorem frameworks_findings_sublist (deps : Dependencies) (known : KnownPackages)
    (normal : Text → Text) :
    (Finding.frameworks (deps.findings known normal)).Sublist (known.map (·.2)) := by
  rw [Finding.frameworks, map_framework_findings]
  exact (Grouping.eraseDups_sublist _).trans (List.filter_sublist.map _)

theorem mem_frameworks_findings_iff (h : (deps.map fun d => normal d.1).Nodup) {framework : Text} :
    framework ∈ Finding.frameworks (deps.findings known normal) ↔
      ∃ package, (package, framework) ∈ known ∧
        ∃ version name, (name, version) ∈ deps ∧ normal name = normal package := by
  simp only [Finding.frameworks, map_framework_findings, List.mem_eraseDups, List.mem_map,
    List.mem_filter, Option.isSome_iff_exists, requirement?_eq_some_iff h, Prod.exists,
    exists_eq_right]

end RepoAtlas.Dependencies
