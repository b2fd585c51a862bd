import RepoAtlas.Manifest.Version
import RepoAtlas.Proofs.Grouping

/-!
# The first version of a framework stays

Noting findings adds entries at the end of a record and changes none. A framework that has no
version yet gets the first one that is found for it.
-/

namespace RepoAtlas

/-- The version that a finding gives for a framework. -/
def Finding.versionOf (framework : Text) (finding : Finding) : Option Text :=
  if finding.framework = framework then finding.version else none

theorem Finding.frameworks_eq_nil {found : List Finding} (h : Finding.frameworks found = []) :
    found = [] := by
  cases found with
  | nil => rfl
  | cons finding rest => simp [Finding.frameworks, List.eraseDups_cons] at h

theorem Finding.frameworks_concat (found : List Finding) (finding : Finding) :
    Finding.frameworks (found ++ [finding]) =
      if finding.framework ∈ Finding.frameworks found then Finding.frameworks found
      else Finding.frameworks found ++ [finding.framework] := by
  rw [Finding.frameworks, List.map_append, List.map_cons, List.map_nil, Grouping.eraseDups_concat]
  simp only [Finding.frameworks, List.contains_eq_mem, List.mem_eraseDups, decide_eq_true_eq]

/-- The version in the first finding of a framework. -/
def Finding.firstVersion (found : List Finding) (framework : Text) : Text :=
  ((found.find? (·.framework == framework)).bind (·.version)).getD []

theorem Finding.firstVersion_concat {found : List Finding} {framework : Text}
    (h : framework ∈ Finding.frameworks found) (finding : Finding) :
    firstVersion (found ++ [finding]) framework = firstVersion found framework := by
  have hsome : (found.find? (·.framework == framework)).isSome := by
    rw [List.find?_isSome]
    simpa [Finding.frameworks, List.mem_eraseDups] using h
  rw [firstVersion, List.find?_append, Option.or_of_isSome hsome, firstVersion]

theorem Finding.firstVersion_concat_of_new {found : List Finding} {finding : Finding}
    (h : finding.framework ∉ Finding.frameworks found) :
    firstVersion (found ++ [finding]) finding.framework = finding.version.getD [] := by
  have hnone : found.find? (·.framework == finding.framework) = none := by
    rw [List.find?_eq_none]
    simpa [Finding.frameworks, List.mem_eraseDups] using h
  simp [firstVersion, List.find?_append, hnone]

theorem Finding.isSome_findSome?_versionOf_iff {found : List Finding}
    (h : ∀ finding ∈ found, finding.version.isSome) {framework : Text} :
    (found.findSome? (·.versionOf framework)).isSome ↔ framework ∈ Finding.frameworks found := by
  rw [List.findSome?_isSome_iff, Finding.frameworks, List.mem_eraseDups, List.mem_map]
  constructor
  · rintro ⟨finding, hmem, hversion⟩
    refine ⟨finding, hmem, ?_⟩
    unfold versionOf at hversion
    split at hversion
    · assumption
    · cases hversion
  · rintro ⟨finding, hmem, rfl⟩
    exact ⟨finding, hmem, by simpa [versionOf] using h finding hmem⟩

namespace Versions

@[simp] theorem get?_nil (framework : Text) : Versions.get? [] framework = none := rfl

theorem note_prefix (versions : Versions) (finding : Finding) :
    versions <+: versions.note finding := by
  unfold note
  split
  · exact List.prefix_append _ _
  · exact List.prefix_refl _

theorem get?_concat (versions : Versions) (added version framework : Text) :
    Versions.get? (versions ++ [(added, version)]) framework =
      (versions.get? framework).or (if added = framework then some version else none) := by
  rw [get?, List.lookup_append, List.lookup_cons]
  by_cases hsame : added = framework
  · simp [hsame, get?]
  · simp [hsame, get?, beq_eq_false_iff_ne.mpr (Ne.symm hsame)]

theorem get?_note (versions : Versions) (finding : Finding) (framework : Text) :
    (versions.note finding).get? framework =
      (versions.get? framework).or (finding.versionOf framework) := by
  unfold note Finding.versionOf
  split
  · rename_i version hversion hnone
    rw [get?_concat, hversion]
  · rename_i hkept
    split
    · rename_i hsame
      subst hsame
      -- Either the finding has no version, or its framework has one already.
      cases hversion : finding.version with
      | none => rw [Option.or_none]
      | some version =>
        obtain ⟨known, hknown⟩ := Option.ne_none_iff_exists'.mp (hkept version hversion)
        rw [hknown, Option.some_or]
    · rw [Option.or_none]

theorem noteAll_prefix (versions : Versions) (found : List Finding) :
    versions <+: versions.noteAll found := by
  unfold noteAll
  induction found generalizing versions with
  | nil => exact List.prefix_refl _
  | cons finding found ih => exact (versions.note_prefix finding).trans (ih _)

/-- What is recorded for a framework after findings: what was there, or the first version found. -/
theorem get?_noteAll (versions : Versions) (found : List Finding) (framework : Text) :
    (versions.noteAll found).get? framework =
      (versions.get? framework).or (found.findSome? (·.versionOf framework)) := by
  unfold noteAll
  induction found generalizing versions with
  | nil => simp
  | cons finding found ih =>
    rw [List.foldl_cons, ih, get?_note, Option.or_assoc, List.findSome?_cons]
    cases finding.versionOf framework <;> rfl

theorem mem_keys_iff {versions : Versions} {framework : Text} :
    framework ∈ versions.map (·.1) ↔ (versions.get? framework).isSome := by
  simp [get?, List.lookup_isSome_iff]

theorem mem_keys_noteAll {versions : Versions} {found : List Finding} {framework : Text}
    (h : framework ∈ (versions.noteAll found).map (·.1)) :
    framework ∈ versions.map (·.1) ∨ framework ∈ Finding.frameworks found := by
  rw [mem_keys_iff, get?_noteAll, Option.isSome_or, Bool.or_eq_true, ← mem_keys_iff] at h
  refine h.imp_right fun hfound => ?_
  obtain ⟨version, hversion⟩ := Option.isSome_iff_exists.mp hfound
  obtain ⟨finding, hfinding, hof⟩ := List.exists_of_findSome?_eq_some hversion
  unfold Finding.versionOf at hof
  split at hof
  · rename_i hsame
    rw [Finding.frameworks, List.mem_eraseDups, ← hsame]
    exact List.mem_map_of_mem hfinding
  · cases hof

/-- What is noted from findings that all have versions: for each framework that had none, the
version in its first finding. -/
theorem noteAll_eq {found : List Finding} (h : ∀ finding ∈ found, finding.version.isSome)
    (versions : Versions) : versions.noteAll found = versions ++
      ((Finding.frameworks found).filter fun f => (versions.get? f).isNone).map fun f =>
        (f, Finding.firstVersion found f) := by
  induction found using List.reverseRecOn with
  | nil => simp [noteAll, Finding.frameworks]
  | append_singleton found finding ih =>
    have hfound : ∀ earlier ∈ found, earlier.version.isSome :=
      fun earlier hmem => h earlier (List.mem_append_left _ hmem)
    obtain ⟨version, hversion⟩ := Option.isSome_iff_exists.mp (h finding (by simp))
    have hkept : ∀ f ∈ (Finding.frameworks found).filter fun f => (versions.get? f).isNone,
        (f, Finding.firstVersion (found ++ [finding]) f) = (f, Finding.firstVersion found f) := by
      intro f hf
      rw [Finding.firstVersion_concat (List.mem_of_mem_filter hf)]
    have hget := get?_noteAll versions found finding.framework
    have hknown : (found.findSome? (·.versionOf finding.framework)).isSome ↔
        finding.framework ∈ Finding.frameworks found :=
      Finding.isSome_findSome?_versionOf_iff hfound
    have hlast : versions.noteAll (found ++ [finding]) = (versions.noteAll found).note finding := by
      simp [noteAll]
    rw [hlast, note, hversion, Finding.frameworks_concat]
    by_cases hnew : finding.framework ∈ Finding.frameworks found
    · obtain ⟨earlier, hearlier⟩ := Option.isSome_iff_exists.mp (hknown.mpr hnew)
      obtain ⟨noted, hnoted⟩ : ∃ noted, (versions.noteAll found).get? finding.framework =
          some noted := by
        rw [hget, hearlier]
        cases versions.get? finding.framework <;> exact ⟨_, rfl⟩
      rw [if_pos hnew, List.map_congr_left hkept, ← ih hfound, hnoted]
    · have hnone : found.findSome? (·.versionOf finding.framework) = none := by
        simpa using mt hknown.mp hnew
      rw [hnone, Option.or_none] at hget
      rw [if_neg hnew, List.filter_append, List.map_append, List.map_congr_left hkept,
        ← List.append_assoc, ← ih hfound, hget]
      cases hold : versions.get? finding.framework with
      | some noted => simp [hold]
      | none => simp [hold, Finding.firstVersion_concat_of_new hnew, hversion]

end Versions

end RepoAtlas
