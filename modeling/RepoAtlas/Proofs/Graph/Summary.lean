import RepoAtlas.Graph.Summary
import RepoAtlas.Proofs.Grouping
import RepoAtlas.Proofs.Text.Basic

/-!
# A tally counts

A tally has each text once, in order of first appearance, with the number of its occurrences. The
primary language is the one that leads all others that compete.
-/

namespace RepoAtlas

namespace Tally

theorem add_eq_upsert (tally : Tally) (key : Text) :
    add tally key = Grouping.upsert (·.1 == key) (fun (k, n) => (k, n + 1)) (key, 1) tally := by
  induction tally with
  | nil => rfl
  | cons entry tally ih => rw [add, Grouping.upsert, ih]

theorem ofList_eq (keys : List Text) :
    ofList keys = keys.eraseDups.map fun key => (key, (keys.count key : Int)) := by
  have h := Grouping.foldl_upsert id Prod.fst (fun k is => (k, (is.length : Int))) add_eq_upsert
    (fun _ _ => rfl) (fun _ => rfl) (fun _ _ => by simp) keys
  simpa [ofList, List.count_eq_length_filter] using h

theorem mem_ofList {keys : List Text} {key : Text} {n : Int} :
    (key, n) ∈ ofList keys ↔ n = keys.count key ∧ 0 < n := by
  rw [ofList_eq]
  constructor
  · intro h
    obtain ⟨k, hk, hpair⟩ := List.mem_map.mp h
    cases hpair
    exact ⟨rfl, Int.natCast_pos.mpr (List.count_pos_iff.mpr (List.mem_eraseDups.mp hk))⟩
  · rintro ⟨rfl, hpos⟩
    have hkey : key ∈ keys := List.count_pos_iff.mp (Int.natCast_pos.mp hpos)
    exact List.mem_map.mpr ⟨key, List.mem_eraseDups.mpr hkey, rfl⟩

theorem nodup_ofList (keys : List Text) : ((ofList keys).map Prod.fst).Nodup := by
  rw [ofList_eq, List.map_map]
  simpa [Function.comp_def] using Grouping.nodup_eraseDups keys

theorem sorted_perm (tally : Tally) : tally.sorted.Perm tally := List.mergeSort_perm _ _

-- -------------------------------------
-- The leading entry
-- -------------------------------------

theorem leads_iff {a b : Text × Int} :
    leads a b = true ↔ b.2 < a.2 ∨ b.2 = a.2 ∧ Text.le a.1 b.1 = true := by
  simp only [leads, Bool.or_eq_true, Bool.and_eq_true, decide_eq_true_eq, beq_iff_eq,
    eq_comm (a := a.2)]

theorem leads_total (a b : Text × Int) : leads a b = true ∨ leads b a = true := by
  rw [leads_iff, leads_iff]
  rcases Int.lt_trichotomy a.2 b.2 with hlt | heq | hgt
  · exact .inr (.inl hlt)
  · rcases Text.le_total a.1 b.1 with hle | hle
    · exact .inl (.inr ⟨heq.symm, hle⟩)
    · exact .inr (.inr ⟨heq, hle⟩)
  · exact .inl (.inl hgt)

theorem leads_trans {a b c : Text × Int} (hab : leads a b = true) (hbc : leads b c = true) :
    leads a c = true := by
  rw [leads_iff] at hab hbc ⊢
  rcases hab with hab | ⟨hab, hle⟩
  · exact .inl (by omega)
  · rcases hbc with hbc | ⟨hbc, hle'⟩
    · exact .inl (by omega)
    · exact .inr ⟨by omega, Text.le_trans hle hle'⟩

theorem leads_refl (a : Text × Int) : leads a a = true := by
  rcases leads_total a a with h | h
  · exact h
  · exact h

/-- Whichever of two entries leads is kept, so that the last one kept leads them all. -/
theorem foldl_leads {first best : Text × Int} {rest : List (Text × Int)}
    (h : rest.foldl (fun best c => if leads best c then best else c) first = best) :
    best ∈ first :: rest ∧ ∀ c ∈ first :: rest, leads best c = true := by
  induction rest generalizing first with
  | nil =>
    cases h
    simpa using leads_refl first
  | cons next rest ih =>
    rw [List.foldl_cons] at h
    obtain ⟨hmem, hleads⟩ := ih h
    obtain ⟨hkept, hrest⟩ := List.forall_mem_cons.mp hleads
    -- The one kept leads the one dropped, and is itself led by what comes out.
    by_cases hfirst : leads first next = true
    · rw [if_pos hfirst] at hmem hkept
      refine ⟨?_, List.forall_mem_cons.mpr ⟨hkept, List.forall_mem_cons.mpr ⟨?_, hrest⟩⟩⟩
      · exact List.cons_subset_cons first (List.subset_cons_self next rest) hmem
      · exact leads_trans hkept hfirst
    · have hnext : leads next first = true := (leads_total first next).resolve_left hfirst
      rw [if_neg hfirst] at hmem hkept
      refine ⟨.tail _ hmem, List.forall_mem_cons.mpr ⟨?_, List.forall_mem_cons.mpr ⟨hkept, hrest⟩⟩⟩
      exact leads_trans hkept hnext

end Tally

variable {languages : Tally} {supported : List Text}

theorem primaryLanguage_eq_none_iff :
    primaryLanguage languages (some supported) = none ↔ ∀ entry ∈ languages, entry.1 ∉ supported := by
  unfold primaryLanguage
  extract_lets candidates
  have hcandidates : candidates = [] ↔ ∀ entry ∈ languages, entry.1 ∉ supported := by
    simp [candidates, List.filter_eq_nil_iff]
  rw [← hcandidates]
  cases candidates <;> simp

theorem primaryLanguage_leads {ext : Text}
    (h : primaryLanguage languages (some supported) = some ext) :
    ∃ n, (ext, n) ∈ languages ∧ ext ∈ supported ∧
      ∀ other m, (other, m) ∈ languages → other ∈ supported →
        m < n ∨ m = n ∧ Text.le ext other = true := by
  unfold primaryLanguage at h
  extract_lets candidates at h
  have hcandidates : ∀ {entry}, entry ∈ candidates ↔ entry ∈ languages ∧ entry.1 ∈ supported := by
    simp [candidates]
  cases hlist : candidates with
  | nil =>
    rw [hlist] at h
    cases h
  | cons first rest =>
    rw [hlist] at h
    obtain ⟨⟨winner, n⟩, hbest⟩ : ∃ best,
        rest.foldl (fun best c => if Tally.leads best c then best else c) first = best := ⟨_, rfl⟩
    obtain ⟨hmem, hleads⟩ := Tally.foldl_leads hbest
    rw [← hlist] at hmem hleads
    obtain rfl : winner = ext := by simpa [hbest] using h
    obtain ⟨hin, hsupported⟩ := hcandidates.mp hmem
    refine ⟨n, hin, hsupported, fun other m hother hcompetes => ?_⟩
    exact Tally.leads_iff.mp (hleads (other, m) (hcandidates.mpr ⟨hother, hcompetes⟩))

end RepoAtlas
