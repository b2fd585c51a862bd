import RepoAtlas.Files.Listing
import RepoAtlas.Proofs.Text.Basic

/-!
# Listings are sorted

The keys of a listing are totally ordered, so a sorted listing is a sorted arrangement of what was
to be listed, and the only one when no two things have the same key.
-/

namespace RepoAtlas

namespace ListingKey

variable {a b c : ListingKey}

theorem le_iff : a.le b = true ↔ (a.notFolder = false ∧ b.notFolder = true) ∨
    a.notFolder = b.notFolder ∧ (a.lowered ≠ b.lowered ∧ Text.le a.lowered b.lowered = true ∨
      a.lowered = b.lowered ∧ Text.le a.name b.name = true) := by
  unfold le
  by_cases hf : a.notFolder = b.notFolder
  · by_cases hl : a.lowered = b.lowered <;> simp [hf, hl]
  · cases ha : a.notFolder <;> cases hb : b.notFolder <;> simp_all

theorem le_total (a b : ListingKey) : a.le b = true ∨ b.le a = true := by
  simp only [le_iff]
  by_cases hf : a.notFolder = b.notFolder
  · by_cases hl : a.lowered = b.lowered
    · simpa [hf, hl] using Text.le_total a.name b.name
    · simpa [hf, hl, Ne.symm hl] using Text.le_total a.lowered b.lowered
  · cases ha : a.notFolder <;> cases hb : b.notFolder <;> simp_all

theorem le_trans (hab : a.le b = true) (hbc : b.le c = true) : a.le c = true := by
  rw [le_iff] at hab hbc ⊢
  rcases hab with ⟨ha, hb⟩ | ⟨hf, hab⟩
  · rcases hbc with ⟨hb', -⟩ | ⟨hf', -⟩
    · simp [hb] at hb'
    · exact .inl ⟨ha, hf' ▸ hb⟩
  · rcases hbc with ⟨hb, hc⟩ | ⟨hf', hbc⟩
    · exact .inl ⟨hf ▸ hb, hc⟩
    · refine .inr ⟨hf.trans hf', ?_⟩
      rcases hab with ⟨hne, hab⟩ | ⟨heq, hab⟩
      · rcases hbc with ⟨hne', hbc⟩ | ⟨heq', -⟩
        · refine .inl ⟨fun hac => hne ?_, Text.le_trans hab hbc⟩
          exact Text.le_antisymm hab (hac ▸ hbc)
        · exact .inl ⟨heq' ▸ hne, heq' ▸ hab⟩
      · rcases hbc with ⟨hne', hbc⟩ | ⟨heq', hbc⟩
        · exact .inl ⟨heq ▸ hne', heq ▸ hbc⟩
        · exact .inr ⟨heq.trans heq', Text.le_trans hab hbc⟩

theorem le_antisymm (hab : a.le b = true) (hba : b.le a = true) : a.name = b.name := by
  rw [le_iff] at hab hba
  rcases hab with ⟨ha, hb⟩ | ⟨hf, hab⟩
  · rcases hba with ⟨hb', -⟩ | ⟨hf, -⟩
    · simp [hb] at hb'
    · simp [ha, hb] at hf
  · rcases hba with ⟨hb, ha⟩ | ⟨-, hba⟩
    · simp [ha, hb] at hf
    · rcases hab with ⟨hne, hab⟩ | ⟨heq, hab⟩
      · rcases hba with ⟨-, hba⟩ | ⟨heq, -⟩
        · exact absurd (Text.le_antisymm hab hba) hne
        · exact absurd heq.symm hne
      · rcases hba with ⟨hne, -⟩ | ⟨-, hba⟩
        · exact absurd heq.symm hne
        · exact Text.le_antisymm hab hba

end ListingKey

variable {α : Type} {key : α → ListingKey} {items : List α}

theorem sortListing_perm (key : α → ListingKey) (items : List α) :
    (sortListing key items).Perm items := by
  have h := (List.mergeSort_perm (items.map fun a => (key a, a)) fun a b => a.1.le b.1).map (·.2)
  simpa [sortListing, List.map_map, Function.comp_def] using h

theorem sortListing_sorted (key : α → ListingKey) (items : List α) :
    (sortListing key items).Pairwise fun a b => (key a).le (key b) = true := by
  have hsorted := @List.pairwise_mergeSort _ (fun a b : ListingKey × α => a.1.le b.1)
    (fun _ _ _ => ListingKey.le_trans) (fun a b => by simpa using ListingKey.le_total a.1 b.1)
    (items.map fun a => (key a, a))
  have hkey : ∀ p ∈ (items.map fun a => (key a, a)).mergeSort (fun a b => a.1.le b.1),
      p.1 = key p.2 := by
    simp
  rw [sortListing, List.pairwise_map]
  refine hsorted.imp_of_mem fun {p q} hp hq hle => ?_
  rwa [hkey p hp, hkey q hq] at hle

/-- Two sorted arrangements of the same things are equal if names tell these apart. -/
theorem eq_of_sorted_listing {l m : List α} (hp : l.Perm m)
    (hl : l.Pairwise fun a b => (key a).le (key b) = true)
    (hm : m.Pairwise fun a b => (key a).le (key b) = true)
    (hkey : ∀ a ∈ l, ∀ b ∈ l, (key a).name = (key b).name → a = b) : l = m := by
  refine hp.eq_of_pairwise ?_ hl hm
  intro a b ha hb hab hba
  exact hkey a ha b (hp.mem_iff.mpr hb) (ListingKey.le_antisymm hab hba)

end RepoAtlas
