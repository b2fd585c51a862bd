import Mathlib.Data.List.Chain
import RepoAtlas.Proofs.Graph.Cycles

/-!
# Cycles and closed walks

Where edges join different known ids, an id is part of a cycle exactly if it lies on a closed walk
that meets another id as well.
-/

namespace RepoAtlas

/-- An edge leads from one id to another one. -/
def Follows (edges : List Edge) (a b : Text) : Prop := ∃ e ∈ edges, e.source = a ∧ e.target = b

/-- A walk along edges leaves an id, meets another one on its way and returns. -/
def OnClosedWalk (edges : List Edge) (a : Text) : Prop :=
  ∃ way : List Text, (a :: way ++ [a]).IsChain (Follows edges) ∧ ∃ b ∈ way, b ≠ a

section
variable {R : Text → Text → Prop}

theorem reaches_of_isChain (h : (a :: way ++ [b]).IsChain R) : Relation.ReflTransGen R a b :=
  List.relationReflTransGen_of_exists_isChain_cons (way ++ [b]) h (by simp)

theorem exists_isChain_of_reaches (h : Relation.ReflTransGen R a b) (hne : a ≠ b) :
    ∃ way, (a :: way ++ [b]).IsChain R := by
  obtain ⟨way, hchain, hlast⟩ := List.exists_isChain_cons_of_relationReflTransGen h
  cases way using List.reverseRecOn with
  | nil => exact absurd hlast hne
  | append_singleton way c =>
    obtain rfl : c = b := by simpa using hlast
    exact ⟨way, hchain⟩

theorem exists_closed_iff : (∃ way, (a :: way ++ [a]).IsChain R ∧ ∃ b ∈ way, b ≠ a) ↔
    ∃ b, b ≠ a ∧ Relation.ReflTransGen R a b ∧ Relation.ReflTransGen R b a := by
  constructor
  · rintro ⟨way, hchain, b, hb, hne⟩
    obtain ⟨there, back, rfl⟩ := List.append_of_mem hb
    have hsplit := List.isChain_split.mp (show ((a :: there) ++ b :: (back ++ [a])).IsChain R by
      simpa using hchain)
    exact ⟨b, hne, reaches_of_isChain hsplit.1, reaches_of_isChain hsplit.2⟩
  · rintro ⟨b, hne, hab, hba⟩
    obtain ⟨there, hthere⟩ := exists_isChain_of_reaches hab hne.symm
    obtain ⟨back, hback⟩ := exists_isChain_of_reaches hba hne
    refine ⟨there ++ b :: back, ?_, b, by simp, hne⟩
    simpa using List.isChain_split.mpr ⟨hthere, hback⟩

end

theorem Cycle.mem_find_iff : a ∈ (Cycle.find nodes edges).flatMap (·.ids) ↔
    ∃ b, b ≠ a ∧ LeadsTo nodes edges a b ∧ LeadsTo nodes edges b a := by
  rw [List.mem_flatMap]
  constructor
  · rintro ⟨cycle, hc, ha⟩
    have hnodup := (List.nodup_flatMap.mp (Cycle.nodup_ids nodes edges)).1 cycle hc
    obtain ⟨b, hb, hne⟩ := exists_mem_ne hnodup (Cycle.length_ids hc) a
    exact ⟨b, hne, (Cycle.mem_ids_iff hc ha).mp hb⟩
  · rintro ⟨b, hne, hab, hba⟩
    obtain ⟨cycle, hc, ha, -⟩ := Cycle.exists_of_leadsTo hne.symm hab hba
    exact ⟨cycle, hc, ha⟩

theorem imports_eq_follows (hends : ∀ e ∈ edges, e.source ∈ nodes.map Node.id ∧
    e.target ∈ nodes.map Node.id ∧ e.source ≠ e.target) : Imports nodes edges = Follows edges := by
  funext a b
  refine propext ⟨fun h => h.2.2.2, ?_⟩
  rintro ⟨e, he, rfl, rfl⟩
  obtain ⟨hsource, htarget, hne⟩ := hends e he
  exact ⟨hne, hsource, htarget, e, he, rfl, rfl⟩

theorem Cycle.mem_find_iff_onClosedWalk (hends : ∀ e ∈ edges, e.source ∈ nodes.map Node.id ∧
    e.target ∈ nodes.map Node.id ∧ e.source ≠ e.target) :
    a ∈ (Cycle.find nodes edges).flatMap (·.ids) ↔ OnClosedWalk edges a := by
  rw [Cycle.mem_find_iff, LeadsTo, imports_eq_follows hends]
  exact exists_closed_iff.symm

end RepoAtlas
