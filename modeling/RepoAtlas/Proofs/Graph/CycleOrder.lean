import RepoAtlas.Proofs.Graph.ClosedWalk

/-!
# The order of cycles

`Cycle.find_reverse_topological`: cycles stand in reverse topological order. A component is closed
when all that it reaches is done, so that no component reaches one that is found after it, from
whichever nodes the search was started and in whichever order their edges come.
-/

namespace RepoAtlas

variable {nodes : List Node} {edges : List Edge} {c d : Cycle} {i j : Nat}

/-- An id leads to another one and back. -/
def OnCircle (nodes : List Node) (edges : List Edge) (a : Text) : Prop :=
  ∃ b, b ≠ a ∧ LeadsTo nodes edges a b ∧ LeadsTo nodes edges b a

namespace Cycle

/-- No cycle leads to one that stands behind it. -/
theorem find_pairwise (nodes : List Node) (edges : List Edge) :
    (find nodes edges).Pairwise fun front back =>
      ∀ a ∈ front.ids, ∀ b ∈ back.ids, ¬LeadsTo nodes edges a b := by
  obtain ⟨-, -, -, hordered⟩ := Component.components_exact (placeSuccessors_bounded nodes edges)
  rw [find_eq, List.pairwise_map]
  refine (hordered.filter _).imp_of_mem ?_
  intro front back hfront hback hapart a ha b hb hab
  obtain ⟨hfront, hfrontLen⟩ := List.mem_filter.mp hfront
  obtain ⟨hback, hbackLen⟩ := List.mem_filter.mp hback
  obtain ⟨v, hv, hav⟩ := (mem_ofPlaces fun _ => exists_id_of_component hfront
    (of_decide_eq_true hfrontLen)).mp ha
  obtain ⟨w, hw, hbw⟩ := (mem_ofPlaces fun _ => exists_id_of_component hback
    (of_decide_eq_true hbackLen)).mp hb
  exact hapart v hv w hw ((leadsTo_iff hav hbw).mp hab)

theorem lt_of_leadsTo (hc : (find nodes edges)[i]? = some c) (hd : (find nodes edges)[j]? = some d)
    (hne : i ≠ j) (ha : a ∈ c.ids) (hb : b ∈ d.ids) (hab : LeadsTo nodes edges a b) : j < i := by
  obtain ⟨hi, rfl⟩ := List.getElem?_eq_some_iff.mp hc
  obtain ⟨hj, rfl⟩ := List.getElem?_eq_some_iff.mp hd
  refine Nat.lt_of_le_of_ne (Nat.le_of_not_lt fun hlt => ?_) hne.symm
  exact List.pairwise_iff_getElem.mp (find_pairwise nodes edges) i j hi hj hlt a ha b hb hab

theorem exists_place_of_onCircle (h : OnCircle nodes edges a) :
    ∃ (i : Nat) (c : Cycle), (find nodes edges)[i]? = some c ∧ a ∈ c.ids := by
  obtain ⟨c, hc, ha⟩ := List.mem_flatMap.mp (mem_find_iff.mpr h)
  obtain ⟨i, hi⟩ := List.getElem?_of_mem hc
  exact ⟨i, c, hi, ha⟩

/-- Cycles stand in reverse topological order: if a member of a cycle leads to a member of another
one, the other cycle stands in front. Ids on circles are on cycles, so that of two such ids, of which
one leads to the other and not back, the other is listed in a cycle further in front. -/
theorem find_reverse_topological (nodes : List Node) (edges : List Edge) :
    (∀ (i j : Nat) (c d : Cycle), (find nodes edges)[i]? = some c →
      (find nodes edges)[j]? = some d → i ≠ j →
      ∀ a ∈ c.ids, ∀ b ∈ d.ids, LeadsTo nodes edges a b → j < i) ∧
    ∀ a b, OnCircle nodes edges a → OnCircle nodes edges b → LeadsTo nodes edges a b →
      ¬LeadsTo nodes edges b a → ∃ (i j : Nat) (c d : Cycle), j < i ∧
        (find nodes edges)[i]? = some c ∧ (find nodes edges)[j]? = some d ∧
        a ∈ c.ids ∧ b ∈ d.ids := by
  refine ⟨fun i j c d hc hd hne a ha b hb hab => lt_of_leadsTo hc hd hne ha hb hab, ?_⟩
  intro a b ha hb hab hnot
  obtain ⟨i, c, hc, ha⟩ := exists_place_of_onCircle ha
  obtain ⟨j, d, hd, hb⟩ := exists_place_of_onCircle hb
  have hne : i ≠ j := by
    rintro rfl
    obtain rfl : c = d := Option.some.inj (hc.symm.trans hd)
    exact hnot ((mem_ids_iff (List.mem_of_getElem? hc) hb).mp ha).1
  exact ⟨i, j, c, d, lt_of_leadsTo hc hd hne ha hb hab, hc, hd, ha, hb⟩

namespace Sample

def file (name : Char) : Node := { id := [name], label := [name], kind := "file", path := [name] }

def link (source target : Char) : Edge :=
  { id := [source, '-', target], source := [source], target := [target] }

def files : List Node := [file 'a', file 'b', file 'c', file 'd']

/-- Two circles, the first of which leads to the second. -/
def links : List Edge := [link 'a' 'b', link 'b' 'c', link 'b' 'a', link 'c' 'd', link 'd' 'c']

theorem imports_of_mem {s t : Char} (hs : file s ∈ files) (ht : file t ∈ files)
    (hlink : link s t ∈ links) (hne : s ≠ t) : Imports files links [s] [t] :=
  ⟨by simpa using hne, List.mem_map_of_mem hs, List.mem_map_of_mem ht, _, hlink, rfl, rfl⟩

/-- The second circle leads to nothing else. -/
theorem leadsTo_second (h : LeadsTo files links ['c'] a) : a = ['c'] ∨ a = ['d'] := by
  have hstays : ∀ e ∈ links, (e.source = ['c'] ∨ e.source = ['d']) →
      e.target = ['c'] ∨ e.target = ['d'] := by decide
  induction h with
  | refl => exact .inl rfl
  | tail _ himp ih =>
    obtain ⟨-, -, -, e, he, rfl, rfl⟩ := himp
    exact hstays e he ih

end Sample

/-- The search starts in the circle that leads to the other one, and lists it last. -/
theorem find_reverse_topological_sample : ∃ (i j : Nat) (c d : Cycle), j < i ∧
    (find Sample.files Sample.links)[i]? = some c ∧
      (find Sample.files Sample.links)[j]? = some d ∧ ['a'] ∈ c.ids ∧ ['c'] ∈ d.ids := by
  have hab : Imports Sample.files Sample.links ['a'] ['b'] :=
    Sample.imports_of_mem (by decide) (by decide) (by decide) (by decide)
  have hba : Imports Sample.files Sample.links ['b'] ['a'] :=
    Sample.imports_of_mem (by decide) (by decide) (by decide) (by decide)
  have hbc : Imports Sample.files Sample.links ['b'] ['c'] :=
    Sample.imports_of_mem (by decide) (by decide) (by decide) (by decide)
  have hcd : Imports Sample.files Sample.links ['c'] ['d'] :=
    Sample.imports_of_mem (by decide) (by decide) (by decide) (by decide)
  have hdc : Imports Sample.files Sample.links ['d'] ['c'] :=
    Sample.imports_of_mem (by decide) (by decide) (by decide) (by decide)
  refine (find_reverse_topological _ _).2 ['a'] ['c'] ⟨['b'], by decide, .single hab, .single hba⟩
    ⟨['d'], by decide, .single hcd, .single hdc⟩ (.tail (.single hab) hbc) fun hca => ?_
  exact absurd (Sample.leadsTo_second hca) (by decide)

end Cycle

end RepoAtlas
