import Mathlib.Data.List.Flatten
import Mathlib.Data.List.Induction
import Mathlib.Data.List.Nodup
import Mathlib.Data.Option.Basic
import RepoAtlas.Graph.Cycles
import RepoAtlas.Proofs.Graph.Component

/-!
# Cycles are strongly connected components

`Cycle.find_exact`: the cycles of a graph are the classes of at least two ids that reach one another
over edges between different known ids. The search works on places of nodes; an id stands for the
place of the last node that has it, and nodes in front of that one have no edges.
-/

namespace RepoAtlas

open Component (Arc Reaches)

/-- The node that an id stands for: the last one that has it. -/
def Node.ofId? (nodes : List Node) (id : Text) : Option Node := nodes.findRev? (·.id == id)

/-- One known id imports another one. -/
def Imports (nodes : List Node) (edges : List Edge) (a b : Text) : Prop :=
  a ≠ b ∧ a ∈ nodes.map (·.id) ∧ b ∈ nodes.map (·.id) ∧ ∃ e ∈ edges, e.source = a ∧ e.target = b

/-- One id leads to another one over imports. -/
abbrev LeadsTo (nodes : List Node) (edges : List Edge) : Text → Text → Prop :=
  Relation.ReflTransGen (Imports nodes edges)

-- -------------------------------------
-- Places
-- -------------------------------------

namespace Node

variable {nodes : List Node} {id a b : Text} {i : Nat}

theorem places_concat (nodes : List Node) (node : Node) :
    places (nodes ++ [node]) = (places nodes).insert node.id nodes.length := by
  simp [places, List.zipIdx_append, Std.HashMap.ofList_eq_insertMany_empty,
    Std.HashMap.insertMany_append, Std.HashMap.insertMany_list_singleton]

theorem ofId?_concat (nodes : List Node) (node : Node) (id : Text) :
    ofId? (nodes ++ [node]) id = if node.id = id then some node else ofId? nodes id := by
  by_cases h : node.id = id <;> simp [ofId?, h]

theorem places_lt (h : (places nodes)[id]? = some i) : i < nodes.length := by
  induction nodes using List.reverseRecOn with
  | nil => simp [places] at h
  | append_singleton nodes node ih =>
    rw [places_concat, Std.HashMap.getElem?_insert] at h
    rw [List.length_append]
    split at h
    · cases h
      simp
    · exact Nat.lt_add_right _ (ih h)

/-- The place of an id holds the node that it stands for. -/
theorem places_ofId (nodes : List Node) (id : Text) :
    ((places nodes)[id]?).bind (nodes[·]?) = ofId? nodes id := by
  induction nodes using List.reverseRecOn with
  | nil => simp [places, ofId?]
  | append_singleton nodes node ih =>
    rw [places_concat, ofId?_concat, Std.HashMap.getElem?_insert]
    by_cases h : node.id = id
    · simp [h]
    · simp only [beq_iff_eq, h, if_false, ← ih]
      cases hp : (places nodes)[id]? with
      | none => rfl
      | some i => simp [List.getElem?_append_left (places_lt hp)]

theorem id_ofId (h : ofId? nodes id = some node) : node.id = id := by
  simp only [ofId?, List.findRev?_eq_find?_reverse] at h
  simpa using List.find?_some h

theorem places_eq_some (h : (places nodes)[id]? = some i) :
    ∃ node, nodes[i]? = some node ∧ node.id = id ∧ ofId? nodes id = some node := by
  have hnode := List.getElem?_eq_getElem (places_lt h)
  have hid := places_ofId nodes id
  rw [h, Option.bind_some, hnode] at hid
  exact ⟨_, hnode, id_ofId hid.symm, hid.symm⟩

theorem places_inj (ha : (places nodes)[a]? = some i) (hb : (places nodes)[b]? = some i) :
    a = b := by
  obtain ⟨node, hnode, rfl, -⟩ := places_eq_some ha
  obtain ⟨node', hnode', rfl, -⟩ := places_eq_some hb
  rw [hnode] at hnode'
  cases hnode'
  rfl

theorem exists_place : (∃ i, (places nodes)[id]? = some i) ↔ id ∈ nodes.map (·.id) := by
  constructor
  · rintro ⟨i, hi⟩
    obtain ⟨node, hnode, hid, -⟩ := places_eq_some hi
    exact List.mem_map.mpr ⟨node, List.mem_of_getElem? hnode, hid⟩
  · intro h
    obtain ⟨node, hnode, hid⟩ := List.mem_map.mp h
    have hfound : (ofId? nodes id).isSome := by
      simp only [ofId?, List.findRev?_eq_find?_reverse, List.find?_isSome, List.mem_reverse]
      exact ⟨node, hnode, by simpa using hid⟩
    rw [← places_ofId] at hfound
    cases hp : (places nodes)[id]? with
    | none => simp [hp] at hfound
    | some i => exact ⟨i, rfl⟩

end Node

-- -------------------------------------
-- Successors
-- -------------------------------------

theorem size_successorTable (size : Nat) (arcs : List (Nat × Nat)) :
    (successorTable size arcs).size = size := by
  induction arcs with
  | nil => simp [successorTable]
  | cons arc arcs ih => simpa [successorTable] using ih

theorem mem_successorTable (size : Nat) (arcs : List (Nat × Nat)) (v w : Nat) :
    w ∈ (successorTable size arcs).getD v [] ↔ v < size ∧ (v, w) ∈ arcs := by
  induction arcs with
  | nil => by_cases h : v < size <;> simp [successorTable, Array.getD_eq_getD_getElem?, h]
  | cons arc arcs ih =>
    obtain ⟨s, t⟩ := arc
    have hstep : successorTable size ((s, t) :: arcs) =
        (successorTable size arcs).modify s (t :: ·) := rfl
    rw [Array.getD_eq_getD_getElem?] at ih
    rw [hstep, Array.getD_eq_getD_getElem?, Array.getElem?_modify]
    by_cases hs : s = v
    · subst hs
      by_cases hv : s < size
      · have hs : s < (successorTable size arcs).size := by rwa [size_successorTable]
        rw [Array.getElem?_eq_getElem hs] at ih ⊢
        simp only [Option.getD_some, hv, true_and] at ih
        simp [hv, ih]
      · have hs : (successorTable size arcs).size ≤ s := by
          rw [size_successorTable]
          exact Nat.not_lt.mp hv
        simp [Array.getElem?_eq_none hs, hv]
    · simp [hs, Ne.symm hs, ih]

variable {nodes : List Node} {edges : List Edge} {a b : Text}

/-- The successors of a place in the search for cycles. -/
def placeSuccessors (nodes : List Node) (edges : List Edge) (v : Nat) : List Nat :=
  (successorTable nodes.length (edges.filterMap (Edge.arc? (Node.places nodes)))).getD v []

theorem Edge.arc?_eq_some (places : Std.HashMap Text Nat) (e : Edge) (v w : Nat) :
    e.arc? places = some (v, w) ↔
      places[e.source]? = some v ∧ places[e.target]? = some w ∧ v ≠ w := by
  unfold Edge.arc?
  split
  · rename_i s t hs ht
    rw [hs, ht]
    by_cases hst : s = t
    · simp only [hst, if_true, reduceCtorEq, Option.some.injEq, false_iff]
      rintro ⟨rfl, rfl, hne⟩
      exact hne rfl
    · simp only [hst, if_false, Option.some.injEq, Prod.mk.injEq]
      constructor
      · rintro ⟨rfl, rfl⟩
        exact ⟨rfl, rfl, hst⟩
      · rintro ⟨rfl, rfl, -⟩
        exact ⟨rfl, rfl⟩
  · rename_i hnone
    simp only [reduceCtorEq, false_iff]
    rintro ⟨hs, ht, -⟩
    exact hnone v w hs ht

theorem arc_placeSuccessors (v w : Nat) :
    Arc (placeSuccessors nodes edges) v w ↔
      ∃ a b, Imports nodes edges a b ∧ (Node.places nodes)[a]? = some v ∧
        (Node.places nodes)[b]? = some w := by
  simp only [Arc, placeSuccessors, mem_successorTable, List.mem_filterMap, Edge.arc?_eq_some]
  constructor
  · rintro ⟨-, e, he, hs, ht, hne⟩
    refine ⟨e.source, e.target, ⟨?_, ?_, ?_, e, he, rfl, rfl⟩, hs, ht⟩
    · intro heq
      rw [heq, ht] at hs
      exact hne (Option.some.inj hs).symm
    · exact Node.exists_place.mp ⟨v, hs⟩
    · exact Node.exists_place.mp ⟨w, ht⟩
  · rintro ⟨a, b, ⟨hne, -, -, e, he, rfl, rfl⟩, hs, ht⟩
    refine ⟨Node.places_lt hs, e, he, hs, ht, ?_⟩
    rintro rfl
    exact hne (Node.places_inj hs ht)

theorem placeSuccessors_bounded (nodes : List Node) (edges : List Edge) :
    Component.Search.Bounded nodes.length (placeSuccessors nodes edges) := by
  intro v _ w harc
  obtain ⟨_, _, _, _, hw⟩ := (arc_placeSuccessors v w).mp harc
  exact Node.places_lt hw

-- -------------------------------------
-- Ids reach each other as their places do
-- -------------------------------------

theorem LeadsTo.places (h : LeadsTo nodes edges a b) (ha : (Node.places nodes)[a]? = some v) :
    ∃ w, (Node.places nodes)[b]? = some w ∧ Reaches (placeSuccessors nodes edges) v w := by
  induction h with
  | refl => exact ⟨v, ha, .refl⟩
  | @tail c d _ himp ih =>
    obtain ⟨u, hu, hvu⟩ := ih
    obtain ⟨w, hw⟩ := Node.exists_place.mpr himp.2.2.1
    exact ⟨w, hw, hvu.tail ((arc_placeSuccessors u w).mpr ⟨c, d, himp, hu, hw⟩)⟩

theorem LeadsTo.of_places (h : Reaches (placeSuccessors nodes edges) v w)
    (ha : (Node.places nodes)[a]? = some v) (hb : (Node.places nodes)[b]? = some w) :
    LeadsTo nodes edges a b := by
  induction h generalizing b with
  | refl => exact Node.places_inj ha hb ▸ .refl
  | tail _ harc ih =>
    obtain ⟨c, d, himp, hc, hd⟩ := (arc_placeSuccessors _ _).mp harc
    cases Node.places_inj hd hb
    exact (ih hc).tail himp

theorem leadsTo_iff (ha : (Node.places nodes)[a]? = some v)
    (hb : (Node.places nodes)[b]? = some w) :
    LeadsTo nodes edges a b ↔ Reaches (placeSuccessors nodes edges) v w := by
  refine ⟨fun h => ?_, fun h => LeadsTo.of_places h ha hb⟩
  obtain ⟨w', hw', hr⟩ := LeadsTo.places h ha
  rw [hb] at hw'
  cases hw'
  exact hr

/-- Ids that lead to each other are known unless they are the same. -/
theorem LeadsTo.exists_places (hne : a ≠ b) (hab : LeadsTo nodes edges a b) :
    ∃ v w, (Node.places nodes)[a]? = some v ∧ (Node.places nodes)[b]? = some w := by
  rcases Relation.ReflTransGen.cases_head hab with heq | ⟨c, himp, -⟩
  · exact absurd heq hne
  · obtain ⟨v, hv⟩ := Node.exists_place.mpr himp.2.1
    obtain ⟨w, hw, -⟩ := LeadsTo.places hab hv
    exact ⟨v, w, hv, hw⟩

-- -------------------------------------
-- Cycles
-- -------------------------------------

/-- The cycle made of the nodes at given places. -/
def Cycle.ofPlaces (nodes : List Node) (places : List Nat) : Cycle :=
  let chosen := places.filterMap (nodes[·]?)
  { ids := chosen.map (·.id), paths := chosen.map (·.path) }

theorem Cycle.find_eq (nodes : List Node) (edges : List Edge) :
    Cycle.find nodes edges =
      ((Component.components nodes.length (placeSuccessors nodes edges)).filter
        (1 < ·.length)).map (Cycle.ofPlaces nodes) := by
  simp only [Cycle.find, List.getElem?_toArray]
  rfl

theorem exists_mem_ne {α : Type} {c : List α} (hn : c.Nodup) (hlen : 1 < c.length) (v : α) :
    ∃ w ∈ c, w ≠ v := by
  match c, hn, hlen with
  | x :: y :: _, hn, _ =>
    by_cases hx : x = v
    · refine ⟨y, by simp, ?_⟩
      rintro rfl
      exact (List.nodup_cons.mp hn).1 (by simp [hx])
    · exact ⟨x, by simp, hx⟩

variable {c : List Nat}

/-- Every place in a component of more than one vertex is the place of an id. -/
theorem exists_id_of_component
    (hc : c ∈ Component.components nodes.length (placeSuccessors nodes edges))
    (hlen : 1 < c.length) (hv : v ∈ c) : ∃ a : Text, (Node.places nodes)[a]? = some v := by
  obtain ⟨hnodup, -, hclass, -⟩ := Component.components_exact (placeSuccessors_bounded nodes edges)
  obtain ⟨w, hw, hne⟩ := exists_mem_ne ((List.nodup_flatten.mp hnodup).1 c hc) hlen v
  rcases Relation.ReflTransGen.cases_head ((hclass c hc v hv w).mp hw).1 with heq | ⟨u, harc, -⟩
  · exact absurd heq.symm hne
  · obtain ⟨a, _, _, ha, _⟩ := (arc_placeSuccessors v u).mp harc
    exact ⟨a, ha⟩

/-- The ids of a cycle have the places that it is made of, and stand for the nodes there. -/
theorem Cycle.ofPlaces_spec (h : ∀ v ∈ c, ∃ a : Text, (Node.places nodes)[a]? = some v) :
    (Cycle.ofPlaces nodes c).ids.map ((Node.places nodes)[·]?) = c.map some ∧
      (Cycle.ofPlaces nodes c).paths.map some =
        (Cycle.ofPlaces nodes c).ids.map fun id => (Node.ofId? nodes id).map (·.path) := by
  induction c with
  | nil => simp [Cycle.ofPlaces]
  | cons v c ih =>
    obtain ⟨hv, hc⟩ := List.forall_mem_cons.mp h
    obtain ⟨a, ha⟩ := hv
    obtain ⟨node, hnode, rfl, hof⟩ := Node.places_eq_some ha
    have hcons : (Cycle.ofPlaces nodes (v :: c)).ids = node.id :: (Cycle.ofPlaces nodes c).ids ∧
        (Cycle.ofPlaces nodes (v :: c)).paths = node.path :: (Cycle.ofPlaces nodes c).paths := by
      simp [Cycle.ofPlaces, hnode]
    obtain ⟨hplaces, hpaths⟩ := ih hc
    simp [hcons.1, hcons.2, ha, hof, hplaces, hpaths]

/-- The ids of a cycle are those with a place in its component. -/
theorem Cycle.mem_ofPlaces (h : ∀ v ∈ c, ∃ a : Text, (Node.places nodes)[a]? = some v) :
    a ∈ (Cycle.ofPlaces nodes c).ids ↔ ∃ v ∈ c, (Node.places nodes)[a]? = some v := by
  have hplaces := (Cycle.ofPlaces_spec h).1
  constructor
  · intro ha
    have hin : (Node.places nodes)[a]? ∈ c.map some := by
      rw [← hplaces]
      exact List.mem_map_of_mem ha
    obtain ⟨v, hv, heq⟩ := List.mem_map.mp hin
    exact ⟨v, hv, heq.symm⟩
  · rintro ⟨v, hv, ha⟩
    have hin : some v ∈ (Cycle.ofPlaces nodes c).ids.map ((Node.places nodes)[·]?) := by
      rw [hplaces]
      exact List.mem_map_of_mem hv
    obtain ⟨b, hb, heq⟩ := List.mem_map.mp hin
    exact Node.places_inj heq ha ▸ hb

theorem Cycle.mem_find : cycle ∈ Cycle.find nodes edges ↔
    ∃ c ∈ Component.components nodes.length (placeSuccessors nodes edges), 1 < c.length ∧
      Cycle.ofPlaces nodes c = cycle := by
  simp [Cycle.find_eq, and_assoc]

/-- The members of a cycle are the ids that lead to one of them and back. -/
theorem Cycle.mem_ids_iff (hc : cycle ∈ Cycle.find nodes edges) (ha : a ∈ cycle.ids) :
    b ∈ cycle.ids ↔ LeadsTo nodes edges a b ∧ LeadsTo nodes edges b a := by
  obtain ⟨c, hcomp, hlen, rfl⟩ := Cycle.mem_find.mp hc
  have hids := fun v (hv : v ∈ c) => exists_id_of_component hcomp hlen hv
  obtain ⟨-, -, hclass, -⟩ := Component.components_exact (placeSuccessors_bounded nodes edges)
  obtain ⟨v, hv, hav⟩ := (Cycle.mem_ofPlaces hids).mp ha
  rw [Cycle.mem_ofPlaces hids]
  constructor
  · rintro ⟨w, hw, hbw⟩
    rw [leadsTo_iff hav hbw, leadsTo_iff hbw hav]
    exact (hclass c hcomp v hv w).mp hw
  · rintro ⟨hab, hba⟩
    obtain ⟨w, hbw, hvw⟩ := LeadsTo.places hab hav
    exact ⟨w, (hclass c hcomp v hv w).mpr ⟨hvw, (leadsTo_iff hbw hav).mp hba⟩, hbw⟩

/-- Two ids that lead to each other lie on a cycle. -/
theorem Cycle.exists_of_leadsTo (hne : a ≠ b) (hab : LeadsTo nodes edges a b)
    (hba : LeadsTo nodes edges b a) :
    ∃ cycle ∈ Cycle.find nodes edges, a ∈ cycle.ids ∧ b ∈ cycle.ids := by
  obtain ⟨v, w, hav, hbw⟩ := LeadsTo.exists_places hne hab
  obtain ⟨-, hcover, hclass, -⟩ := Component.components_exact (placeSuccessors_bounded nodes edges)
  obtain ⟨c, hcomp, hv⟩ := List.mem_flatten.mp ((hcover v).mpr (Node.places_lt hav))
  have hw : w ∈ c := (hclass c hcomp v hv w).mpr
    ⟨(leadsTo_iff hav hbw).mp hab, (leadsTo_iff hbw hav).mp hba⟩
  have hlen : 1 < c.length := by
    match c, hv, hw with
    | [x], hv, hw =>
      rw [List.mem_singleton] at hv hw
      subst hv hw
      exact absurd (Node.places_inj hav hbw) hne
    | _ :: _ :: _, _, _ => simp
  have hids := fun v (hv : v ∈ c) => exists_id_of_component hcomp hlen hv
  refine ⟨_, Cycle.mem_find.mpr ⟨c, hcomp, hlen, rfl⟩, ?_, ?_⟩
  · exact (Cycle.mem_ofPlaces hids).mpr ⟨v, hv, hav⟩
  · exact (Cycle.mem_ofPlaces hids).mpr ⟨w, hw, hbw⟩

theorem Cycle.nodup_ids (nodes : List Node) (edges : List Edge) :
    ((Cycle.find nodes edges).flatMap (·.ids)).Nodup := by
  obtain ⟨hnodup, -⟩ := Component.components_exact (placeSuccessors_bounded nodes edges)
  have hplaces : ((Cycle.find nodes edges).flatMap (·.ids)).map ((Node.places nodes)[·]?) =
      ((Component.components nodes.length (placeSuccessors nodes edges)).filter
        (1 < ·.length)).flatten.map some := by
    rw [Cycle.find_eq, List.flatMap_map, List.map_flatMap, List.map_flatten, List.flatMap]
    refine congrArg List.flatten (List.map_congr_left fun c hc => ?_)
    obtain ⟨hcomp, hlen⟩ := List.mem_filter.mp hc
    exact (Cycle.ofPlaces_spec fun v hv =>
      exists_id_of_component hcomp (of_decide_eq_true hlen) hv).1
  apply List.Nodup.of_map ((Node.places nodes)[·]?)
  rw [hplaces]
  exact (hnodup.sublist List.filter_sublist.flatten).map (Option.some_injective Nat)

theorem Cycle.length_ids (hc : cycle ∈ Cycle.find nodes edges) : 2 ≤ cycle.ids.length := by
  obtain ⟨c, hcomp, hlen, rfl⟩ := Cycle.mem_find.mp hc
  have hplaces := (Cycle.ofPlaces_spec fun v hv => exists_id_of_component hcomp hlen hv).1
  have hlength := congrArg List.length hplaces
  simp only [List.length_map] at hlength
  omega

theorem Cycle.paths_eq (hc : cycle ∈ Cycle.find nodes edges) :
    cycle.paths.map some = cycle.ids.map fun id => (Node.ofId? nodes id).map (·.path) := by
  obtain ⟨c, hcomp, hlen, rfl⟩ := Cycle.mem_find.mp hc
  exact (Cycle.ofPlaces_spec fun v hv => exists_id_of_component hcomp hlen hv).2

/-- The cycles of a graph are exactly its strongly connected components of two members and more: a
cycle holds the ids that lead to one of its members and back, and two ids that lead to each other
are on a cycle. No id occurs twice, and each path is that of the node its id stands for. -/
theorem Cycle.find_exact (nodes : List Node) (edges : List Edge) :
    (∀ a b, a ≠ b → ((∃ cycle ∈ Cycle.find nodes edges, a ∈ cycle.ids ∧ b ∈ cycle.ids) ↔
      LeadsTo nodes edges a b ∧ LeadsTo nodes edges b a)) ∧
    (∀ cycle ∈ Cycle.find nodes edges, ∀ a ∈ cycle.ids, ∀ b,
      b ∈ cycle.ids ↔ LeadsTo nodes edges a b ∧ LeadsTo nodes edges b a) ∧
    ((Cycle.find nodes edges).flatMap (·.ids)).Nodup ∧
    (∀ cycle ∈ Cycle.find nodes edges, 2 ≤ cycle.ids.length) ∧
    (∀ cycle ∈ Cycle.find nodes edges,
      cycle.paths.map some = cycle.ids.map fun id => (Node.ofId? nodes id).map (·.path)) := by
  refine ⟨?_, fun cycle hc a ha b => Cycle.mem_ids_iff hc ha, Cycle.nodup_ids nodes edges,
    fun cycle hc => Cycle.length_ids hc, fun cycle hc => Cycle.paths_eq hc⟩
  intro a b hne
  constructor
  · rintro ⟨cycle, hc, ha, hb⟩
    exact (Cycle.mem_ids_iff hc ha).mp hb
  · rintro ⟨hab, hba⟩
    exact Cycle.exists_of_leadsTo hne hab hba

end RepoAtlas
