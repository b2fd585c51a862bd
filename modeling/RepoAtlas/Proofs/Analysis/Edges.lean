import Mathlib.Data.List.Flatten
import RepoAtlas.Analysis.Edges
import RepoAtlas.Proofs.Grouping

/-!
# Edges and fans

There is one edge for each file and each of its targets, with the names of all imports of that
target, each once. The fans of the nodes count these edges.
-/

namespace RepoAtlas

namespace Edge

variable {labels : Std.HashMap Text Text} {node : Node} {nodes : List Node}
  {found : Node → Findings}

/-- The edge from a node to a target. -/
def between (labels : Std.HashMap Text Text) (node : Node) (target : Text) (names : List Text) :
    Edge where
  id := node.id ++ '-' :: target
  source := node.id
  target := target
  label := some (node.label ++ " → ".toList ++ labels.getD target [])
  names := names

theorem merge_between (old new : List Text) :
    (between labels node t old.eraseDups).merge new =
      between labels node t (old ++ new).eraseDups := by
  rw [← Grouping.foldl_add_new]
  rfl

theorem addTarget_eq_upsert (edges : List Edge) (t : Target) :
    addTarget labels node edges t = Grouping.upsert (·.target == t.id) (·.merge t.names)
      ((between labels node t.id []).merge t.names) edges := by
  induction edges with
  | nil => rfl
  | cons edge edges ih => rw [addTarget, Grouping.upsert, ih]

/-- The names imported from a target, each once. -/
def namesFrom (targets : List Target) (t : Text) : List Text :=
  ((targets.filter (·.id == t)).flatMap (·.names)).eraseDups

theorem foldl_addTarget (targets : List Target) :
    targets.foldl (addTarget labels node) [] =
      (targets.map (·.id)).eraseDups.map fun t => between labels node t (namesFrom targets t) := by
  refine Grouping.foldl_upsert (·.id) (·.target)
    (fun t ts => between labels node t (ts.flatMap (·.names)).eraseDups)
    addTarget_eq_upsert (fun _ _ => rfl) (fun t => ?_) (fun t ts => ?_) targets
  · simpa using merge_between [] t.names
  · simpa using merge_between (ts.flatMap (·.names)) t.names

theorem ofFindings_map (nodes : List Node) (found : Node → Findings) :
    ofFindings nodes (nodes.map found) = nodes.flatMap fun node =>
      ((found node).targets.map (·.id)).eraseDups.map fun t =>
        between (Std.HashMap.ofList (nodes.map fun node => (node.id, node.label))) node t
          (namesFrom (found node).targets t) := by
  have hzip : nodes.zip (nodes.map found) = nodes.map fun node => (node, found node) := by
    induction nodes with
    | nil => rfl
    | cons node nodes ih => simp [ih]
  simp only [ofFindings, hzip, List.flatMap_map, foldl_addTarget]

theorem mem_ofFindings (he : e ∈ ofFindings nodes (nodes.map found)) :
    ∃ node ∈ nodes, e.source = node.id ∧ e.target ∈ (found node).targets.map (·.id) ∧
      e.names = namesFrom (found node).targets e.target := by
  rw [ofFindings_map, List.mem_flatMap] at he
  obtain ⟨node, hnode, he⟩ := he
  obtain ⟨t, ht, rfl⟩ := List.mem_map.mp he
  exact ⟨node, hnode, rfl, List.mem_eraseDups.mp ht, rfl⟩

theorem exists_mem_ofFindings (hnode : node ∈ nodes)
    (ht : t ∈ (found node).targets.map (·.id)) :
    ∃ e ∈ ofFindings nodes (nodes.map found), e.source = node.id ∧ e.target = t := by
  rw [ofFindings_map]
  refine ⟨_, List.mem_flatMap.mpr ⟨node, hnode, List.mem_map.mpr ⟨t, ?_, rfl⟩⟩, rfl, rfl⟩
  exact List.mem_eraseDups.mpr ht

theorem nodup_ofFindings (hids : (nodes.map (·.id)).Nodup) :
    ((ofFindings nodes (nodes.map found)).map fun e => (e.source, e.target)).Nodup := by
  rw [ofFindings_map, List.map_flatMap, List.nodup_flatMap]
  constructor
  · intro node _
    rw [List.map_map]
    refine (Grouping.nodup_eraseDups _).map fun s t h => ?_
    exact (Prod.mk.inj h).2
  · refine (List.pairwise_map.mp hids).imp fun {a b} hab => ?_
    intro pair ha hb
    simp only [List.map_map, List.mem_map] at ha hb
    obtain ⟨s, -, rfl⟩ := ha
    obtain ⟨t, -, ht⟩ := hb
    exact hab (Prod.mk.inj ht).1.symm

end Edge

-- -------------------------------------
-- Fans
-- -------------------------------------

theorem getD_countAll (ts : List Text) (t : Text) : (countAll ts).getD t 0 = ts.count t := by
  induction ts using List.reverseRecOn with
  | nil => simp [countAll]
  | append_singleton ts s ih =>
    have hstep : countAll (ts ++ [s]) =
        (countAll ts).insert s ((countAll ts).getD s 0 + 1) := by
      simp [countAll]
    rw [hstep, Std.HashMap.getD_insert]
    by_cases hs : s = t
    · subst hs
      simp [ih]
    · simp [hs, ih]

theorem Node.withFans_eq (edges : List Edge) (nodes : List Node) :
    Node.withFans edges nodes = nodes.map fun node =>
      { node with
        fanIn := (edges.map (·.target)).count node.id
        fanOut := (edges.map (·.source)).count node.id } := by
  simp only [Node.withFans, getD_countAll]

/-- How often the given ids occur in a list, taken together. -/
def totalCount (ids ts : List Text) : Int :=
  (ids.map fun id => (ts.count id : Int)).foldr (· + ·) 0

theorem totalCount_cons {ids : List Text} (hnodup : ids.Nodup) (t : Text) (ts : List Text) :
    totalCount ids (t :: ts) = totalCount ids ts + if t ∈ ids then 1 else 0 := by
  unfold totalCount
  induction ids with
  | nil => simp
  | cons id ids ih =>
    obtain ⟨hid, hnodup⟩ := List.nodup_cons.mp hnodup
    rw [List.map_cons, List.foldr_cons, ih hnodup, List.map_cons, List.foldr_cons]
    by_cases ht : t = id
    · subst ht
      simp only [List.count_cons_self, hid, if_false, List.mem_cons, true_or, if_true]
      omega
    · simp only [List.count_cons_of_ne ht, List.mem_cons, ht, false_or]
      omega

/-- Different ids that cover a list occur in it as often as it is long. -/
theorem totalCount_eq_length {ids : List Text} (hnodup : ids.Nodup) {ts : List Text}
    (hall : ∀ t ∈ ts, t ∈ ids) : totalCount ids ts = ts.length := by
  induction ts with
  | nil =>
    unfold totalCount
    induction ids with
    | nil => rfl
    | cons id ids ih => simpa using ih (List.nodup_cons.mp hnodup).2 (by simp)
  | cons t ts ih =>
    obtain ⟨ht, hall⟩ := List.forall_mem_cons.mp hall
    rw [totalCount_cons hnodup, ih hall, if_pos ht, List.length_cons]
    omega

end RepoAtlas
