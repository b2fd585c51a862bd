import RepoAtlas.Analysis.Findings
import RepoAtlas.Proofs.Analysis.Batch

/-!
# The findings of all files

The findings of a file are what its own text gives, and its targets are the files that its imports
refer to, in the order of the imports.
-/

namespace RepoAtlas

namespace Node

/-- The imports of a file in the order of its text; none where they cannot be read. -/
def imports (registry : Registry) (content : Text) (node : Node) : List Import :=
  match registry.find? node.extension with
  | none => []
  | some language => match Import.extract language content with
    | .ok imports => imports
    | .error _ => []

/-- The file that an import of a node refers to. -/
def importedFile? (registry : Registry) (index : FileIndex) (node : Node) (i : Import) :
    Option Text :=
  (registry.find? node.extension).bind fun language => index.resolve language node.path i.path

end Node

namespace Findings

variable {registry : Registry} {order : List Nat → List Nat} {index : FileIndex} {node : Node}

/-- What is found in the text of a node. -/
def ofText (registry : Registry) (index : FileIndex) (content : Text) (node : Node) : Findings :=
  orLayer node (ofNode registry index content node)

theorem allWith_eq (inspect : Inspection) (horder : ∀ places, (order places).Perm places)
    (hsize : 0 < batchSize) (content : Node → Text) (nodes : List Node) :
    allWith inspect registry order batchSize content nodes = nodes.map fun node =>
      orLayer node (inspect
        (FileIndex.ofList registry (nodes.map fun node => (node.path, node.id)))
        (content node) node) := by
  have hitems : (List.range nodes.length).map (fun i => nodes[i]?) = nodes.map some := by
    apply List.ext_getElem?
    intro j
    by_cases hj : j < nodes.length <;> simp [hj]
  have hwork : ∀ f : Node → Findings, (List.range nodes.length).filterMap
      (fun i => nodes[i]?.map f) = nodes.map f := by
    intro f
    have h := congrArg (List.filterMap (Option.map f)) hitems
    simpa [List.filterMap_map, Function.comp_def] using h
  simp only [allWith]
  rw [Batch.collect_eq horder _ hsize, List.filterMap_map, ← hwork]
  simp only [List.getElem?_toArray]
  rfl

theorem all_eq (horder : ∀ places, (order places).Perm places) (hsize : 0 < batchSize)
    (content : Node → Text) (nodes : List Node) :
    all registry order batchSize content nodes = nodes.map fun node =>
      ofText registry (FileIndex.ofList registry (nodes.map fun node => (node.path, node.id)))
        (content node) node :=
  allWith_eq (ofNode registry) horder hsize content nodes

theorem targets_ofText (content : Text) :
    (ofText registry index content node).targets =
      (node.imports registry content).filterMap fun i =>
        (node.importedFile? registry index i).bind fun id =>
          if id.isEmpty || id == node.id then none else some ⟨id, i.names⟩ := by
  unfold ofText ofNode targetsOf Node.imports Node.importedFile?
  cases hl : registry.find? node.extension with
  | none => rfl
  | some language =>
    cases he : Import.extract language content with
    | error fault => simp [he, bind, Except.bind, orLayer]
    | ok imports => simp [he, bind, Except.bind, orLayer, pure, Except.pure]

/-- The targets of a file are the other files that it imports. -/
theorem mem_targets_iff (content : Text) :
    t ∈ (ofText registry index content node).targets.map (·.id) ↔
      t ≠ [] ∧ t ≠ node.id ∧
        ∃ i ∈ node.imports registry content, node.importedFile? registry index i = some t := by
  rw [targets_ofText]
  constructor
  · intro h
    obtain ⟨target, htarget, rfl⟩ := List.mem_map.mp h
    obtain ⟨i, hi, hsome⟩ := List.mem_filterMap.mp htarget
    obtain ⟨id, hid, hkept⟩ := Option.bind_eq_some_iff.mp hsome
    split at hkept
    · cases hkept
    · rename_i hother
      cases hkept
      simp only [List.isEmpty_iff, Bool.or_eq_true, beq_iff_eq, not_or] at hother
      exact ⟨hother.1, hother.2, i, hi, hid⟩
  · rintro ⟨hne, hself, i, hi, hid⟩
    refine List.mem_map.mpr ⟨⟨t, i.names⟩, List.mem_filterMap.mpr ⟨i, hi, ?_⟩, rfl⟩
    simp [hid, hne, hself]

theorem names_targets (content : Text) (hne : t ≠ []) (hself : t ≠ node.id) :
    ((ofText registry index content node).targets.filter (·.id == t)).flatMap (·.names) =
      ((node.imports registry content).filter fun i =>
        node.importedFile? registry index i = some t).flatMap (·.names) := by
  rw [targets_ofText]
  induction node.imports registry content with
  | nil => rfl
  | cons i imports ih =>
    cases hid : node.importedFile? registry index i with
    | none => simpa [hid] using ih
    | some id =>
      by_cases ht : id = t
      · subst ht
        simpa [hid, hne, hself] using ih
      · -- Whether or not the file counts as a target, it is not the one in question.
        by_cases hdrop : id = [] ∨ id = node.id <;> simpa [hid, hdrop, ht] using ih

end Findings

end RepoAtlas
