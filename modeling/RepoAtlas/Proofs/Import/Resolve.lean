import RepoAtlas.Import.Resolve

/-!
# Imports resolve to files of the index

Whatever a target looks like and however its language finds files, the id it is resolved to is the
id of a file that the index was made from.
-/

namespace RepoAtlas.FileIndex

variable {index : FileIndex} {language : Language} {id : Text}

/-- A file of the index has the given id. -/
def Knows (index : FileIndex) (id : Text) : Prop := ∃ file : Path, index.ids[file]? = some id

theorem id?_known (h : index.id? file = some id) : index.Knows id := by
  unfold id? at h
  split at h
  · rename_i found hfile
    split at h
    · cases h
    · cases h
      exact ⟨file, hfile⟩
  · cases h

theorem probe_known (h : index.probe language candidate = some id) : index.Knows id := by
  simp only [probe] at h
  split at h
  · cases h
  · obtain ⟨spot, -, hspot⟩ := List.exists_of_findSome?_eq_some h
    exact id?_known hspot

theorem probeBelow_known (h : index.probeBelow language target roots = some id) :
    index.Knows id := by
  obtain ⟨root, -, hroot⟩ := List.exists_of_findSome?_eq_some h
  exact probe_known hroot

theorem resolveDotted_known (h : index.resolveDotted language folder target = some id) :
    index.Knows id := by
  simp only [resolveDotted] at h
  split at h
  · exact probeBelow_known h
  · exact probe_known h

theorem resolveNested_known (h : index.resolveNested language folder target = some id) :
    index.Knows id := by
  simp only [resolveNested] at h
  obtain ⟨segments, -, hprobe⟩ := List.exists_of_findSome?_eq_some h
  exact probe_known hprobe

theorem resolveModule_known (h : index.resolveModule language target = some id) :
    index.Knows id := by
  obtain ⟨file, -, hfile⟩ := Option.bind_eq_some_iff.mp h
  exact ⟨file, hfile⟩

theorem resolve_known (h : index.resolve language source path = some id) : index.Knows id := by
  simp only [resolve] at h
  split at h
  · cases h
  · split at h
    · exact probeBelow_known h
    · split at h
      · exact probe_known h
      · split at h
        · exact probe_known h
        · cases hs : language.strategy with
          | relative => exact probeBelow_known (by simpa only [hs] using h)
          | header => exact probeBelow_known (by simpa only [hs] using h)
          | dotted => exact resolveDotted_known (by simpa only [hs] using h)
          | nested => exact resolveNested_known (by simpa only [hs] using h)
          | modulePath => exact resolveModule_known (by simpa only [hs] using h)

/-- The last id given for a path counts. -/
theorem ids_ofList (registry : Registry) (entries : List (Path × Text)) (file : Path) :
    (ofList registry entries).ids[file]? = entries.reverse.lookup file := by
  rw [ofList, Std.HashMap.ofList_eq_insertMany_empty, Std.HashMap.getElem?_insertMany_list,
    Std.HashMap.getElem?_empty, Option.or_none, List.findSomeRev?_eq_findSome?_reverse]
  induction entries.reverse with
  | nil => rfl
  | cons entry rest ih =>
    obtain ⟨other, id⟩ := entry
    by_cases hfile : file = other
    · simp [hfile]
    · have hne : (file == other) = false := by simpa using hfile
      simpa [List.lookup_cons, hne, Ne.symm hfile] using ih

theorem id?_ofList (registry : Registry) (entries : List (Path × Text)) :
    (ofList registry entries).id? = fun file =>
      (entries.reverse.lookup file).filter fun id => !id.isEmpty := by
  funext file
  rw [id?, ids_ofList]
  cases entries.reverse.lookup file with
  | none => rfl
  | some id => cases id <;> rfl

/-- The index knows only what it was made from. -/
theorem Knows.mem (h : (ofList registry entries).Knows id) : id ∈ entries.map Prod.snd := by
  obtain ⟨file, hfile⟩ := h
  rw [ids_ofList] at hfile
  obtain ⟨front, back, hsplit, -⟩ := List.lookup_eq_some_iff.mp hfile
  have hmem : (file, id) ∈ entries := List.mem_reverse.mp (by simp [hsplit])
  exact List.mem_map_of_mem hmem

end RepoAtlas.FileIndex
