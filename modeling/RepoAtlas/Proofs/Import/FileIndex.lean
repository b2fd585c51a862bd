import Mathlib.Data.List.Nodup
import RepoAtlas.Proofs.Import.Resolve
import RepoAtlas.Proofs.Text.Basic

/-!
# The groups of a file index

Under a language and a key the index groups the files of that language whose paths, or whose
folders, end in the key. They stand in the order of their paths, each one once, and all of them
have an id.
-/

namespace RepoAtlas

namespace Path

theorem ofSegments_cons (s : Text) (hrest : rest ≠ []) :
    ofSegments (s :: rest) = s ++ '/' :: ofSegments rest := by
  cases rest with
  | nil => exact absurd rfl hrest
  | cons next rest => rfl

/-- Segments without slashes can be read off the path that they make. -/
theorem segments_ofSegments {l : List Text} (hne : l ≠ []) (h : ∀ s ∈ l, '/' ∉ s) :
    segments (ofSegments l) = l := by
  induction l with
  | nil => exact absurd rfl hne
  | cons s rest ih =>
    obtain ⟨hs, hrest⟩ := List.forall_mem_cons.mp h
    cases rest with
    | nil => simpa [ofSegments, segments] using Text.splitOn_of_not_mem hs
    | cons next rest =>
      rw [ofSegments_cons s (by simp), segments, Text.splitOn_append, Text.splitOn_of_not_mem hs]
      exact congrArg (s :: ·) (ih (by simp) hrest)

end Path

namespace FileIndex

variable {registry : Registry} {entries : List (Path × Text)} {name key : Text} {file : Path}

/-- Endings of different lengths differ. -/
theorem nodup_endings {segments : List Text} (h : ∀ s ∈ segments, '/' ∉ s) :
    (endings segments).Nodup := by
  unfold endings
  refine List.Nodup.map_on ?_ List.nodup_range
  intro i hi j hj heq
  rw [List.mem_range] at hi hj
  have hsegments : ∀ i < min maxSegments segments.length,
      Path.segments (Path.ofSegments
        (segments.drop (segments.length - (min maxSegments segments.length - i)))) =
        segments.drop (segments.length - (min maxSegments segments.length - i)) := by
    intro i hi
    refine Path.segments_ofSegments ?_ fun s hs => h s (List.mem_of_mem_drop hs)
    rw [ne_eq, List.drop_eq_nil_iff]
    omega
  have hlength := congrArg List.length (congrArg Path.segments heq)
  rw [hsegments i hi, hsegments j hj, List.length_drop, List.length_drop] at hlength
  omega

theorem slashless_stemSegments (file : Path) : ∀ s ∈ stemSegments file, '/' ∉ s :=
  fun _ hs => Text.not_mem_of_mem_splitOn hs

/-- A file is added once to each group of its language whose key is among the given ones. -/
theorem getD_foldl_addTo {keys : List Path} (hkeys : keys.Nodup) (owner : Text)
    (groups : PathGroups) :
    (keys.foldl (addTo owner file) groups).getD (name, key) [] =
      if owner = name ∧ key ∈ keys then file :: groups.getD (name, key) []
      else groups.getD (name, key) [] := by
  induction keys generalizing groups with
  | nil => simp
  | cons first keys ih =>
    obtain ⟨hfirst, hkeys⟩ := List.nodup_cons.mp hkeys
    rw [List.foldl_cons, ih hkeys, addTo, Std.HashMap.getD_insert]
    by_cases howner : owner = name
    · subst howner
      by_cases hkey : first = key
      · subst hkey
        simp [hfirst]
      · have hkey' : key ≠ first := Ne.symm hkey
        simp [hkey, hkey']
    · simp [howner]

/-- Whether a file stands under the name of a language and a key, given the keys of each file. -/
def isUnder (registry : Registry) (keysOf : Path → List Path) (name key : Text)
    (file : Path) : Bool :=
  groupedBy? registry file == some name && (keysOf file).contains key

/-- The keys under which a file stands. -/
def fileKeys (file : Path) : List Path := endings (stemSegments file)

/-- The keys under which a file stands for its folder. -/
def folderKeys (file : Path) : List Path := endings (stemSegments file).dropLast

theorem nodup_fileKeys (file : Path) : (fileKeys file).Nodup :=
  nodup_endings (slashless_stemSegments file)

theorem nodup_folderKeys (file : Path) : (folderKeys file).Nodup :=
  nodup_endings fun s hs => slashless_stemSegments file s ((List.dropLast_sublist _).subset hs)

theorem getD_addFile (groups : PathGroups) :
    (addFile registry file groups).getD (name, key) [] =
      if isUnder registry fileKeys name key file then file :: groups.getD (name, key) []
      else groups.getD (name, key) [] := by
  unfold addFile isUnder
  cases groupedBy? registry file with
  | none => simp
  | some owner =>
    show ((fileKeys file).foldl (addTo owner file) groups).getD (name, key) [] = _
    rw [getD_foldl_addTo (nodup_fileKeys file)]
    simp

theorem getD_addFolder (groups : PathGroups) :
    (addFolder registry file groups).getD (name, key) [] =
      if isUnder registry folderKeys name key file then file :: groups.getD (name, key) []
      else groups.getD (name, key) [] := by
  unfold addFolder isUnder
  cases groupedBy? registry file with
  | none => simp
  | some owner =>
    show ((folderKeys file).foldl (addTo owner file) groups).getD (name, key) [] = _
    rw [getD_foldl_addTo (nodup_folderKeys file)]
    simp

/-- All files of an index in the order of their paths. -/
def sortedFiles (entries : List (Path × Text)) : List Path :=
  (Std.HashMap.ofList entries).keys.mergeSort Text.le

theorem getD_files : (ofList registry entries).files.getD (name, key) [] =
    (sortedFiles entries).filter (isUnder registry fileKeys name key) := by
  simp only [ofList, sortedFiles]
  -- The induction is over the sorted files, which are added from the last one on.
  induction (Std.HashMap.ofList entries).keys.mergeSort Text.le with
  | nil => exact Std.HashMap.getD_empty
  | cons file files ih =>
    rw [List.foldr_cons, List.filter_cons, ← ih]
    exact getD_addFile _

theorem getD_folders : (ofList registry entries).folders.getD (name, key) [] =
    (sortedFiles entries).filter (isUnder registry folderKeys name key) := by
  simp only [ofList, sortedFiles]
  induction (Std.HashMap.ofList entries).keys.mergeSort Text.le with
  | nil => exact Std.HashMap.getD_empty
  | cons file files ih =>
    rw [List.foldr_cons, List.filter_cons, ← ih]
    exact getD_addFolder _

/-- The id that entries give to a path; the last one counts. -/
def givenId? (entries : List (Path × Text)) (file : Path) : Option Text :=
  entries.reverse.lookup file

theorem mem_sortedFiles : file ∈ sortedFiles entries ↔ ∃ id, givenId? entries file = some id := by
  rw [sortedFiles, List.mem_mergeSort, Std.HashMap.mem_keys, Std.HashMap.mem_iff_isSome_getElem?,
    Option.isSome_iff_exists, givenId?, ← ids_ofList {} entries]
  rfl

-- -------------------------------------
-- What stands for a key
-- -------------------------------------

theorem packageFile_mem {members : List Path} (h : packageFile members = some file) :
    file ∈ members := by
  unfold packageFile at h
  obtain ⟨first, -, h⟩ := Option.bind_eq_some_iff.mp h
  simp only [Option.orElse_eq_orElse, Option.orElse_eq_or, Option.or_eq_some_iff] at h
  have hinside : file ∈ members.filter fun m => Path.parent m == Path.parent first := by
    rcases h with h | ⟨-, h | ⟨-, h⟩⟩
    · exact List.mem_of_find?_eq_some h
    · exact List.mem_of_find?_eq_some h
    · exact List.mem_of_mem_head? h
  exact (List.mem_filter.mp hinside).1

/-- The first member lies in its own folder, so that there is always something to choose. -/
theorem packageFile_isSome {members : List Path} (h : members ≠ []) :
    (packageFile members).isSome := by
  obtain ⟨first, rest, rfl⟩ := List.exists_cons_of_ne_nil h
  unfold packageFile
  simp

variable {language : Language}

theorem fileFor_mem (h : (ofList registry entries).fileFor language key = some file) :
    file ∈ sortedFiles entries := by
  simp only [fileFor, getD_files, getD_folders, Option.orElse_eq_orElse, Option.orElse_eq_or,
    Option.or_eq_some_iff] at h
  rcases h with h | ⟨-, h⟩
  · exact (List.mem_filter.mp (List.mem_of_mem_head? h)).1
  · exact (List.mem_filter.mp (packageFile_mem h)).1

/-- A key stands for a file as soon as the path or the folder of some file ends in it. -/
theorem fileFor_isSome_iff : ((ofList registry entries).fileFor language key).isSome ↔
    ∃ file ∈ sortedFiles entries, isUnder registry fileKeys language.name key file = true ∨
      isUnder registry folderKeys language.name key file = true := by
  simp only [fileFor, getD_files, getD_folders, Option.orElse_eq_orElse, Option.orElse_eq_or,
    Option.isSome_or, Bool.or_eq_true]
  constructor
  · rintro (h | h)
    · obtain ⟨file, hfile⟩ := Option.isSome_iff_exists.mp h
      obtain ⟨hmem, hunder⟩ := List.mem_filter.mp (List.mem_of_mem_head? hfile)
      exact ⟨file, hmem, .inl hunder⟩
    · obtain ⟨file, hfile⟩ := Option.isSome_iff_exists.mp h
      obtain ⟨hmem, hunder⟩ := List.mem_filter.mp (packageFile_mem hfile)
      exact ⟨file, hmem, .inr hunder⟩
  · rintro ⟨file, hmem, hunder | hunder⟩
    · refine .inl (List.isSome_head?.mpr ?_)
      exact List.ne_nil_of_mem (List.mem_filter.mpr ⟨hmem, hunder⟩)
    · refine .inr (packageFile_isSome ?_)
      exact List.ne_nil_of_mem (List.mem_filter.mpr ⟨hmem, hunder⟩)

end FileIndex

end RepoAtlas
