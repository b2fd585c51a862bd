import RepoAtlas.Language.Stock
import RepoAtlas.Proofs.Import.FileIndex

/-!
# Resolution in a growing repository

Which paths an import may stand for, and in which order they are tried, does not depend on the
files that there are. Files that are added can hence only come in front of the file that an import
referred to: `FileIndex.resolve_grows`.
-/

namespace RepoAtlas.FileIndex

variable {registry : Registry} {entries more : List (Path × Text)} {language : Language}
  {file : Path} {id : Text}

-- -------------------------------------
-- What is tried
-- -------------------------------------

/-- The paths that a candidate may stand for; none outside the repository. -/
def places (language : Language) (candidate : Path) : List Path :=
  let p := Path.normalize candidate
  if p == ['.', '.'] || Text.startsWith "../" p then [] else spots language p

theorem probe_eq (index : FileIndex) (candidate : Path) :
    index.probe language candidate = (places language candidate).findSome? index.id? := by
  unfold probe places
  simp only
  split <;> rfl

theorem findSome?_probe (index : FileIndex) (candidates : List Path) :
    candidates.findSome? (index.probe language) =
      (candidates.flatMap (places language)).findSome? index.id? := by
  induction candidates with
  | nil => rfl
  | cons candidate candidates ih =>
    rw [List.flatMap_cons, List.findSome?_append, ← ih, ← probe_eq, List.findSome?_cons]
    cases index.probe language candidate <;> rfl

/-- A way to resolve that tries certain paths one after the other, whatever files there are. -/
def TriesPaths (resolve : FileIndex → Option Text) : Prop :=
  ∃ tried : List Path, ∀ index, resolve index = tried.findSome? index.id?

namespace TriesPaths

theorem nothing : TriesPaths fun _ => none := ⟨[], fun _ => rfl⟩

theorem probe (language : Language) (candidate : Path) :
    TriesPaths fun index => index.probe language candidate :=
  ⟨places language candidate, fun index => probe_eq index candidate⟩

theorem probes {α : Type} (language : Language) (l : List α) (candidate : α → Path) :
    TriesPaths fun index => l.findSome? fun a => index.probe language (candidate a) := by
  refine ⟨(l.map candidate).flatMap (places language), fun index => ?_⟩
  rw [← findSome?_probe, List.findSome?_map]
  rfl

theorem probeBelow (language : Language) (target : Path) (roots : List Path) :
    TriesPaths fun index => index.probeBelow language target roots :=
  probes language roots (Path.join · target)

theorem resolveDotted (language : Language) (folder target : Text) :
    TriesPaths fun index => index.resolveDotted language folder target := by
  simp only [FileIndex.resolveDotted]
  split
  · exact probeBelow _ _ _
  · exact probe _ _

theorem resolveNested (language : Language) (folder target : Text) :
    TriesPaths fun index => index.resolveNested language folder target :=
  probes language _ (Path.joinAll _)

end TriesPaths

/-- Whatever a target looks like, it is looked for at certain paths one after the other, unless its
language has it looked for among the ends of all paths. -/
theorem resolve_cases (language : Language) (source : Path) (path : Text) :
    TriesPaths (fun index => index.resolve language source path) ∨
    language.strategy = .modulePath ∧ ∃ target, ∀ index : FileIndex,
      index.resolve language source path = index.resolveModule language target := by
  simp only [resolve]
  split
  · exact .inl .nothing
  · split
    · exact .inl (.probeBelow _ _ _)
    · split
      · exact .inl (.probe _ _)
      · split
        · exact .inl (.probe _ _)
        · cases hs : language.strategy with
          | relative => exact .inl (.probeBelow _ _ _)
          | header => exact .inl (.probeBelow _ _ _)
          | dotted => exact .inl (.resolveDotted _ _ _)
          | nested => exact .inl (.resolveNested _ _ _)
          | modulePath => exact .inr ⟨rfl, _, fun _ => rfl⟩

-- -------------------------------------
-- Adding files
-- -------------------------------------

/-- Entries that give every path of other ones the same id. -/
def Extends (more entries : List (Path × Text)) : Prop :=
  ∀ file id, givenId? entries file = some id → givenId? more file = some id

theorem id?_eq_some_iff {entries : List (Path × Text)} :
    (ofList registry entries).id? file = some id ↔ givenId? entries file = some id ∧ id ≠ [] := by
  rw [id?_ofList]
  simp [givenId?, Option.filter_eq_some_iff]

/-- The first of several paths that has a file keeps it or gives way to a path that had none. -/
theorem findSome?_grows (hext : Extends more entries) {tried : List Path}
    (h : tried.findSome? (ofList registry entries).id? = some id) :
    ∃ id', tried.findSome? (ofList registry more).id? = some id' ∧
      (id' ≠ id → ∃ file, givenId? more file = some id' ∧
        (ofList registry entries).id? file = none) := by
  induction tried with
  | nil => cases h
  | cons file tried ih =>
    rw [List.findSome?_cons] at h
    cases hsmall : (ofList registry entries).id? file with
    | some found =>
      rw [hsmall] at h
      cases h
      obtain ⟨hgiven, hne⟩ := id?_eq_some_iff.mp hsmall
      have hbig : (ofList registry more).id? file = some id :=
        id?_eq_some_iff.mpr ⟨hext file id hgiven, hne⟩
      exact ⟨id, by rw [List.findSome?_cons, hbig], fun hdiffer => absurd rfl hdiffer⟩
    | none =>
      rw [hsmall] at h
      cases hbig : (ofList registry more).id? file with
      | none =>
        obtain ⟨id', hid', hnew⟩ := ih h
        exact ⟨id', by rw [List.findSome?_cons, hbig, hid'], hnew⟩
      | some found =>
        refine ⟨found, by rw [List.findSome?_cons, hbig], fun _ => ⟨file, ?_, hsmall⟩⟩
        exact (id?_eq_some_iff.mp hbig).1

theorem sortedFiles_grows (hext : Extends more entries) (h : file ∈ sortedFiles entries) :
    file ∈ sortedFiles more := by
  obtain ⟨id, hid⟩ := mem_sortedFiles.mp h
  exact mem_sortedFiles.mpr ⟨id, hext file id hid⟩

/-- A key that stands for a file still stands for one. -/
theorem fileFor_grows (hext : Extends more entries)
    (h : ((ofList registry entries).fileFor language key).isSome) :
    ((ofList registry more).fileFor language key).isSome := by
  obtain ⟨file, hmem, hunder⟩ := fileFor_isSome_iff.mp h
  exact fileFor_isSome_iff.mpr ⟨file, sortedFiles_grows hext hmem, hunder⟩

theorem resolveModule_grows (hext : Extends more entries)
    (h : (ofList registry entries).resolveModule language target = some id) :
    ∃ id', (ofList registry more).resolveModule language target = some id' := by
  obtain ⟨file, hfile, -⟩ := Option.bind_eq_some_iff.mp h
  obtain ⟨key, hkey, hfor⟩ := List.exists_of_findSome?_eq_some hfile
  have hmore : ((ofList registry more).fileFor language key).isSome :=
    fileFor_grows hext (Option.isSome_of_mem hfor)
  obtain ⟨file', hfile'⟩ : ∃ file', (moduleKeys (moduleSegments language target)).findSome?
      ((ofList registry more).fileFor language) = some file' := by
    rw [← Option.isSome_iff_exists, List.findSome?_isSome_iff]
    exact ⟨key, hkey, hmore⟩
  obtain ⟨key', -, hfor'⟩ := List.exists_of_findSome?_eq_some hfile'
  obtain ⟨id', hid'⟩ := mem_sortedFiles.mp (fileFor_mem hfor')
  refine ⟨id', ?_⟩
  rw [resolveModule, hfile', Option.bind_some, ids_ofList]
  exact hid'

/-- An import that refers to a file still does so when files are added. Unless it is found by the
end of a path, it refers to the same file or to one of the added ones. -/
theorem resolve_grows (registry : Registry) (language : Language) (source : Path) (path : Text)
    (hids : ∀ entry ∈ entries, entry.2 ≠ []) (hmore : ∀ entry ∈ more, entry.2 ≠ [])
    (hext : Extends more entries)
    (h : (ofList registry entries).resolve language source path = some id) :
    ∃ id', (ofList registry more).resolve language source path = some id' ∧ id' ≠ [] ∧
      (language.strategy ≠ .modulePath → id' ≠ id →
        ∃ file, givenId? more file = some id' ∧ givenId? entries file = none) := by
  have hgiven : ∃ id', (ofList registry more).resolve language source path = some id' ∧
      (language.strategy ≠ .modulePath → id' ≠ id →
        ∃ file, givenId? more file = some id' ∧ (ofList registry entries).id? file = none) := by
    rcases resolve_cases language source path with ⟨tried, htried⟩ | ⟨hs, target, htarget⟩
    · simp only [htried] at h ⊢
      obtain ⟨id', hid', hnew⟩ := findSome?_grows hext h
      exact ⟨id', hid', fun _ => hnew⟩
    · rw [htarget] at h
      obtain ⟨id', hid'⟩ := resolveModule_grows hext h
      exact ⟨id', (htarget _).trans hid', fun hother => absurd hs hother⟩
  obtain ⟨id', hid', hnew⟩ := hgiven
  obtain ⟨entry, hentry, rfl⟩ := List.mem_map.mp (resolve_known hid').mem
  refine ⟨entry.2, hid', hmore entry hentry, fun hother hdiffer => ?_⟩
  obtain ⟨file, hfile, hnone⟩ := hnew hother hdiffer
  refine ⟨file, hfile, ?_⟩
  cases hold : givenId? entries file with
  | none => rfl
  | some old =>
    -- An id that is not empty would have been found.
    have hne : old ≠ [] := hids _ (List.mem_reverse.mp (Text.mem_of_lookup hold))
    rw [id?_eq_some_iff.mpr ⟨hold, hne⟩] at hnone
    cases hnone

/-- A module that a file of its own name is added to. -/
theorem resolve_grows_sample :
    let entries : List (Path × Text) := [("a/b.py".toList, "1".toList)]
    let more : List (Path × Text) := [("a/b".toList, "2".toList), ("a/b.py".toList, "1".toList)]
    (ofList .stock entries).resolve .python "x.py" "a.b" = some "1".toList ∧
    (∃ id', (ofList .stock more).resolve .python "x.py" "a.b" = some id' ∧ id' ≠ [] ∧
      (Language.python.strategy ≠ .modulePath → id' ≠ "1".toList →
        ∃ file, givenId? more file = some id' ∧ givenId? entries file = none)) := by
  intro entries more
  have h : (ofList .stock entries).resolve .python "x.py" "a.b" = some "1".toList := by
    show (([] :: Language.python.searchRoots).findSome? fun root =>
      (ofList .stock entries).probe .python (Path.join root "a/b")) = _
    simp only [probe, id?_ofList]
    decide +kernel
  have hext : Extends more entries := by
    intro file id hid
    have hmem : (file, id) ∈ entries := List.mem_reverse.mp (Text.mem_of_lookup hid)
    obtain ⟨rfl, rfl⟩ : file = "a/b.py".toList ∧ id = "1".toList := by simpa [entries] using hmem
    decide
  exact ⟨h, resolve_grows .stock .python _ _ (by decide) (by decide) hext h⟩

end RepoAtlas.FileIndex
