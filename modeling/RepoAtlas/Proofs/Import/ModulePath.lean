import Mathlib.Data.List.DropRight
import Mathlib.Data.List.ModifyLast
import Mathlib.Data.List.Nodup
import RepoAtlas.Language.Stock
import RepoAtlas.Proofs.Import.FileIndex
import RepoAtlas.Proofs.Path

/-!
# Imports by the end of a path

A language with the strategy `modulePath` looks an import up in two indexes: the files by the last
segments of their stems, and the files by the last segments of their folders. The indexes are
filled once, with keys of up to four segments.

`StandsFor` and `FirstHit` say what is found without the indexes, by looking at every file for each
end of the target. `resolve_modulePath` says that this is what `FileIndex.resolve` gives, and that
it does not depend on the order of the files.
-/

namespace RepoAtlas

namespace FileIndex

-- -------------------------------------
-- Looking at every file
-- -------------------------------------

/-- A file of a language of the given name. -/
def IsOfLanguage (registry : Registry) (name : Text) (file : Path) : Prop :=
  ∃ owner, registry.find? (Path.splitExtension file).2 = some owner ∧ owner.name = name

/-- A file of a language of the given name that has its files found by the ends of their paths. -/
def IsModule (registry : Registry) (name : Text) (file : Path) : Prop :=
  ∃ owner, registry.find? (Path.splitExtension file).2 = some owner ∧ owner.name = name ∧
    owner.strategy = .modulePath

/-- The segments of the folder of a file. -/
def folderSegments (file : Path) : List Text := (Path.segments file).dropLast

/-- A file that counts and whose segments, as `segmentsOf` gives them, end in given ones. -/
structure EndsIn (entries : List (Path × Text)) (counts : Path → Prop)
    (segmentsOf : Path → List Text) (ending : List Text) (file : Path) : Prop where
  given : ∃ id, givenId? entries file = some id
  counted : counts file
  suffix : ending <:+ segmentsOf file

/-- What stands for an ending: the least file that ends in it, else the file that stands for all
the files, in order, whose folders end in it. -/
inductive StandsFor (entries : List (Path × Text)) (counts : Path → Prop) (ending : List Text) :
    Path → Prop
  | file {file} : EndsIn entries counts stemSegments ending file →
      (∀ other, EndsIn entries counts stemSegments ending other → Text.le file other = true) →
      StandsFor entries counts ending file
  | folder {members file} : (∀ other, ¬EndsIn entries counts stemSegments ending other) →
      members.Pairwise (fun a b => Text.le a b = true ∧ a ≠ b) →
      (∀ member, member ∈ members ↔ EndsIn entries counts folderSegments ending member) →
      packageFile members = some file → StandsFor entries counts ending file

/-- The first of several endings that something stands for. -/
inductive FirstHit (hits : List Text → Path → Prop) : List (List Text) → Option Path → Prop
  | nothing : FirstHit hits [] none
  | here {ending rest file} : hits ending file → FirstHit hits (ending :: rest) (some file)
  | later {ending rest found} : (∀ file, ¬hits ending file) → FirstHit hits rest found →
      FirstHit hits (ending :: rest) found

/-- The last four segments, then the last three, and so on. -/
def lastSegments (segments : List Text) : List (List Text) :=
  (List.range' 1 (min 4 segments.length)).reverse.map segments.rtake

/-- What is tried for the segments of a target: all of them, then all but the last. -/
def tried (segments : List Text) : List (List Text) :=
  lastSegments segments ++ if 1 < segments.length then lastSegments segments.dropLast else []

/-- A segment without an extension of the language. -/
def withoutExtension (language : Language) (segment : Text) : Text :=
  if (Path.splitExtension segment).2 ≠ [] ∧
      Text.lower (Path.splitExtension segment).2 ∈ language.extensions then
    (Path.splitExtension segment).1
  else segment

/-- What divides the segments of a target: slashes of both kinds, or dots if it has no slash. -/
def isSeparator (target : Text) (c : Char) : Bool :=
  if '/' ∈ target ∨ '\\' ∈ target then c == '/' || c == '\\' else c == '.'

def targetSegments (language : Language) (target : Text) : List Text :=
  ((target.splitOnP (isSeparator target)).filter (· ≠ [])).modifyLast (withoutExtension language)

/-- A target that is neither an alias nor relative nor absolute. -/
structure IsBare (language : Language) (target : Text) : Prop where
  nonempty : target ≠ []
  noAlias : ∀ start ∈ language.aliases, ¬start <+: target
  notRelative : ¬"./".toList <+: target ∧ ¬"../".toList <+: target ∧ target ≠ ".".toList ∧
    target ≠ "..".toList
  notAbsolute : ¬"/".toList <+: target

variable {registry : Registry} {entries : List (Path × Text)} {language : Language}
  {counts : Path → Prop} {file : Path} {ending : List Text}

-- -------------------------------------
-- Segments and endings
-- -------------------------------------

theorem dropLast_stemSegments (file : Path) :
    (stemSegments file).dropLast = folderSegments file := by
  obtain ⟨hfile, hslash⟩ := Path.splitExtension_append file
  rw [folderSegments, stemSegments, ← Path.dropLast_segments_append _ hslash, hfile]

theorem endings_eq (segments : List Text) :
    endings segments = (lastSegments segments).map Path.ofSegments := by
  simp only [endings, lastSegments, List.reverse_range', List.map_map]
  refine List.map_congr_left fun i _ => ?_
  have hlast : 1 + min 4 segments.length - 1 - i = min maxSegments segments.length - i := by
    rw [maxSegments]
    omega
  rw [Function.comp_apply, Function.comp_apply, hlast]
  rfl

theorem moduleKeys_eq (segments : List Text) :
    moduleKeys segments = (tried segments).map Path.ofSegments := by
  unfold moduleKeys tried
  split <;> simp [endings_eq]

/-- Segments of paths can be told from their keys. -/
theorem ofSegments_mem_endings {segments : List Text} (hsegments : ∀ s ∈ segments, '/' ∉ s)
    (hending : ∀ s ∈ ending, '/' ∉ s) (hne : ending ≠ []) (hlength : ending.length ≤ 4) :
    Path.ofSegments ending ∈ endings segments ↔ ending <:+ segments := by
  rw [endings_eq, List.mem_map]
  have hpos := List.length_pos_of_ne_nil hne
  constructor
  · rintro ⟨last, hlast, heq⟩
    obtain ⟨k, hk, rfl⟩ := List.mem_map.mp hlast
    rw [List.mem_reverse, List.mem_range'_1] at hk
    have hsuffix : segments.rtake k <:+ segments := List.drop_suffix _ _
    have hlast : segments.rtake k ≠ [] := by
      rw [List.rtake, ne_eq, List.drop_eq_nil_iff]
      omega
    have hsame := congrArg Path.segments heq
    rw [Path.segments_ofSegments hlast fun s hs => hsegments s (hsuffix.subset hs),
      Path.segments_ofSegments hne hending] at hsame
    exact hsame ▸ hsuffix
  · intro hsuffix
    refine ⟨ending, List.mem_map.mpr ⟨ending.length, ?_, ?_⟩, rfl⟩
    · have hle := hsuffix.length_le
      rw [List.mem_reverse, List.mem_range'_1]
      omega
    · exact (List.suffix_iff_eq_drop.mp hsuffix).symm

/-- What is tried can be a key. -/
theorem mem_tried {segments : List Text} (h : ending ∈ tried segments) :
    ending ≠ [] ∧ ending.length ≤ 4 ∧ ∀ s ∈ ending, s ∈ segments := by
  have hlast : ∀ {l : List Text}, ending ∈ lastSegments l →
      ending ≠ [] ∧ ending.length ≤ 4 ∧ ∀ s ∈ ending, s ∈ l := by
    intro l h
    obtain ⟨k, hk, rfl⟩ := List.mem_map.mp h
    rw [List.mem_reverse, List.mem_range'_1] at hk
    refine ⟨?_, ?_, fun s hs => List.mem_of_mem_drop hs⟩
    · rw [List.rtake, ne_eq, List.drop_eq_nil_iff]
      omega
    · rw [List.rtake, List.length_drop]
      omega
  unfold tried at h
  rcases List.mem_append.mp h with h | h
  · exact hlast h
  · split at h
    · obtain ⟨hne, hlength, hmem⟩ := hlast h
      exact ⟨hne, hlength, fun s hs => (List.dropLast_subset _) (hmem s hs)⟩
    · cases h

-- -------------------------------------
-- The segments of a target
-- -------------------------------------

/-- Splitting at several characters is splitting once these are made the same. -/
theorem splitOn_map {f : Char → Char} {p : Char → Bool} {sep : Char} {t : Text}
    (h : ∀ c ∈ t, if p c then f c = sep else f c = c ∧ c ≠ sep) :
    Text.splitOn sep (t.map f) = t.splitOnP p := by
  induction t with
  | nil => rfl
  | cons c t ih =>
    obtain ⟨hc, ht⟩ := List.forall_mem_cons.mp h
    have hne := Text.splitOn_ne_nil sep (t.map f)
    rw [List.map_cons, Text.splitOn, List.splitOnP_cons_eq_if_modifyHead, ← ih ht]
    by_cases hp : p c = true
    · rw [if_pos hp] at hc
      simp [hp, hc]
    · rw [if_neg hp] at hc
      simp only [hc.1, beq_iff_eq, hc.2, if_false, hp]
      cases hs : Text.splitOn sep (t.map f) with
      | nil => exact absurd hs hne
      | cons piece pieces => rfl

theorem splitOnP_isSeparator (target : Text) :
    target.splitOnP (isSeparator target) =
      if target.contains '/' || target.contains '\\' then
        Path.segments (Text.replaceChar '\\' '/' target)
      else Text.splitOn '.' target := by
  by_cases hslash : '/' ∈ target ∨ '\\' ∈ target
  · rw [if_pos (by simpa using hslash), Path.segments, Text.replaceChar]
    refine (splitOn_map fun c _ => ?_).symm
    by_cases hback : c = '\\'
    · simp [isSeparator, hslash, hback]
    · by_cases hc : c = '/' <;> simp [isSeparator, hslash, hback, hc]
  · rw [if_neg (by simpa using hslash)]
    have hdots : Text.splitOn '.' (target.map id) = target.splitOnP (isSeparator target) := by
      refine splitOn_map fun c _ => ?_
      by_cases hc : c = '.' <;> simp [isSeparator, hslash, hc]
    rw [← hdots, List.map_id]

theorem moduleSegments_eq_target (language : Language) (target : Text) :
    moduleSegments language target = targetSegments language target := by
  unfold moduleSegments targetSegments
  simp only [← splitOnP_isSeparator]
  have hempty : (fun piece : Text => !piece.isEmpty) = fun piece => decide (piece ≠ []) := by
    funext piece
    cases piece <;> rfl
  rw [hempty]
  generalize (target.splitOnP (isSeparator target)).filter _ = pieces
  rcases List.eq_nil_or_concat pieces with rfl | ⟨front, last, rfl⟩
  · rfl
  · simp only [List.concat_eq_append, List.getLast?_concat, List.dropLast_concat,
      List.modifyLast_concat, withoutExtension]
    split
    · rename_i hext
      rw [if_pos (by simpa using hext)]
    · rename_i hext
      rw [if_neg (by simpa using hext)]

theorem slashless_targetSegments (language : Language) (target : Text) :
    ∀ s ∈ targetSegments language target, '/' ∉ s := by
  have hpieces : ∀ piece ∈ target.splitOnP (isSeparator target), '/' ∉ piece := by
    intro piece hpiece
    rw [splitOnP_isSeparator] at hpiece
    split at hpiece
    · exact Text.not_mem_of_mem_splitOn hpiece
    · rename_i hslash
      simp only [Bool.or_eq_true, List.contains_iff_mem, not_or] at hslash
      exact fun hmem => hslash.1 (Text.mem_of_mem_splitOn hpiece hmem)
  intro s hs
  unfold targetSegments at hs
  have hkept : ∀ piece ∈ (target.splitOnP (isSeparator target)).filter (· ≠ []), '/' ∉ piece :=
    fun piece hpiece => hpieces piece (List.mem_filter.mp hpiece).1
  generalize (target.splitOnP (isSeparator target)).filter _ = pieces at hs hkept
  rcases List.eq_nil_or_concat pieces with rfl | ⟨front, last, rfl⟩
  · cases hs
  · rw [List.concat_eq_append] at hs hkept
    rw [List.modifyLast_concat] at hs
    rcases List.mem_append.mp hs with hs | hs
    · exact hkept s (List.mem_append_left _ hs)
    · cases List.mem_singleton.mp hs
      have hlast : '/' ∉ last := hkept last (by simp)
      unfold withoutExtension
      split
      · intro hmem
        refine hlast ((Path.splitExtension_append last).1 ▸ ?_)
        exact List.mem_append_left _ hmem
      · exact hlast

-- -------------------------------------
-- The groups of an index
-- -------------------------------------

/-- Different paths, each one before all larger ones. -/
def Increasing (files : List Path) : Prop := files.Pairwise fun a b => Text.le a b = true ∧ a ≠ b

theorem increasing_sortedFiles (entries : List (Path × Text)) :
    Increasing (sortedFiles entries) := by
  have hnodup : (sortedFiles entries).Nodup :=
    (List.mergeSort_perm _ _).nodup_iff.mpr Std.HashMap.nodup_keys
  have hsorted : (sortedFiles entries).Pairwise fun a b => Text.le a b = true :=
    @List.pairwise_mergeSort _ Text.le (fun _ _ _ => Text.le_trans)
      (fun a b => by simpa using Text.le_total a b) _
  exact hsorted.and hnodup

theorem Increasing.head?_iff {files : List Path} (h : Increasing files) : files.head? = some file ↔
    file ∈ files ∧ ∀ other ∈ files, Text.le file other = true := by
  cases files with
  | nil => simp
  | cons first files =>
    obtain ⟨hfirst, -⟩ := List.pairwise_cons.mp h
    have hrefl : Text.le first first = true := by simpa using Text.le_total first first
    rw [List.head?_cons, Option.some.injEq]
    constructor
    · rintro rfl
      exact ⟨.head _, List.forall_mem_cons.mpr ⟨hrefl, fun other ho => (hfirst other ho).1⟩⟩
    · rintro ⟨hmem, hleast⟩
      rcases List.mem_cons.mp hmem with rfl | hmem
      · rfl
      · exact Text.le_antisymm (hfirst file hmem).1 (hleast first (.head _))

/-- There is only one way to put files in order. -/
theorem Increasing.unique {files files' : List Path} (h : Increasing files)
    (h' : Increasing files') (hmem : ∀ file, file ∈ files ↔ file ∈ files') : files = files' := by
  have hperm : files.Perm files' :=
    (List.perm_ext_iff_of_nodup (h.imp And.right) (h'.imp And.right)).mpr hmem
  refine hperm.eq_of_pairwise ?_ (h.imp And.left) (h'.imp And.left)
  exact fun a b _ _ hab hba => Text.le_antisymm hab hba

theorem groupedBy?_eq_some_iff {name : Text} :
    groupedBy? registry file = some name ↔ IsModule registry name file := by
  unfold groupedBy? IsModule
  rw [Option.bind_eq_some_iff]
  refine exists_congr fun owner => and_congr_right fun _ => ?_
  split <;> simp_all

/-- The files that an index groups under the key of an ending are those that end in it. -/
theorem mem_group_iff {name : Text} (keysOf : Path → List Path) {segmentsOf : Path → List Text}
    (hkeys : keysOf file = endings (segmentsOf file)) (hfile : ∀ s ∈ segmentsOf file, '/' ∉ s)
    (hending : ∀ s ∈ ending, '/' ∉ s) (hne : ending ≠ []) (hlength : ending.length ≤ 4) :
    file ∈ (sortedFiles entries).filter (isUnder registry keysOf name (Path.ofSegments ending)) ↔
      EndsIn entries (IsModule registry name) segmentsOf ending file := by
  simp only [List.mem_filter, mem_sortedFiles, isUnder, Bool.and_eq_true, beq_iff_eq,
    groupedBy?_eq_some_iff, List.contains_iff_mem, hkeys,
    ofSegments_mem_endings hfile hending hne hlength]
  exact ⟨fun ⟨hgiven, hcounted, hsuffix⟩ => ⟨hgiven, hcounted, hsuffix⟩,
    fun ⟨hgiven, hcounted, hsuffix⟩ => ⟨hgiven, hcounted, hsuffix⟩⟩

theorem folderKeys_eq (file : Path) : folderKeys file = endings (folderSegments file) := by
  rw [folderKeys, dropLast_stemSegments]

theorem slashless_folderSegments (file : Path) : ∀ s ∈ folderSegments file, '/' ∉ s := by
  rw [← dropLast_stemSegments]
  exact fun s hs => slashless_stemSegments file s (List.dropLast_subset _ hs)

/-- What stands for an ending, read off the files and folders that end in it. -/
theorem standsFor_iff {files folders : List Path} (hfiles : Increasing files)
    (hfolders : Increasing folders)
    (hmem : ∀ file, file ∈ files ↔ EndsIn entries counts stemSegments ending file)
    (hmem' : ∀ file, file ∈ folders ↔ EndsIn entries counts folderSegments ending file) :
    StandsFor entries counts ending file ↔
      files.head? = some file ∨ files = [] ∧ packageFile folders = some file := by
  rw [hfiles.head?_iff]
  constructor
  · intro h
    cases h with
    | file hends hleast =>
      exact .inl ⟨(hmem file).mpr hends, fun other ho => hleast other ((hmem other).mp ho)⟩
    | folder hnone hsorted hmembers hpackage =>
      have hempty : files = [] :=
        List.eq_nil_iff_forall_not_mem.mpr fun other ho => hnone other ((hmem other).mp ho)
      have hsame := hfolders.unique hsorted fun m => (hmem' m).trans (hmembers m).symm
      exact .inr ⟨hempty, hsame ▸ hpackage⟩
  · rintro (⟨hfile, hleast⟩ | ⟨rfl, hpackage⟩)
    · exact .file ((hmem file).mp hfile) fun other ho => hleast other ((hmem other).mpr ho)
    · exact .folder (fun other ho => nomatch (hmem other).mpr ho) hfolders hmem' hpackage

/-- The index finds for the key of an ending what stands for the ending. -/
theorem fileFor_eq_some_iff (hending : ∀ s ∈ ending, '/' ∉ s) (hne : ending ≠ [])
    (hlength : ending.length ≤ 4) :
    (ofList registry entries).fileFor language (Path.ofSegments ending) = some file ↔
      StandsFor entries (IsModule registry language.name) ending file := by
  have hsorted : ∀ p, Increasing ((sortedFiles entries).filter p) :=
    fun p => (increasing_sortedFiles entries).sublist List.filter_sublist
  rw [standsFor_iff (hsorted _) (hsorted _)
    (fun file => mem_group_iff fileKeys rfl (slashless_stemSegments file) hending hne hlength)
    (fun file => mem_group_iff folderKeys (folderKeys_eq file) (slashless_folderSegments file)
      hending hne hlength)]
  simp only [fileFor, getD_files, getD_folders, Option.orElse_eq_orElse, Option.orElse_eq_or,
    Option.or_eq_some_iff, List.head?_eq_none_iff]

theorem firstHit_iff {hits : List Text → Path → Prop} {find : List Text → Option Path}
    {endings : List (List Text)} {found : Option Path}
    (h : ∀ ending ∈ endings, ∀ file, find ending = some file ↔ hits ending file) :
    FirstHit hits endings found ↔ endings.findSome? find = found := by
  induction endings with
  | nil =>
    constructor
    · rintro ⟨⟩
      rfl
    · rintro rfl
      exact .nothing
  | cons ending endings ih =>
    obtain ⟨hending, hrest⟩ := List.forall_mem_cons.mp h
    rw [List.findSome?_cons]
    cases hfind : find ending with
    | some file =>
      constructor
      · intro hfirst
        cases hfirst with
        | here hhit =>
          rw [(hending _).mpr hhit] at hfind
          exact hfind.symm
        | later hnone _ => exact absurd ((hending file).mp hfind) (hnone file)
      · rintro rfl
        exact .here ((hending file).mp hfind)
    | none =>
      have hnone : ∀ file, ¬hits ending file := by
        intro file hhit
        rw [(hending file).mpr hhit] at hfind
        cases hfind
      constructor
      · intro hfirst
        cases hfirst with
        | here hhit => exact absurd hhit (hnone _)
        | later _ hlater => exact (ih hrest).mp hlater
      · intro hfound
        exact .later hnone ((ih hrest).mpr hfound)

-- -------------------------------------
-- Resolution
-- -------------------------------------

theorem resolve_of_isBare (index : FileIndex) (hstrategy : language.strategy = .modulePath)
    (source : Path) {path : Text} (hbare : IsBare language (Text.trim path)) :
    index.resolve language source path = index.resolveModule language (Text.trim path) := by
  obtain ⟨hne, halias, ⟨hhere, habove, hdot, hdots⟩, habsolute⟩ := hbare
  have hnoAlias : language.aliases.findSome? (Text.after? · (Text.trim path)) = none := by
    rw [List.findSome?_eq_none_iff]
    intro start hstart
    rw [Option.eq_none_iff_forall_ne_some]
    intro rest hrest
    exact halias start hstart ⟨rest, (Text.after?_eq_some_iff.mp hrest).symm⟩
  simp only [resolve, hnoAlias, hstrategy]
  rw [if_neg (by simpa using hne), if_neg, if_neg (by rwa [Text.startsWith_iff])]
  simp only [Bool.or_eq_true, Text.startsWith_iff, beq_iff_eq, not_or]
  exact ⟨⟨⟨hhere, habove⟩, hdot⟩, hdots⟩

/-- The file that is found by looking at every file is the one that the index leads to. -/
theorem resolveModule_eq_iff (registry : Registry) (entries : List (Path × Text))
    (language : Language) (target : Text) (result : Option Text) :
    (ofList registry entries).resolveModule language target = result ↔
      ∃ found, FirstHit (StandsFor entries (IsModule registry language.name))
          (tried (targetSegments language target)) found ∧
        found.bind (givenId? entries) = result := by
  have hfirst : ∀ found, FirstHit (StandsFor entries (IsModule registry language.name))
      (tried (targetSegments language target)) found ↔
        (tried (targetSegments language target)).findSome? (fun ending =>
          (ofList registry entries).fileFor language (Path.ofSegments ending)) = found := by
    intro found
    refine firstHit_iff fun ending hending file => ?_
    obtain ⟨hne, hlength, hmem⟩ := mem_tried hending
    exact fileFor_eq_some_iff
      (fun s hs => slashless_targetSegments language target s (hmem s hs)) hne hlength
  have hids : (fun file => (ofList registry entries).ids[file]?) = givenId? entries :=
    funext (ids_ofList registry entries)
  simp only [hfirst, exists_eq_left', resolveModule, moduleSegments_eq_target, moduleKeys_eq,
    List.findSome?_map, hids]
  rfl

/-- The order in which files were given does not matter. -/
theorem resolveModule_congr {entries' : List (Path × Text)} (registry : Registry)
    (language : Language) (target : Text)
    (h : ∀ file, givenId? entries' file = givenId? entries file) :
    (ofList registry entries').resolveModule language target =
      (ofList registry entries).resolveModule language target := by
  have hsorted : sortedFiles entries' = sortedFiles entries := by
    refine (increasing_sortedFiles entries').unique (increasing_sortedFiles entries) fun file => ?_
    rw [mem_sortedFiles, mem_sortedFiles, h]
  have hfor : (ofList registry entries').fileFor language =
      (ofList registry entries).fileFor language := by
    funext key
    simp only [fileFor, getD_files, getD_folders, hsorted]
  have hids : ∀ file : Path, (ofList registry entries').ids[file]? =
      (ofList registry entries).ids[file]? := by
    intro file
    rw [ids_ofList, ids_ofList]
    exact h file
  simp only [resolveModule, hfor, hids]

/-- A target that is the end of a path is resolved as if by looking at every file, for each of its
ends from the longest on: the least file whose path ends so counts, else the file for the folders
that end so. In whatever order the files were given, the result is the same. -/
theorem resolve_modulePath (registry : Registry) (entries : List (Path × Text)) (source : Path)
    {path : Text} (hstrategy : language.strategy = .modulePath)
    (hbare : IsBare language (Text.trim path)) :
    (∀ result, (ofList registry entries).resolve language source path = result ↔
      ∃ found, FirstHit (StandsFor entries (IsModule registry language.name))
          (tried (targetSegments language (Text.trim path))) found ∧
        found.bind (givenId? entries) = result) ∧
    ∀ entries', (∀ file, givenId? entries' file = givenId? entries file) →
      (ofList registry entries').resolve language source path =
        (ofList registry entries).resolve language source path := by
  simp only [resolve_of_isBare _ hstrategy source hbare]
  exact ⟨resolveModule_eq_iff registry entries language (Text.trim path),
    fun entries' h => resolveModule_congr registry language (Text.trim path) h⟩

/-- What stands for an ending ends in it, or its folder does. -/
theorem StandsFor.endsIn (h : StandsFor entries counts ending file) :
    EndsIn entries counts stemSegments ending file ∨
      EndsIn entries counts folderSegments ending file := by
  cases h with
  | file hends _ => exact .inl hends
  | folder _ _ hmembers hpackage => exact .inr ((hmembers file).mp (packageFile_mem hpackage))

theorem EndsIn.mem {segmentsOf : Path → List Text}
    (h : EndsIn entries counts segmentsOf ending file) : file ∈ entries.map Prod.fst := by
  obtain ⟨id, hid⟩ := h.given
  exact List.mem_map_of_mem (List.mem_reverse.mp (Text.mem_of_lookup hid))

/-- Of two files that a member is looked for in, the least one is found. -/
theorem resolve_modulePath_sample :
    let registry : Registry := .ofList [.java]
    let entries : List (Path × Text) :=
      [("b/Foo.java".toList, "1".toList), ("a/Foo.java".toList, "2".toList)]
    (ofList registry entries).resolve .java "X.java" "Foo.bar" = some "2".toList := by
  intro registry entries
  have hbare : IsBare .java (Text.trim "Foo.bar") :=
    ⟨by decide, fun _ h => (nomatch h), by decide, by decide⟩
  have hmodule : IsModule registry Language.java.name "a/Foo.java".toList :=
    groupedBy?_eq_some_iff.mp (by decide +kernel)
  have hnone : ∀ ending ∈ [["Foo".toList, "bar".toList], ["bar".toList]], ∀ file,
      ¬StandsFor entries (IsModule registry Language.java.name) ending file := by
    have hsegments : ∀ ending ∈ [["Foo".toList, "bar".toList], ["bar".toList]],
        ∀ file ∈ entries.map Prod.fst,
          ¬ending <:+ stemSegments file ∧ ¬ending <:+ folderSegments file := by
      decide +kernel
    intro ending hending file h
    rcases h.endsIn with hends | hends
    · exact (hsegments ending hending file hends.mem).1 hends.suffix
    · exact (hsegments ending hending file hends.mem).2 hends.suffix
  have hleast : ∀ file ∈ entries.map Prod.fst, Text.le "a/Foo.java".toList file = true := by decide
  refine ((resolve_modulePath registry entries "X.java".toList rfl hbare).1 _).mpr
    ⟨some "a/Foo.java".toList, ?_, by decide⟩
  have htried : tried (targetSegments .java (Text.trim "Foo.bar")) =
      [["Foo".toList, "bar".toList], ["bar".toList], ["Foo".toList]] := by
    decide +kernel
  rw [htried]
  refine .later (hnone _ (.head _)) (.later (hnone _ (.tail _ (.head _))) (.here ?_))
  exact .file ⟨⟨_, rfl⟩, hmodule, by decide +kernel⟩ fun other h => hleast other h.mem

/-- A file of a language of the same name that has its files found otherwise is passed over. -/
theorem resolve_passes_over_namesake :
    let registry : Registry := .ofList [.java, { Language.python with name := "java".toList }]
    let entries : List (Path × Text) := [("a/Foo.py".toList, "1".toList)]
    Language.java.strategy = .modulePath ∧ IsBare .java (Text.trim "a.Foo") ∧
      (∃ found, FirstHit (StandsFor entries (IsOfLanguage registry Language.java.name))
          (tried (targetSegments .java (Text.trim "a.Foo"))) found ∧
        found.bind (givenId? entries) = some "1".toList) ∧
      (ofList registry entries).resolve .java "X.java" "a.Foo" = none := by
  intro registry entries
  have hbare : IsBare .java (Text.trim "a.Foo") :=
    ⟨by decide, fun _ h => (nomatch h), by decide, by decide⟩
  have hother : ∀ file ∈ entries.map Prod.fst, ¬IsModule registry Language.java.name file := by
    simp only [← groupedBy?_eq_some_iff]
    decide +kernel
  have hnone : ∀ ending file,
      ¬StandsFor entries (IsModule registry Language.java.name) ending file := by
    intro ending file h
    rcases h.endsIn with hends | hends
    · exact hother file hends.mem hends.counted
    · exact hother file hends.mem hends.counted
  have htried : tried (targetSegments .java (Text.trim "a.Foo")) =
      [["a".toList, "Foo".toList], ["Foo".toList], ["a".toList]] := by
    decide +kernel
  refine ⟨rfl, hbare, ⟨some "a/Foo.py".toList, ?_, by decide⟩, ?_⟩
  · rw [htried]
    have hleast : ∀ file ∈ entries.map Prod.fst, Text.le "a/Foo.py".toList file = true := by decide
    exact .here (.file ⟨⟨_, rfl⟩, ⟨_, by rfl, by rfl⟩, by decide +kernel⟩
      fun other h => hleast other h.mem)
  · rw [resolve_of_isBare _ rfl _ hbare, resolveModule_eq_iff]
    refine ⟨none, ?_, rfl⟩
    rw [htried]
    exact .later (hnone _) (.later (hnone _) (.later (hnone _) .nothing))

end FileIndex

end RepoAtlas
