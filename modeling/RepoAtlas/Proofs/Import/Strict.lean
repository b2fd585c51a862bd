import Mathlib.Data.List.TakeWhile
import RepoAtlas.Proofs.Analysis.Basic
import RepoAtlas.Proofs.Import.FileIndex

/-!
# Nothing that resolution looks up is missing

Resolution takes the first of some files, the last of some segments, the place of a segment, the id
of a file and what is to be done under the name of a strategy. `Strict.resolve` does the same and
reports a fault where there is no such thing. It never comes to one, because of how an index is
made: `FileIndex.resolve_safe`.
-/

namespace RepoAtlas

/-- Why something cannot be looked up. -/
inductive LookupFault where
  | missingKey (key : Text)
  | missingItem (item : Text)
  | emptyList
  | unknownStrategy (name : Text)
  deriving DecidableEq, Repr

abbrev Lookup := Except LookupFault

namespace FileIndex

-- -------------------------------------
-- Resolution with faults
-- -------------------------------------

namespace Strict

def first {α : Type} : List α → Lookup α
  | [] => .error .emptyList
  | a :: _ => .ok a

def last {α : Type} (l : List α) : Lookup α := first l.reverse

/-- How many items follow the last occurrence of an item. -/
def placeFromEnd (item : Text) (l : List Text) : Lookup Nat :=
  match l.reverse.idxOf? item with
  | some i => .ok i
  | none => .error (.missingItem item)

def idOf (index : FileIndex) (file : Path) : Lookup Text :=
  match index.ids[file]? with
  | some id => .ok id
  | none => .error (.missingKey file)

def crateRoot (folder : Path) : Lookup Path := do
  let parts := if folder.isEmpty then [] else Path.segments folder
  if parts.contains "src".toList then
    let back ← placeFromEnd "src" parts
    return Path.ofSegments (parts.take (parts.length - 1 - back + 1))
  else return "src"

def nestedBase (folder : Path) (segments : List Text) : Lookup (Path × List Text) := do
  let head ← first segments
  if head == "crate".toList then return (← crateRoot folder, segments.tail)
  else if head == "super".toList then
    let supers := segments.takeWhile (· == "super".toList)
    return (Path.joinAll folder (supers.map fun _ => ['.', '.']), segments.drop supers.length)
  else if head == "self".toList then return (folder, segments.tail)
  else return (folder, segments)

def resolveNested (index : FileIndex) (language : Language) (folder target : Text) :
    Lookup (Option Text) := do
  let segments := ((Pattern.lit "::".toList).splitBy target).filter (!·.isEmpty)
  if segments.isEmpty then return none
  let (base, rest) ← nestedBase folder segments
  return ([rest, rest.dropLast].filter (!·.isEmpty)).findSome? fun segments =>
    index.probe language (Path.joinAll base segments)

def packageFile (members : List Path) : Lookup Path := do
  let folder := Path.parent (← first members)
  let inside := members.filter fun m => Path.parent m == folder
  let named := inside.find? fun m => (Path.splitExtension (Path.name m)).1 == Path.name folder
  let untested := inside.find? fun m => !Text.occursIn "test" (Text.lower (Path.name m))
  match named <|> untested with
  | some file => return file
  | none => first inside

def moduleSegments (language : Language) (target : Text) : Lookup (List Text) := do
  let pieces :=
    if target.contains '/' || target.contains '\\' then
      Path.segments (Text.replaceChar '\\' '/' target)
    else Text.splitOn '.' target
  let segments := pieces.filter (!·.isEmpty)
  if segments.isEmpty then return []
  let (stem, ext) := Path.splitExtension (← last segments)
  if !ext.isEmpty && language.extensions.contains (Text.lower ext) then
    return segments.dropLast ++ [stem]
  else return segments

/-- The id that a key leads to: that of the first file, else that of the file for a folder. -/
def idFor (index : FileIndex) (language : Language) (key : Path) : Lookup (Option Text) := do
  let files := index.files.getD (language.name, key) []
  let members := index.folders.getD (language.name, key) []
  if !files.isEmpty then return some (← idOf index (← first files))
  else if !members.isEmpty then return some (← idOf index (← packageFile members))
  else return none

def firstHit (index : FileIndex) (language : Language) : List Path → Lookup (Option Text)
  | [] => return none
  | key :: keys => do
    match ← idFor index language key with
    | some id => return some id
    | none => firstHit index language keys

def resolveModule (index : FileIndex) (language : Language) (target : Text) :
    Lookup (Option Text) := do
  firstHit index language (moduleKeys (← moduleSegments language target))

/-- What is done under a strategy, from a folder and for a target. -/
abbrev Handler := FileIndex → Language → (folder target : Text) → Lookup (Option Text)

def handlers : List (Text × Handler) := [
  ("relative".toList, fun index language _ target =>
    .ok (index.probeBelow language target language.searchRoots)),
  ("header".toList, fun index language folder target =>
    .ok (index.probeBelow language target (folder :: [] :: language.searchRoots))),
  ("dotted".toList, fun index language folder target =>
    .ok (index.resolveDotted language folder target)),
  ("module_path".toList, fun index language _ target => resolveModule index language target),
  ("namespace".toList, resolveNested)]

def handler (strategy : Text) : Lookup Handler :=
  match handlers.lookup strategy with
  | some h => .ok h
  | none => .error (.unknownStrategy strategy)

/-- Resolution as in `FileIndex.resolve`, with a fault where something looked up is missing. -/
def resolve (index : FileIndex) (language : Language) (source : Path) (path : Text) :
    Lookup (Option Text) :=
  let target := Text.trim path
  let folder := Path.parent source
  if target.isEmpty then .ok none
  else match language.aliases.findSome? (Text.after? · target) with
    | some rest => .ok (index.probeBelow language rest aliasRoots)
    | none =>
      if Text.startsWith "./" target || Text.startsWith "../" target
          || target == ['.'] || target == ['.', '.'] then
        .ok (index.probe language (Path.join folder target))
      else if Text.startsWith "/" target then
        .ok (index.probe language (target.dropWhile (· == '/')))
      else do (← handler language.strategy.name) index language folder target

end Strict

-- -------------------------------------
-- No fault is met
-- -------------------------------------

variable {registry : Registry} {entries : List (Path × Text)} {language : Language} {file : Path}

namespace Strict

/-- Where an item occurs, its last occurrence and what precedes it can be found from the end. -/
theorem placeFromEnd_of_mem {item : Text} {l : List Text} (h : item ∈ l) :
    ∃ back, placeFromEnd item l = .ok back ∧ back < l.length ∧
      l.take (l.length - back) = (l.reverse.dropWhile (· != item)).reverse := by
  obtain ⟨back, hback⟩ := Option.isSome_iff_exists.mp
    (List.isSome_idxOf?.mpr (List.mem_reverse.mpr h))
  obtain ⟨hlt, hplace⟩ := List.findIdx?_eq_some_iff_findIdx_eq.mp hback
  rw [List.length_reverse] at hlt
  refine ⟨back, by rw [placeFromEnd, hback], hlt, ?_⟩
  have hitem : (fun a => !(a != item)) = (· == item) := by simp [bne]
  rw [List.dropWhile_eq_drop_findIdx_not, hitem, hplace, List.reverse_drop, List.length_reverse,
    List.reverse_reverse]

theorem crateRoot_eq (folder : Path) : crateRoot folder = .ok (FileIndex.crateRoot folder) := by
  cases folder with
  | nil => rfl
  | cons c folder =>
    unfold crateRoot FileIndex.crateRoot
    by_cases hsrc : "src".toList ∈ Path.segments (c :: folder)
    · obtain ⟨back, hback, hlt, htake⟩ := placeFromEnd_of_mem hsrc
      have hplace : (Path.segments (c :: folder)).length - 1 - back + 1 =
          (Path.segments (c :: folder)).length - back := by omega
      simp only [List.isEmpty_cons, Bool.false_eq_true, if_false, List.contains_iff_mem.mpr hsrc,
        if_true, hback, bind, Except.bind, hplace, htake]
      split
      · rename_i hnil
        rw [hnil, List.reverse_nil, List.take_eq_nil_iff] at htake
        rcases htake with hzero | hnone
        · omega
        · rw [hnone] at hsrc
          cases hsrc
      · rfl
    · have hdrop : (Path.segments (c :: folder)).reverse.dropWhile (· != "src".toList) = [] := by
        rw [List.dropWhile_eq_nil_iff]
        intro s hs
        have hne : s ≠ "src".toList := by
          rintro rfl
          exact hsrc (List.mem_reverse.mp hs)
        simpa using hne
      have hnone : (Path.segments (c :: folder)).contains "src".toList = false := by
        simpa using hsrc
      simp only [List.isEmpty_cons, Bool.false_eq_true, if_false, hnone, hdrop]
      rfl

theorem nestedBase_eq {segments : List Text} (h : segments ≠ []) (folder : Path) :
    nestedBase folder segments = .ok (FileIndex.nestedBase folder segments) := by
  obtain ⟨head, rest, rfl⟩ := List.exists_cons_of_ne_nil h
  simp only [nestedBase, FileIndex.nestedBase, first, crateRoot_eq, bind, Except.bind, pure,
    Except.pure, List.tail_cons]
  split
  · rfl
  · split
    · rfl
    · split <;> rfl

theorem resolveNested_eq (index : FileIndex) (folder target : Text) :
    resolveNested index language folder target =
      .ok (index.resolveNested language folder target) := by
  simp only [resolveNested, FileIndex.resolveNested]
  split
  · rename_i hempty
    rw [List.isEmpty_iff] at hempty
    rw [hempty]
    rfl
  · rename_i hne
    rw [nestedBase_eq (by simpa using hne)]
    rfl

theorem packageFile_eq {members : List Path} (h : members ≠ []) :
    ∃ file, packageFile members = .ok file ∧ FileIndex.packageFile members = some file := by
  obtain ⟨head, rest, rfl⟩ := List.exists_cons_of_ne_nil h
  obtain ⟨file, hfile⟩ := Option.isSome_iff_exists.mp (packageFile_isSome h)
  refine ⟨file, ?_, hfile⟩
  simp only [FileIndex.packageFile, List.head?_cons, Option.bind_some, Option.orElse_eq_orElse,
    Option.orElse_eq_or, ← Option.or_assoc] at hfile
  simp only [packageFile, first, bind, Except.bind, Option.orElse_eq_orElse, Option.orElse_eq_or]
  rcases Option.or_eq_some_iff.mp hfile with hchosen | ⟨hnone, hfirst⟩
  · rw [hchosen]
    rfl
  · obtain ⟨others, hinside⟩ := List.head?_eq_some_iff.mp hfirst
    rw [hnone, hinside]

theorem last_concat {α : Type} (front : List α) (final : α) :
    last (front ++ [final]) = .ok final := by
  rw [last, List.reverse_concat]
  rfl

theorem moduleSegments_eq (language : Language) (target : Text) :
    moduleSegments language target = .ok (FileIndex.moduleSegments language target) := by
  simp only [moduleSegments, FileIndex.moduleSegments]
  generalize List.filter _ _ = segments
  rcases List.eq_nil_or_concat segments with rfl | ⟨front, final, rfl⟩
  · rfl
  · have hne : (front ++ [final]).isEmpty = false := by simp
    simp only [List.concat_eq_append, hne, Bool.false_eq_true, if_false, last_concat,
      List.getLast?_concat, bind, Except.bind]
    split <;> rfl

theorem idOf_eq (registry : Registry) (h : file ∈ sortedFiles entries) : ∃ id,
    idOf (ofList registry entries) file = .ok id ∧
      (ofList registry entries).ids[file]? = some id := by
  obtain ⟨id, hid⟩ := mem_sortedFiles.mp h
  rw [givenId?, ← ids_ofList registry] at hid
  exact ⟨id, by rw [idOf, hid], hid⟩

theorem idFor_eq (registry : Registry) (entries : List (Path × Text)) (language : Language)
    (key : Path) : idFor (ofList registry entries) language key =
      .ok (((ofList registry entries).fileFor language key).bind fun file =>
        (ofList registry entries).ids[file]?) := by
  have hchosen : ∀ {file}, (ofList registry entries).fileFor language key = some file →
      ∃ id, idOf (ofList registry entries) file = .ok id ∧
        (ofList registry entries).ids[file]? = some id :=
    fun hfile => idOf_eq registry (fileFor_mem hfile)
  unfold fileFor at hchosen ⊢
  unfold idFor
  cases hfiles : (ofList registry entries).files.getD (language.name, key) [] with
  | cons file files =>
    rw [hfiles] at hchosen
    obtain ⟨id, hid, hget⟩ := hchosen rfl
    show (do return some (← idOf (ofList registry entries) file)) =
      Except.ok ((ofList registry entries).ids[file]?)
    rw [hid, hget]
    rfl
  | nil =>
    cases hmembers : (ofList registry entries).folders.getD (language.name, key) [] with
    | nil => rfl
    | cons member members =>
      obtain ⟨file, hstrict, hfile⟩ := packageFile_eq (List.cons_ne_nil member members)
      rw [hfiles, hmembers] at hchosen
      obtain ⟨id, hid, hget⟩ := hchosen hfile
      show (do return some (← idOf (ofList registry entries) (← packageFile (member :: members)))) =
        Except.ok ((FileIndex.packageFile (member :: members)).bind fun file =>
          (ofList registry entries).ids[file]?)
      rw [hstrict, hfile, Option.bind_some, hget]
      simp only [bind, Except.bind, hid]
      rfl

theorem firstHit_eq (keys : List Path) : firstHit (ofList registry entries) language keys =
    .ok ((keys.findSome? ((ofList registry entries).fileFor language)).bind fun file =>
      (ofList registry entries).ids[file]?) := by
  induction keys with
  | nil => rfl
  | cons key keys ih =>
    rw [firstHit, idFor_eq, List.findSome?_cons]
    cases hfile : (ofList registry entries).fileFor language key with
    | none => exact ih
    | some file =>
      obtain ⟨id, -, hid⟩ := idOf_eq registry (fileFor_mem hfile)
      simp only [Option.bind_some, hid]
      rfl

theorem resolveModule_eq (target : Text) :
    resolveModule (ofList registry entries) language target =
      .ok ((ofList registry entries).resolveModule language target) := by
  rw [resolveModule, moduleSegments_eq]
  exact firstHit_eq _

/-- There is something to do under the name of every strategy, and under no other name. -/
theorem handler_iff (strategy owner : Text) :
    (∃ h, handler strategy = .ok h) ↔ ∃ s, Strategy.ofName strategy owner = .ok s := by
  have hhandler : (∃ h, handler strategy = .ok h) ↔ strategy ∈ handlers.map Prod.fst := by
    unfold handler
    cases hlookup : handlers.lookup strategy with
    | none =>
      have habsent : strategy ∉ handlers.map Prod.fst := by
        intro hmem
        obtain ⟨entry, hentry, rfl⟩ := List.mem_map.mp hmem
        simpa using List.lookup_eq_none_iff.mp hlookup entry hentry
      simpa using habsent
    | some h => simpa using ⟨h, Text.mem_of_lookup hlookup⟩
  have hname : (∃ s, Strategy.ofName strategy owner = .ok s) ↔
      strategy ∈ Strategy.all.map Strategy.name := by
    unfold Strategy.ofName
    cases hfind : Strategy.all.find? (·.name == strategy) with
    | none => simpa using List.find?_eq_none.mp hfind
    | some s =>
      have hfound : s.name = strategy := by simpa using List.find?_some hfind
      simpa using ⟨s, List.mem_of_find?_eq_some hfind, hfound⟩
  have hsame : (handlers.map Prod.fst).Perm (Strategy.all.map Strategy.name) := by decide
  rw [hhandler, hname, hsame.mem_iff]

theorem resolve_eq (registry : Registry) (entries : List (Path × Text)) (language : Language)
    (source : Path) (path : Text) : resolve (ofList registry entries) language source path =
      .ok ((ofList registry entries).resolve language source path) := by
  simp only [resolve, FileIndex.resolve]
  split
  · rfl
  · cases language.aliases.findSome? (Text.after? · (Text.trim path)) with
    | some rest => rfl
    | none =>
      simp only
      split
      · rfl
      · split
        · rfl
        · cases hs : language.strategy with
          | relative => rfl
          | header => rfl
          | dotted => rfl
          | nested => exact resolveNested_eq _ _ _
          | modulePath => exact resolveModule_eq _

end Strict

/-- Resolution never misses what it looks up, and gives ids of the files of the index only. Every
strategy that a language may name is known, and every file that is found to be imported has a
node. -/
theorem resolve_safe (registry : Registry) (entries : List (Path × Text)) (language : Language)
    (source : Path) (path : Text) :
    Strict.resolve (ofList registry entries) language source path =
      .ok ((ofList registry entries).resolve language source path) ∧
    (∀ id, (ofList registry entries).resolve language source path = some id →
      ∃ file, givenId? entries file = some id) ∧
    (∀ strategy owner, (∃ s, Strategy.ofName strategy owner = .ok s) ↔
      ∃ h, Strict.handler strategy = .ok h) ∧
    ∀ nodes content (node : Node),
      ∀ t ∈ (Findings.ofText registry (Analysis.indexOf registry nodes) content node).targets,
        ∃ target ∈ nodes, target.id = t.id := by
  refine ⟨Strict.resolve_eq registry entries language source path, ?_,
    fun strategy owner => (Strict.handler_iff strategy owner).symm, ?_⟩
  · intro id hid
    obtain ⟨file, hfile⟩ := resolve_known hid
    exact ⟨file, (ids_ofList registry entries file).symm.trans hfile⟩
  · intro nodes content node t ht
    obtain ⟨-, -, i, -, hi⟩ := (Findings.mem_targets_iff content).mp (List.mem_map_of_mem ht)
    exact List.mem_map.mp (Analysis.importedFile?_mem hi)

end FileIndex

end RepoAtlas
