import Mathlib.Data.List.TakeWhile
import RepoAtlas.Language.Stock
import RepoAtlas.Proofs.Import.Walk

/-!
# Relative imports

A relative target is followed from the folder of the file that imports it, segment by segment.
`FileIndex.resolve_relative`: what it refers to is the first file that the place at the end of the
walk may stand for, and nothing if the walk leaves the repository on its way.
-/

namespace RepoAtlas

/-- Where a file lies: the folders that lead to it, and its name. -/
structure FilePlace where
  folders : List Text
  name : Text
  isName : ∀ segment ∈ folders ++ [name], Entry.IsName segment := by decide

namespace FilePlace

variable (place : FilePlace)

def path : Path := Path.ofSegments (place.folders ++ [place.name])

theorem isName_folders : ∀ segment ∈ place.folders, Entry.IsName segment :=
  fun segment hsegment => place.isName segment (List.mem_append_left _ hsegment)

theorem isName_name : Entry.IsName place.name := place.isName _ (by simp)

end FilePlace

namespace Path

theorem ofSegments_concat {folders : List Text} (hne : folders ≠ []) (name : Text) :
    ofSegments (folders ++ [name]) = ofSegments folders ++ '/' :: name := by
  induction folders with
  | nil => exact absurd rfl hne
  | cons folder folders ih =>
    cases folders with
    | nil => simp [ofSegments]
    | cons next folders =>
      have hrest : next :: folders ≠ [] := List.cons_ne_nil _ _
      rw [List.cons_append, ofSegments_cons _ (by simp), ih hrest, ofSegments_cons _ hrest,
        List.append_assoc, List.cons_append]

theorem getLast?_ofSegments {names : List Text} (hnames : ∀ name ∈ names, Entry.IsName name) :
    (ofSegments names).getLast? ≠ some '/' := by
  rcases List.eq_nil_or_concat names with rfl | ⟨folders, name, rfl⟩
  · simp [ofSegments]
  · rw [List.concat_eq_append] at hnames ⊢
    obtain ⟨hne, hslash, -, -⟩ := hnames name (by simp)
    have hlast : name.getLast? ≠ some '/' := fun h => hslash (List.mem_of_mem_getLast? h)
    by_cases hfolders : folders = []
    · simpa [hfolders, ofSegments] using hlast
    · rw [ofSegments_concat hfolders, List.getLast?_append, List.getLast?_cons]
      cases h : name.getLast? with
      | none => exact absurd (List.getLast?_eq_none_iff.mp h) hne
      | some c => simpa [h] using hlast

theorem head?_ofSegments {names : List Text} (hnames : ∀ name ∈ names, Entry.IsName name) :
    (ofSegments names).head? ≠ some '/' := by
  cases names with
  | nil => simp [ofSegments]
  | cons first rest =>
    obtain ⟨hne, hslash, -, -⟩ := hnames first (.head _)
    obtain ⟨c, first, rfl⟩ := List.exists_cons_of_ne_nil hne
    have hc : c ≠ '/' := fun h => hslash (h ▸ .head _)
    cases rest with
    | nil => simpa [ofSegments] using hc
    | cons next rest =>
      rw [ofSegments_cons _ (by simp)]
      simpa using hc

theorem name_of_slashless {t : Text} (h : '/' ∉ t) : name t = t := by
  rw [name, List.takeWhile_eq_self_iff.mpr (Text.bne_of_not_mem (mt List.mem_reverse.mp h)),
    List.reverse_reverse]

theorem name_append {t : Text} (front : Path) (h : '/' ∉ t) : name (front ++ '/' :: t) = t := by
  rw [name, List.reverse_append, List.reverse_cons, List.append_assoc,
    List.takeWhile_append_of_pos (Text.bne_of_not_mem (mt List.mem_reverse.mp h))]
  simp

/-- The folder of a file. -/
theorem parent_path (place : FilePlace) : parent place.path = ofSegments place.folders := by
  have hslash := place.isName_name.2.1
  by_cases hfolders : place.folders = []
  · have hpath : place.path = place.name := by simp [FilePlace.path, hfolders, ofSegments]
    simp [parent, hpath, name_of_slashless hslash, hfolders, ofSegments]
  · have hpath : place.path = ofSegments place.folders ++ '/' :: place.name :=
      ofSegments_concat hfolders place.name
    have hhead : place.path.take (place.path.length - (name place.path).length) =
        ofSegments place.folders ++ ['/'] := by
      rw [hpath, name_append _ hslash, List.append_cons]
      refine List.take_left' ?_
      simp only [List.length_append]
      omega
    have hne := ofSegments_ne_nil (fun s hs => (place.isName_folders s hs).1) hfolders
    obtain ⟨front, c, hfront⟩ : ∃ front c, ofSegments place.folders = front ++ [c] :=
      ⟨_, _, (List.dropLast_append_getLast hne).symm⟩
    have hc : c ≠ '/' := by
      rintro rfl
      exact getLast?_ofSegments place.isName_folders (by simp [hfront])
    simp [parent, hhead, hfront, hc]

theorem walk?_ofSegments {names : List Text} (h : ∀ name ∈ names, Entry.IsName name)
    (place : List Text) : walk? place (segments (ofSegments names)) = some (place ++ names) := by
  by_cases hnames : names = []
  · subst hnames
    rw [List.append_nil]
    rfl
  · rw [segments_ofSegments hnames fun s hs => (h s hs).2.1, walk?_names h]

end Path

namespace FileIndex

open RepoAtlas.Path

/-- A target that starts at the folder of the file that imports it. -/
def IsRelative (target : Text) : Prop :=
  "./".toList <+: target ∨ "../".toList <+: target ∨ target = ".".toList ∨ target = "..".toList

instance (target : Text) : Decidable (IsRelative target) :=
  inferInstanceAs (Decidable (_ ∨ _ ∨ _ ∨ _))

theorem IsRelative.head? {target : Text} (h : IsRelative target) : target.head? = some '.' := by
  rcases h with ⟨rest, rfl⟩ | ⟨rest, rfl⟩ | rfl | rfl <;> rfl

variable {registry : Registry} {entries : List (Path × Text)} {language : Language}

theorem findSome?_aliases {target : Text}
    (h : ∀ start ∈ language.aliases, ¬start <+: target) :
    language.aliases.findSome? (Text.after? · target) = none := by
  rw [List.findSome?_eq_none_iff]
  intro start hstart
  cases hafter : Text.after? start target with
  | none => rfl
  | some rest => exact absurd ⟨rest, (Text.after?_eq_some_iff.mp hafter).symm⟩ (h start hstart)

theorem resolve_of_isRelative (index : FileIndex) (source : Path) {path : Text}
    (hrelative : IsRelative (Text.trim path))
    (halias : ∀ start ∈ language.aliases, ¬start <+: Text.trim path) :
    index.resolve language source path =
      index.probe language (join (parent source) (Text.trim path)) := by
  have hne : (Text.trim path).isEmpty = false := by
    have := hrelative.head?
    cases h : Text.trim path <;> simp_all
  have hbranch : (Text.startsWith "./" (Text.trim path) || Text.startsWith "../" (Text.trim path)
      || Text.trim path == ['.'] || Text.trim path == ['.', '.']) = true := by
    simpa [IsRelative, Text.startsWith_iff, or_assoc] using hrelative
  simp only [resolve, hne, findSome?_aliases halias, hbranch]
  rfl

/-- How a language finds the files for a target of its own, which is no path. -/
def follow (index : FileIndex) (language : Language) (folder target : Text) : Option Text :=
  match language.strategy with
  | .relative => index.probeBelow language target language.searchRoots
  | .header => index.probeBelow language target (folder :: [] :: language.searchRoots)
  | .dotted => index.resolveDotted language folder target
  | .nested => index.resolveNested language folder target
  | .modulePath => index.resolveModule language target

theorem resolve_eq_follow (index : FileIndex) (source : Path) {target : Text}
    (htrim : Text.trim target = target) (hne : target ≠ []) (halias : language.aliases = [])
    (hrelative : ¬IsRelative target) (habsolute : target.head? ≠ some '/') :
    index.resolve language source target = index.follow language (parent source) target := by
  have hbranch : (Text.startsWith "./" target || Text.startsWith "../" target
      || target == ['.'] || target == ['.', '.']) = false := by
    rw [← Bool.not_eq_true]
    simpa [IsRelative, Text.startsWith_iff, or_assoc] using hrelative
  have hslash : Text.startsWith "/" target = false := by
    rw [← Bool.not_eq_true, Text.startsWith_iff]
    rintro ⟨rest, rfl⟩
    exact habsolute rfl
  have hempty : target.isEmpty = false := by simpa using hne
  simp only [resolve, htrim, hempty, halias, hbranch, hslash]
  rfl

/-- A path that is looked for beside a file. -/
theorem probe_beside (hids : ∀ entry ∈ entries, entry.2 ≠ []) (source : FilePlace) {p : Path}
    (hp : p.head? ≠ some '/') :
    (ofList registry entries).probe language (join (parent source.path) p) =
      (walk? source.folders (segments p)).bind
        fun place => (filesAt language place).findSome? (givenId? entries) := by
  have hfolders := source.isName_folders
  rw [parent_path, probe_walk hids (head?_join_ne (head?_ofSegments hfolders) hp),
    walk?_join _ _ hp, walk?_ofSegments hfolders, Option.bind_some, List.nil_append]

/-- A relative target refers to the first file that the place at the end of its walk, which starts
in the folder of the source, may stand for. A walk that leaves the repository leads nowhere. -/
theorem resolve_relative (registry : Registry) (entries : List (Path × Text))
    (hids : ∀ entry ∈ entries, entry.2 ≠ []) (language : Language) (source : FilePlace)
    {path : Text} (hrelative : IsRelative (Text.trim path))
    (halias : ∀ start ∈ language.aliases, ¬start <+: Text.trim path) :
    (ofList registry entries).resolve language source.path path =
      (walk? source.folders (segments (Text.trim path))).bind
        fun place => (filesAt language place).findSome? (givenId? entries) := by
  have htarget : (Text.trim path).head? ≠ some '/' := by simp [hrelative.head?]
  rw [resolve_of_isRelative _ _ hrelative halias, probe_beside hids source htarget]

/-- A target that comes back to the root and down again, and one that leaves it on its way. -/
theorem resolve_relative_sample :
    let entries : List (Path × Text) :=
      [("lib/util/index.ts".toList, "1".toList), ("index.js".toList, "2".toList)]
    let source : FilePlace := { folders := ["lib".toList, "app".toList], name := "main.ts".toList }
    source.path = "lib/app/main.ts".toList ∧
    (ofList .stock entries).resolve .typeScript source.path " ../..//lib/./util " =
      some "1".toList ∧
    (ofList .stock entries).resolve .typeScript source.path "../.." = some "2".toList ∧
    (ofList .stock entries).resolve .typeScript source.path "../../../lib/util" = none := by
  intro entries source
  have hids : ∀ entry ∈ entries, entry.2 ≠ [] := by decide
  have halias : ∀ target ∈ [" ../..//lib/./util ".toList, "../..".toList,
      "../../../lib/util".toList], IsRelative (Text.trim target) ∧
        ∀ start ∈ Language.typeScript.aliases, ¬start <+: Text.trim target := by
    decide
  refine ⟨by decide, ?_, ?_, ?_⟩
  · obtain ⟨hrelative, halias⟩ := halias _ (.head _)
    rw [resolve_relative .stock entries hids .typeScript source hrelative halias]
    decide
  · obtain ⟨hrelative, halias⟩ := halias _ (.tail _ (.head _))
    rw [resolve_relative .stock entries hids .typeScript source hrelative halias]
    decide
  · obtain ⟨hrelative, halias⟩ := halias _ (.tail _ (.tail _ (.head _)))
    rw [resolve_relative .stock entries hids .typeScript source hrelative halias]
    decide

end FileIndex

end RepoAtlas
