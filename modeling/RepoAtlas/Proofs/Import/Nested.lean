import Mathlib.Data.List.Infix
import RepoAtlas.Proofs.Import.Dotted
import RepoAtlas.Proofs.Pattern.Split

/-!
# Imports of nested names

A nested name is a list of words with `::` between them. It starts in the folder of the source, above
it for each leading `super`, or in the folder of the crate; what follows are folders and a module,
and the last word may also be something inside of the module. `FileIndex.resolve_nested` lists the
paths that are looked at.
-/

namespace RepoAtlas

/-- Words divided by `::`. -/
structure NestedName extends WordList where
  named : words ≠ [] := by decide

namespace NestedName

variable (name : NestedName)

def text : Text := "::".toList.intercalate name.words

theorem mem_text {c : Char} (h : c ∈ name.text) : c = ':' ∨ Text.isWord c = true := by
  have hwords : ∀ {words : List Text}, (∀ word ∈ words, ∀ c ∈ word, Text.isWord c = true) →
      c ∈ "::".toList.intercalate words → c = ':' ∨ Text.isWord c = true := by
    intro words hwords hc
    induction words with
    | nil => cases hc
    | cons word words ih =>
      obtain ⟨hword, hwords⟩ := List.forall_mem_cons.mp hwords
      cases words with
      | nil => exact .inr (hword c (by simpa [List.intercalate] using hc))
      | cons next words =>
        rw [List.intercalate_cons_cons, List.append_assoc, List.mem_append, List.mem_append] at hc
        rcases hc with hc | hc | hc
        · exact .inr (hword c hc)
        · exact .inl (by simpa using hc)
        · exact ih hwords hc
  exact hwords (fun word hword => (name.isWord_of_mem hword).2) h

theorem head?_text : ∃ c, name.text.head? = some c ∧ Text.isWord c = true := by
  obtain ⟨word, words, hwords⟩ := List.exists_cons_of_ne_nil name.named
  have hword : word ∈ name.words := by simp [hwords]
  obtain ⟨hne, hchars⟩ := name.isWord_of_mem hword
  obtain ⟨c, rest, rfl⟩ := List.exists_cons_of_ne_nil hne
  refine ⟨c, ?_, hchars c (.head _)⟩
  cases words <;> simp [text, hwords, List.intercalate]

theorem trim_text : Text.trim name.text = name.text := by
  refine Text.trim_of_not_isBlank fun c hc => ?_
  rcases name.mem_text hc with rfl | hword
  · rfl
  · exact Text.not_isBlank_of_isWord hword

/-- The words can be read off the text. -/
theorem splitBy_text :
    ((Pattern.lit "::".toList).splitBy name.text).filter (!·.isEmpty) = name.words := by
  have hcolon : ∀ word ∈ name.words, ':' ∉ word :=
    fun word hword => name.not_mem_of_not_isWord hword (by decide)
  have hsplit : (Pattern.lit "::".toList).splitBy name.text = name.words :=
    Pattern.splitBy_intercalate name.named hcolon
  rw [hsplit, List.filter_eq_self]
  intro word hword
  simpa using (name.isWord_of_mem hword).1

end NestedName

namespace FileIndex

open RepoAtlas.Path

/-- The deepest enclosing folder named `src`, or else `src` at the root. -/
def crateFolder (folders : List Text) : List Text :=
  (folders.inits.filter fun place => place.getLast? = some "src".toList).getLast?.getD
    ["src".toList]

/-- Where a name starts, if this lies in the repository, and the words that are followed from
there. -/
def nestedStart (folders : List Text) : List Text → Option (List Text) × List Text
  | [] => (some folders, [])
  | word :: rest =>
    if word = "crate".toList then (some (crateFolder folders), rest)
    else if word = "self".toList then (some folders, rest)
    else if word = "super".toList then
      let climbs := ((word :: rest).takeWhile (· == "super".toList)).length
      (if climbs ≤ folders.length then some (folders.take (folders.length - climbs)) else none,
        (word :: rest).drop climbs)
    else (some folders, word :: rest)

/-- The files that a nested module at a place may be. -/
def nestedModulePaths (place : List Text) : List Path :=
  [ofSegments place, ofSegments place ++ ".rs".toList, ofSegments place ++ "/mod.rs".toList]

/-- The paths at which a name is looked for from a source in given folders, in order: first all of
its words, then all but the last, as long as there are any. -/
def nestedPaths (folders words : List Text) : List Path :=
  match nestedStart folders words with
  | (none, _) => []
  | (some base, rest) =>
    ([rest, rest.dropLast].filter (!·.isEmpty)).flatMap fun words =>
      nestedModulePaths (base ++ words)

-- -------------------------------------
-- The folder of the crate
-- -------------------------------------

theorem crateFolder_of_not_mem {folders : List Text} (h : "src".toList ∉ folders) :
    crateFolder folders = ["src".toList] := by
  have hnone : folders.inits.filter (fun place => place.getLast? = some "src".toList) = [] := by
    rw [List.filter_eq_nil_iff]
    intro place hplace hlast
    rw [decide_eq_true_eq] at hlast
    exact h (((List.mem_inits _ _).mp hplace).subset (List.mem_of_mem_getLast? hlast))
  rw [crateFolder, hnone]
  rfl

theorem crateFolder_append (outer : List Text) {inner : List Text} (h : "src".toList ∉ inner) :
    crateFolder (outer ++ "src".toList :: inner) = outer ++ ["src".toList] := by
  have hinits : (outer ++ "src".toList :: inner).inits =
      outer.inits ++ [outer ++ ["src".toList]] ++
        inner.inits.tail.map (outer ++ ["src".toList] ++ ·) := by
    rw [List.append_cons, List.inits_append, List.inits_append]
    rfl
  -- Below the folder there is no further one of that name.
  have hbelow : (inner.inits.tail.map (outer ++ ["src".toList] ++ ·)).filter
      (fun place => place.getLast? = some "src".toList) = [] := by
    rw [List.filter_eq_nil_iff]
    intro place hplace hlast
    obtain ⟨below, hmem, rfl⟩ := List.mem_map.mp hplace
    rw [decide_eq_true_eq, List.getLast?_append] at hlast
    have hstart : below <+: inner := (List.mem_inits _ _).mp (List.mem_of_mem_tail hmem)
    cases hbelow : below.getLast? with
    | some last =>
      rw [hbelow, Option.some_or, Option.some.injEq] at hlast
      exact h (hstart.subset (hlast ▸ List.mem_of_mem_getLast? hbelow))
    | none =>
      rw [List.getLast?_eq_none_iff] at hbelow
      subst hbelow
      cases inner with
      | nil => cases hmem
      | cons first inner => simp at hmem
  rw [crateFolder, hinits, List.filter_append, hbelow, List.append_nil, List.filter_append]
  simp

theorem exists_innermost {α : Type} {a : α} {l : List α} (h : a ∈ l) :
    ∃ outer inner, l = outer ++ a :: inner ∧ a ∉ inner := by
  obtain ⟨front, back, hl, hnot⟩ := List.eq_append_cons_of_mem (List.mem_reverse.mpr h)
  exact ⟨back.reverse, front.reverse, by simpa using congrArg List.reverse hl, by simpa using hnot⟩

theorem crateRoot_ofSegments {folders : List Text} (h : ∀ folder ∈ folders, Entry.IsName folder) :
    crateRoot (ofSegments folders) = ofSegments (crateFolder folders) := by
  by_cases hmem : "src".toList ∈ folders
  · obtain ⟨outer, inner, rfl, hinner⟩ := exists_innermost hmem
    have hdrop : (outer ++ "src".toList :: inner).reverse.dropWhile (· != "src".toList) =
        (outer ++ ["src".toList]).reverse := by
      rw [List.reverse_append, List.reverse_cons, List.append_assoc, List.dropWhile_append_of_pos]
      · simp
      · intro folder hfolder
        rw [bne_iff_ne]
        rintro rfl
        exact hinner (List.mem_reverse.mp hfolder)
    rw [crateFolder_append outer hinner, crateRoot,
      segments_ofSegments (by simp) fun folder hfolder => (h folder hfolder).2.1, hdrop]
    simp
  · have hdrop : (segments (ofSegments folders)).reverse.dropWhile (· != "src".toList) = [] := by
      rw [List.dropWhile_eq_nil_iff]
      intro folder hfolder
      rw [bne_iff_ne]
      rintro rfl
      rw [List.mem_reverse] at hfolder
      by_cases hne : folders = []
      · subst hne
        revert hfolder
        decide
      · rw [segments_ofSegments hne fun folder hfolder => (h folder hfolder).2.1] at hfolder
        exact hmem hfolder
    rw [crateFolder_of_not_mem hmem, crateRoot, hdrop]
    rfl

-- -------------------------------------
-- Where the words are followed from
-- -------------------------------------

variable {registry : Registry} {entries : List (Path × Text)}

theorem walk?_climb {folders : List Text} (h : ∀ folder ∈ folders, Entry.IsName folder)
    (climbs : List Text) :
    walk? [] (segments (joinAll (ofSegments folders) (climbs.map fun _ => ['.', '.']))) =
      if climbs.length ≤ folders.length then
        some (folders.take (folders.length - climbs.length)) else none := by
  have hup : ∀ p ∈ climbs.map fun _ => ['.', '.'], p.head? ≠ some '/' := by
    intro p hp
    obtain ⟨climb, -, rfl⟩ := List.mem_map.mp hp
    decide
  have hsegments : (climbs.map fun _ => ['.', '.']).flatMap segments =
      List.replicate climbs.length ['.', '.'] := by
    rw [List.map_const', List.flatMap_replicate]
    have hup : segments ['.', '.'] = [['.', '.']] := rfl
    simp [hup]
  rw [walk?_joinAll _ _ hup, walk?_ofSegments h, Option.bind_some, List.nil_append, hsegments,
    walk?_climbs]

theorem isName_crateFolder {folders : List Text} (h : ∀ folder ∈ folders, Entry.IsName folder) :
    ∀ folder ∈ crateFolder folders, Entry.IsName folder := by
  by_cases hmem : "src".toList ∈ folders
  · obtain ⟨outer, inner, rfl, hinner⟩ := exists_innermost hmem
    rw [crateFolder_append outer hinner]
    intro folder hfolder
    refine h folder ?_
    rw [List.append_cons]
    exact List.mem_append_left _ hfolder
  · rw [crateFolder_of_not_mem hmem]
    decide

/-- The base path of a name leads to where the name starts. -/
theorem walk?_nestedBase {folders : List Text} (h : ∀ folder ∈ folders, Entry.IsName folder)
    (words : List Text) :
    walk? [] (segments (nestedBase (ofSegments folders) words).1) = (nestedStart folders words).1 ∧
      (nestedBase (ofSegments folders) words).2 = (nestedStart folders words).2 := by
  have hfolders : walk? [] (segments (ofSegments folders)) = some folders := walk?_ofSegments h []
  cases words with
  | nil => exact ⟨hfolders, rfl⟩
  | cons word rest =>
    by_cases hcrate : word = "crate".toList
    · subst hcrate
      refine ⟨?_, rfl⟩
      show walk? [] (segments (crateRoot (ofSegments folders))) = some (crateFolder folders)
      rw [crateRoot_ofSegments h, walk?_ofSegments (isName_crateFolder h), List.nil_append]
    · by_cases hsuper : word = "super".toList
      · subst hsuper
        exact ⟨walk?_climb h _, rfl⟩
      · by_cases hself : word = "self".toList
        · subst hself
          exact ⟨hfolders, rfl⟩
        · simp only [nestedBase, nestedStart, beq_iff_eq, hcrate, hsuper, hself, if_false]
          exact ⟨hfolders, trivial⟩

theorem mem_nestedStart (folders words : List Text) :
    ∀ word ∈ (nestedStart folders words).2, word ∈ words := by
  intro word hword
  unfold nestedStart at hword
  split at hword
  · exact hword
  · split at hword
    · exact .tail _ hword
    · split at hword
      · exact .tail _ hword
      · split at hword
        · exact List.mem_of_mem_drop hword
        · exact hword

theorem filesAt_rust {place : List Text} (h : place ≠ []) :
    filesAt .rust place = nestedModulePaths place := if_neg h

theorem findSome?_congr {α β : Type} {f g : α → Option β} {l : List α} (h : ∀ a ∈ l, f a = g a) :
    l.findSome? f = l.findSome? g := by
  rw [← List.head?_filterMap, ← List.head?_filterMap, List.filterMap_congr h]

theorem findSome?_flatMap {α β γ : Type} (f : α → List β) (g : β → Option γ) (l : List α) :
    (l.flatMap f).findSome? g = l.findSome? fun a => (f a).findSome? g := by
  induction l with
  | nil => rfl
  | cons a l ih =>
    rw [List.flatMap_cons, List.findSome?_append, ih, List.findSome?_cons]
    cases (f a).findSome? g <;> rfl

/-- Words are followed from a base to the files that a module may be. -/
theorem probe_joinAll (hids : ∀ entry ∈ entries, entry.2 ≠ []) {base : Path} {words : List Text}
    (hbase : base.head? ≠ some '/') (hwords : ∀ word ∈ words, Entry.IsName word)
    (hne : words ≠ []) :
    (ofList registry entries).probe .rust (joinAll base words) =
      (walk? [] (segments base)).bind
        fun place => (nestedModulePaths (place ++ words)).findSome? (givenId? entries) := by
  have hslash : ∀ word ∈ words, word.head? ≠ some '/' :=
    fun word hword hhead => (hwords word hword).2.1 (List.mem_of_mem_head? hhead)
  have hsegments : words.flatMap segments = words := by
    have hsingle : ∀ word ∈ words, segments word = [word] :=
      fun word hword => Text.splitOn_of_not_mem (hwords word hword).2.1
    rw [List.flatMap_congr hsingle, List.flatMap_singleton']
  rw [probe_walk hids (head?_joinAll_ne hbase hslash), walk?_joinAll _ _ hslash, hsegments]
  cases walk? [] (segments base) with
  | none => rfl
  | some place =>
    rw [Option.bind_some, walk?_names hwords, Option.bind_some, Option.bind_some,
      filesAt_rust (by simp [hne])]

theorem head?_nestedBase {folders : List Text} (h : ∀ folder ∈ folders, Entry.IsName folder)
    (words : List Text) : (nestedBase (ofSegments folders) words).1.head? ≠ some '/' := by
  have hfolders := head?_ofSegments h
  unfold nestedBase
  split
  · exact hfolders
  · split
    · rw [crateRoot_ofSegments h]
      exact head?_ofSegments (isName_crateFolder h)
    · split
      · refine head?_joinAll_ne hfolders fun p hp => ?_
        obtain ⟨climb, -, rfl⟩ := List.mem_map.mp hp
        decide
      · split <;> exact hfolders

theorem resolveNested_text (hids : ∀ entry ∈ entries, entry.2 ≠ []) (source : FilePlace)
    (name : NestedName) :
    (ofList registry entries).resolveNested .rust (parent source.path) name.text =
      (nestedPaths source.folders name.words).findSome? (givenId? entries) := by
  have hfolders := source.isName_folders
  have hbase := head?_nestedBase hfolders name.words
  obtain ⟨hwalk, hrest⟩ := walk?_nestedBase hfolders name.words
  have hwords : ∀ word ∈ (nestedStart source.folders name.words).2, Entry.IsName word :=
    fun word hword => name.isName_words word (mem_nestedStart _ _ word hword)
  simp only [resolveNested, name.splitBy_text, parent_path, hrest, nestedPaths]
  cases hstart : nestedStart source.folders name.words with
  | mk start rest =>
    rw [hstart] at hwalk hwords
    -- All words, or all but the last.
    have hprobe : ∀ words ∈ [rest, rest.dropLast].filter (!·.isEmpty),
        (ofList registry entries).probe .rust
            (joinAll (nestedBase (ofSegments source.folders) name.words).1 words) =
          start.bind fun place =>
            (nestedModulePaths (place ++ words)).findSome? (givenId? entries) := by
      intro words hmem
      obtain ⟨hmem, hne⟩ := List.mem_filter.mp hmem
      have hsub : ∀ word ∈ words, word ∈ rest := by
        rcases List.mem_cons.mp hmem with rfl | hmem
        · exact fun _ => id
        · rw [List.mem_singleton.mp hmem]
          exact fun word hword => (List.dropLast_sublist _).subset hword
      rw [probe_joinAll hids hbase (fun word hword => hwords word (hsub word hword))
        (by simpa using hne), hwalk]
    rw [findSome?_congr hprobe]
    cases start with
    | none => simp
    | some place => exact (findSome?_flatMap ..).symm

/-- A nested name refers to the first file at the paths that its words lead to. -/
theorem resolve_nested (registry : Registry) (entries : List (Path × Text))
    (hids : ∀ entry ∈ entries, entry.2 ≠ []) (source : FilePlace) (name : NestedName) :
    (ofList registry entries).resolve .rust source.path name.text =
      (nestedPaths source.folders name.words).findSome? (givenId? entries) := by
  obtain ⟨c, hhead, hword⟩ := name.head?_text
  have hne : name.text ≠ [] := by
    intro h
    simp [h] at hhead
  have hfirst : ∀ x, Text.isWord x = false → name.text.head? ≠ some x := by
    intro x hx h
    rw [hhead, Option.some.injEq] at h
    rw [← h, hword] at hx
    cases hx
  have hrelative : ¬IsRelative name.text := fun h => hfirst '.' (by decide) h.head?
  rw [resolve_eq_follow _ _ name.trim_text hne rfl hrelative (hfirst '/' (by decide))]
  exact resolveNested_text hids source name

/-- From a file in `a/src/b/src/c`: an item of a module of the inner crate, a module two folders up,
one beside the file, a word for an item only, and more climbs than there are folders. -/
theorem resolve_nested_sample :
    let entries : List (Path × Text) := [("a/src/b/src/io.rs".toList, "1".toList),
      ("a/src/b/net/mod.rs".toList, "2".toList), ("a/src/b/src/c/io".toList, "3".toList)]
    let source : FilePlace :=
      { folders := ["a".toList, "src".toList, "b".toList, "src".toList, "c".toList],
        name := "lib.rs".toList }
    let index := ofList .stock entries
    index.resolve .rust source.path "crate::io::Reader" = some "1".toList ∧
    index.resolve .rust source.path "super::super::net" = some "2".toList ∧
    index.resolve .rust source.path "self::io" = some "3".toList ∧
    index.resolve .rust source.path "io::Reader" = some "3".toList ∧
    index.resolve .rust source.path "self" = none ∧
    index.resolve .rust source.path "super::super::super::super::super::super::a" = none := by
  intro entries source index
  have hids : ∀ entry ∈ entries, entry.2 ≠ [] := by decide
  have hresolve := resolve_nested .stock entries hids source
  refine ⟨?_, ?_, ?_, ?_, ?_, ?_⟩
  · exact (hresolve { words := ["crate".toList, "io".toList, "Reader".toList] }).trans (by decide)
  · exact (hresolve { words := ["super".toList, "super".toList, "net".toList] }).trans (by decide)
  · exact (hresolve { words := ["self".toList, "io".toList] }).trans (by decide)
  · exact (hresolve { words := ["io".toList, "Reader".toList] }).trans (by decide)
  · exact (hresolve { words := ["self".toList] }).trans (by decide)
  · exact (hresolve { words := List.replicate 6 "super".toList ++ ["a".toList] }).trans (by decide)

end FileIndex

end RepoAtlas
