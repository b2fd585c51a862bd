import RepoAtlas.Proofs.Import.Relative
import RepoAtlas.Proofs.Text.Blank

/-!
# Imports of dotted names

A dotted name is a list of words with dots in front. Without such dots the words are looked for at
the root and in `src`; one dot stands for the folder of the source and each further one for the
folder above. `FileIndex.resolve_dotted` lists the paths that are looked at. The names `.` and `..`,
which are followed like relative paths, make no exception.
-/

namespace RepoAtlas

/-- Words, none of them empty. -/
structure WordList where
  words : List Text
  isWord : words.all (fun word => !word.isEmpty && word.all Text.isWord) = true := by decide

namespace WordList

variable (name : WordList)

theorem isWord_of_mem {word : Text} (h : word ∈ name.words) :
    word ≠ [] ∧ ∀ c ∈ word, Text.isWord c = true := by
  have hword := List.all_eq_true.mp name.isWord word h
  simp only [Bool.and_eq_true, Bool.not_eq_true', List.isEmpty_eq_false_iff] at hword
  exact ⟨hword.1, List.all_eq_true.mp hword.2⟩

theorem not_mem_of_not_isWord {word : Text} (h : word ∈ name.words) {c : Char}
    (hc : Text.isWord c = false) : c ∉ word := by
  intro hmem
  rw [(name.isWord_of_mem h).2 c hmem] at hc
  cases hc

theorem isName_words : ∀ word ∈ name.words, Entry.IsName word := by
  intro word hword
  have hdot : '.' ∉ word := name.not_mem_of_not_isWord hword (by decide)
  refine ⟨(name.isWord_of_mem hword).1, name.not_mem_of_not_isWord hword (by decide), ?_, ?_⟩
  · rintro rfl
    exact hdot (.head _)
  · rintro rfl
    exact hdot (.head _)

end WordList

/-- Words divided by dots, behind some number of dots. -/
structure DottedName extends WordList where
  dots : Nat
  named : dots = 0 → words ≠ [] := by decide

namespace DottedName

variable (name : DottedName)

/-- The words with dots between them. -/
def joined : Text := ['.'].intercalate name.words

def text : Text := List.replicate name.dots '.' ++ name.joined

theorem mem_text {c : Char} (h : c ∈ name.text) : c = '.' ∨ Text.isWord c = true := by
  rcases List.mem_append.mp h with h | h
  · exact .inl (List.eq_of_mem_replicate h)
  · exact (Text.mem_intercalate h).imp_right
      fun ⟨word, hword, hc⟩ => (name.isWord_of_mem hword).2 c hc

/-- The words start with no dot. -/
theorem head?_joined : name.joined.head?.any (· == '.') = false := by
  cases hwords : name.words with
  | nil => simp [joined, hwords, List.intercalate]
  | cons word words =>
    have hword : word ∈ name.words := by simp [hwords]
    obtain ⟨c, rest, rfl⟩ := List.exists_cons_of_ne_nil (name.isWord_of_mem hword).1
    have hdot : '.' ∉ c :: rest := name.not_mem_of_not_isWord hword (by decide)
    have hc : c ≠ '.' := fun h => hdot (h ▸ .head _)
    cases words <;> simp [joined, hwords, List.intercalate, hc]

theorem takeWhile_text : name.text.takeWhile (· == '.') = List.replicate name.dots '.' := by
  rw [text, List.takeWhile_append_of_pos (fun c hc => by simp [List.eq_of_mem_replicate hc])]
  have hhead := name.head?_joined
  cases hjoined : name.joined with
  | nil => simp
  | cons c rest =>
    rw [hjoined] at hhead
    rw [List.takeWhile_cons_of_neg (by simpa using hhead), List.append_nil]

theorem dropWhile_text : name.text.dropWhile (· == '.') = name.joined := by
  rw [text, List.dropWhile_append_of_pos (fun c hc => by simp [List.eq_of_mem_replicate hc])]
  have hhead := name.head?_joined
  cases hjoined : name.joined with
  | nil => rfl
  | cons c rest =>
    rw [hjoined] at hhead
    exact List.dropWhile_cons_of_neg (by simpa using hhead)

/-- With slashes in place of the dots between them, the words are a path. -/
theorem replaceChar_joined :
    Text.replaceChar '.' '/' name.joined = Path.ofSegments name.words := by
  have hwords : ∀ word ∈ name.words, Text.replaceChar '.' '/' word = word := fun word hword =>
    Text.replaceChar_of_not_mem (name.not_mem_of_not_isWord hword (by decide)) '/'
  unfold joined
  revert hwords
  generalize name.words = words
  intro hwords
  induction words with
  | nil => rfl
  | cons word words ih =>
    obtain ⟨hword, hwords⟩ := List.forall_mem_cons.mp hwords
    cases words with
    | nil => simpa [List.intercalate, Path.ofSegments] using hword
    | cons next words =>
      rw [List.intercalate_cons_cons, Text.replaceChar_append, Text.replaceChar_append, hword,
        ih hwords, Path.ofSegments_cons word (List.cons_ne_nil next words), List.append_assoc]
      rfl

theorem words_eq_nil (h : name.joined = []) : name.words = [] := by
  by_contra hne
  have hpath := name.replaceChar_joined
  rw [h] at hpath
  exact Path.ofSegments_ne_nil (fun word hword => (name.isWord_of_mem hword).1) hne hpath.symm

theorem text_ne_nil : name.text ≠ [] := by
  intro h
  obtain ⟨hdots, hjoined⟩ := List.append_eq_nil_iff.mp h
  exact name.named (by simpa using hdots) (name.words_eq_nil hjoined)

theorem trim_text : Text.trim name.text = name.text := by
  refine Text.trim_of_not_isBlank fun c hc => ?_
  rcases name.mem_text hc with rfl | hword
  · rfl
  · exact Text.not_isBlank_of_isWord hword

/-- A name of dots only has no words. -/
theorem eq_of_text_eq_replicate (dots : Nat) (h : name.text = List.replicate dots '.') :
    name.dots = dots ∧ name.words = [] := by
  have htake := name.takeWhile_text
  have hdrop := name.dropWhile_text
  rw [h, List.takeWhile_replicate] at htake
  rw [h, List.dropWhile_replicate] at hdrop
  have hlength := congrArg List.length htake
  exact ⟨by simpa using hlength.symm, name.words_eq_nil (by simpa using hdrop.symm)⟩

theorem slash_not_mem_text : '/' ∉ name.text := by
  intro h
  rcases name.mem_text h with h | h
  · cases h
  · revert h
    decide

end DottedName

namespace FileIndex

open RepoAtlas.Path

/-- The files that a module at a place may be: the place itself, a source or a stub, or the start of
a package. At the root there is only the last of these. -/
def modulePaths (place : List Text) : List Path :=
  if place = [] then ["__init__.py"]
  else [ofSegments place, ofSegments place ++ ".py".toList, ofSegments place ++ ".pyi".toList,
    ofSegments place ++ "/__init__.py".toList]

/-- The paths at which a name is looked for from a source in given folders, in order. -/
def dottedPaths (folders : List Text) (name : DottedName) : List Path :=
  if name.dots = 0 then modulePaths name.words ++ modulePaths ("src".toList :: name.words)
  else if name.dots - 1 ≤ folders.length then
    modulePaths (folders.take (folders.length - (name.dots - 1)) ++ name.words)
  else []

theorem filesAt_python (place : List Text) : filesAt .python place = modulePaths place := by
  unfold filesAt modulePaths
  split <;> rfl

variable {registry : Registry} {entries : List (Path × Text)}

/-- What stands in front of the words makes the walk climb. -/
theorem walk?_dotted (folders : List Text) (climbs : Nat) {words : List Text}
    (h : ∀ word ∈ words, Entry.IsName word) :
    (walk? folders (List.replicate climbs ['.', '.'])).bind
        (walk? · (segments (ofSegments words))) =
      if climbs ≤ folders.length then some (folders.take (folders.length - climbs) ++ words)
      else none := by
  rw [walk?_climbs]
  split
  · rw [Option.bind_some, walk?_ofSegments h]
  · rfl

/-- The paths for a name with dots in front are those at the end of the climb. -/
theorem findSome?_dottedPaths (folders : List Text) {name : DottedName}
    (hdots : name.dots = climbs + 1) :
    (if climbs ≤ folders.length then some (folders.take (folders.length - climbs) ++ name.words)
      else none).bind (fun place => (filesAt .python place).findSome? (givenId? entries)) =
      (dottedPaths folders name).findSome? (givenId? entries) := by
  have hdotted : name.dots ≠ 0 := by omega
  rw [dottedPaths, if_neg hdotted, hdots, Nat.add_sub_cancel]
  by_cases hclimbs : climbs ≤ folders.length
  · rw [if_pos hclimbs, if_pos hclimbs, Option.bind_some, filesAt_python]
  · rw [if_neg hclimbs, if_neg hclimbs]
    rfl

theorem resolveDotted_dots (hids : ∀ entry ∈ entries, entry.2 ≠ []) (source : FilePlace)
    {name : DottedName} (hdots : name.dots = climbs + 1) :
    (ofList registry entries).resolveDotted .python (parent source.path) name.text =
      (dottedPaths source.folders name).findSome? (givenId? entries) := by
  have hup : ∀ p ∈ List.replicate climbs ['.', '.'], p.head? ≠ some '/' := by
    intro p hp
    rw [List.eq_of_mem_replicate hp]
    decide
  have hsegments : (List.replicate climbs ['.', '.']).flatMap segments =
      List.replicate climbs ['.', '.'] := by
    have hup : segments ['.', '.'] = [['.', '.']] := rfl
    simp [List.flatMap_replicate, hup]
  have hwords := head?_ofSegments name.isName_words
  have hfolders := source.isName_folders
  have hbase := head?_joinAll_ne (head?_ofSegments hfolders) hup
  simp only [resolveDotted, name.takeWhile_text, name.dropWhile_text, name.replaceChar_joined, hdots,
    List.replicate_succ, List.map_replicate]
  rw [parent_path, probe_walk hids (head?_join_ne hbase hwords), walk?_join _ _ hwords,
    walk?_joinAll _ _ hup, walk?_ofSegments hfolders, Option.bind_some, List.nil_append, hsegments,
    walk?_dotted _ _ name.isName_words, findSome?_dottedPaths _ hdots]

theorem resolveDotted_plain (hids : ∀ entry ∈ entries, entry.2 ≠ []) (source : FilePlace)
    {name : DottedName} (hdots : name.dots = 0) :
    (ofList registry entries).resolveDotted .python (parent source.path) name.text =
      (dottedPaths source.folders name).findSome? (givenId? entries) := by
  have hwords := head?_ofSegments name.isName_words
  have hroot : (ofList registry entries).probe .python (join [] (ofSegments name.words)) =
      (modulePaths name.words).findSome? (givenId? entries) := by
    rw [probe_walk hids (head?_join_ne (by simp) hwords), walk?_join _ _ hwords,
      ← filesAt_python]
    show ((walk? [] (segments (ofSegments name.words))).bind _) = _
    rw [walk?_ofSegments name.isName_words, List.nil_append, Option.bind_some]
  have hsrc : (ofList registry entries).probe .python (join "src" (ofSegments name.words)) =
      (modulePaths ("src".toList :: name.words)).findSome? (givenId? entries) := by
    have hwalk : walk? [] (segments "src") = some ["src".toList] := by decide
    rw [probe_walk hids (head?_join_ne (by decide) hwords), walk?_join _ _ hwords, hwalk,
      Option.bind_some, walk?_ofSegments name.isName_words, Option.bind_some, filesAt_python]
    rfl
  have hroots : Language.python.searchRoots = ["src".toList] := rfl
  simp only [resolveDotted, name.takeWhile_text, name.dropWhile_text, name.replaceChar_joined, hdots,
    List.replicate_zero, probeBelow, hroots, dottedPaths, if_true, List.findSome?_append]
  rw [List.findSome?_cons, hroot, List.findSome?_cons, hsrc]
  cases (modulePaths name.words).findSome? (givenId? entries) with
  | some id => rfl
  | none =>
    cases (modulePaths ("src".toList :: name.words)).findSome? (givenId? entries) <;> rfl

/-- The names that are followed like relative paths. -/
theorem dots_of_isRelative {name : DottedName} (h : IsRelative name.text) :
    (name.dots = 1 ∨ name.dots = 2) ∧ name.words = [] := by
  rcases h with ⟨rest, hrest⟩ | ⟨rest, hrest⟩ | h | h
  · exact absurd (by rw [← hrest]; simp) name.slash_not_mem_text
  · exact absurd (by rw [← hrest]; simp) name.slash_not_mem_text
  · obtain ⟨hdots, hwords⟩ := name.eq_of_text_eq_replicate 1 h
    exact ⟨.inl hdots, hwords⟩
  · obtain ⟨hdots, hwords⟩ := name.eq_of_text_eq_replicate 2 h
    exact ⟨.inr hdots, hwords⟩

theorem resolve_dots (hids : ∀ entry ∈ entries, entry.2 ≠ []) (source : FilePlace)
    {name : DottedName} (h : IsRelative name.text) :
    (ofList registry entries).resolve .python source.path name.text =
      (dottedPaths source.folders name).findSome? (givenId? entries) := by
  have htrim := name.trim_text
  have halias : ∀ start ∈ Language.python.aliases, ¬start <+: Text.trim name.text :=
    fun _ h => (nomatch h)
  obtain ⟨hdots, hwords⟩ := dots_of_isRelative h
  have hjoined : name.joined = [] := by simp [DottedName.joined, hwords, List.intercalate]
  rw [resolve_of_isRelative _ _ (htrim.symm ▸ h) halias, htrim,
    probe_beside hids source (by simp [h.head?])]
  rcases hdots with hdots | hdots
  · have htext : name.text = ['.'] := by simp [DottedName.text, hdots, hjoined]
    rw [htext, ← findSome?_dottedPaths source.folders hdots, hwords, List.append_nil,
      ← walk?_climbs]
    rfl
  · have htext : name.text = ['.', '.'] := by simp [DottedName.text, hdots, hjoined]
    rw [htext, ← findSome?_dottedPaths source.folders hdots, hwords, List.append_nil,
      ← walk?_climbs]
    rfl

/-- A dotted name refers to the first file at the paths that its dots and words lead to. -/
theorem resolve_dotted (registry : Registry) (entries : List (Path × Text))
    (hids : ∀ entry ∈ entries, entry.2 ≠ []) (source : FilePlace) (name : DottedName) :
    (ofList registry entries).resolve .python source.path name.text =
      (dottedPaths source.folders name).findSome? (givenId? entries) := by
  by_cases hrelative : IsRelative name.text
  · exact resolve_dots hids source hrelative
  · have habsolute : name.text.head? ≠ some '/' :=
      fun h => name.slash_not_mem_text (List.mem_of_mem_head? h)
    rw [resolve_eq_follow _ _ name.trim_text name.text_ne_nil rfl hrelative habsolute]
    cases hdots : name.dots with
    | zero => exact resolveDotted_plain hids source hdots
    | succ climbs => exact resolveDotted_dots hids source hdots

/-- From a file in `pkg/sub`: a module beside the package, the package itself, the root, and a name
with more dots than there are folders. -/
theorem resolve_dotted_sample :
    let entries : List (Path × Text) := [("pkg/util.py".toList, "1".toList),
      ("pkg/__init__.py".toList, "2".toList), ("src/pkg/util.pyi".toList, "3".toList),
      ("__init__.py".toList, "4".toList)]
    let source : FilePlace := { folders := ["pkg".toList, "sub".toList], name := "mod.py".toList }
    let index := ofList .stock entries
    index.resolve .python source.path "..util" = some "1".toList ∧
    index.resolve .python source.path ".." = some "2".toList ∧
    index.resolve .python source.path "..." = some "4".toList ∧
    index.resolve .python source.path "....pkg.util" = none ∧
    index.resolve .python source.path "pkg.util" = some "1".toList ∧
    index.resolve .python source.path "pkg" = some "2".toList := by
  intro entries source index
  have hids : ∀ entry ∈ entries, entry.2 ≠ [] := by decide
  have hresolve := resolve_dotted .stock entries hids source
  refine ⟨?_, ?_, ?_, ?_, ?_, ?_⟩
  · exact (hresolve { dots := 2, words := ["util".toList] }).trans (by decide)
  · exact (hresolve { dots := 2, words := [] }).trans (by decide)
  · exact (hresolve { dots := 3, words := [] }).trans (by decide)
  · exact (hresolve { dots := 4, words := ["pkg".toList, "util".toList] }).trans (by decide)
  · exact (hresolve { dots := 0, words := ["pkg".toList, "util".toList] }).trans (by decide)
  · exact (hresolve { dots := 0, words := ["pkg".toList] }).trans (by decide)

end FileIndex

end RepoAtlas
