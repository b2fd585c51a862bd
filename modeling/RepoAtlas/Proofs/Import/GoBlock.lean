import RepoAtlas.Proofs.Import.Grouped
import RepoAtlas.Proofs.Pattern.Search

/-!
# Import blocks in Go

`Import.extract_goBlock`: from a block of imports, each quoted path is read, in order, whatever the
aliases, the comments, the white space and the empty lines between them. It makes no difference that
a block with one line of text is read in one piece and all others line by line.
-/

namespace RepoAtlas

open Pattern ImportForm Text

/-- What may stand in front of a path: a dot, or a word that starts no import. -/
def IsGoAlias (name : Text) : Prop :=
  name = ['.'] ∨ name ≠ [] ∧ name.all isWord = true ∧ name ≠ "import".toList

instance (name : Text) : Decidable (IsGoAlias name) := inferInstanceAs (Decidable (_ ∨ _))

/-- A path between double quotes, perhaps behind an alias. -/
structure GoTarget where
  localName : Option Text := none
  gap : Text := [' ']
  path : Text
  named : ∀ name ∈ localName, IsGoAlias name := by decide
  spaced : gap.all isBlank = true := by decide
  nonempty : path ≠ [] := by decide
  unquoted : path.any isQuote = false := by decide
  opened : ')' ∉ path := by decide
  uncommented : Text.occursIn "//" path = false ∧ '#' ∉ path := by decide
  trimmed : trim path = path := by decide

namespace GoTarget

variable (target : GoTarget)

def label : Text := target.localName.elim [] (· ++ target.gap)

def text : Text := target.label ++ ('"' :: (target.path ++ ['"']))

/-- The characters of an alias and of the white space behind it. -/
theorem mem_label {c : Char} (h : c ∈ target.label) : wordOr "." c = true ∨ isBlank c = true := by
  unfold label at h
  cases hname : target.localName with
  | none => simp [hname] at h
  | some name =>
    rw [hname, Option.elim_some, List.mem_append] at h
    rcases h with h | h
    · left
      rcases target.named name hname with rfl | ⟨-, hword, -⟩
      · obtain rfl := List.mem_singleton.mp h
        decide
      · simp [wordOr, List.all_eq_true.mp hword c h]
    · exact .inr (List.all_eq_true.mp target.spaced c h)

theorem not_mem_label {c : Char} (hword : wordOr "." c = false) (hblank : isBlank c = false) :
    c ∉ target.label := by
  intro h
  rcases target.mem_label h with h | h
  · rw [hword] at h
    cases h
  · rw [hblank] at h
    cases h

theorem not_mem_text {c : Char} (hword : wordOr "." c = false) (hblank : isBlank c = false)
    (hquote : c ≠ '"') (hpath : c ∉ target.path) : c ∉ target.text := by
  simp [text, target.not_mem_label hword hblank, hquote, hpath]

theorem head?_label {c : Char} (h : target.label.head? = some c) : isBlank c = false := by
  unfold label at h
  cases hname : target.localName with
  | none => simp [hname] at h
  | some name =>
    rw [hname, Option.elim_some] at h
    rcases target.named name hname with rfl | ⟨hne, hword, -⟩
    · obtain rfl : '.' = c := Option.some.inj h
      rfl
    · obtain ⟨x, name, rfl⟩ := List.exists_cons_of_ne_nil hne
      obtain rfl : x = c := Option.some.inj h
      exact not_isBlank_of_isWord (List.all_eq_true.mp hword x (.head _))

theorem getLast?_text : target.text.getLast? = some '"' := by
  rw [text, ← List.cons_append, ← List.append_assoc, List.getLast?_concat]

theorem head?_text : ∃ c, target.text.head? = some c ∧ isBlank c = false := by
  rw [text]
  cases hlabel : target.label with
  | nil => exact ⟨'"', rfl, rfl⟩
  | cons x label => exact ⟨x, rfl, target.head?_label (hlabel ▸ rfl)⟩

theorem trim_text : trim target.text = target.text :=
  trim_of_ends target.head?_text ⟨'"', target.getLast?_text, rfl⟩

theorem absent_text : ¬['/', '/'] <:+: target.text := by
  have hslash : '/' ∉ target.label ++ ['"'] := by
    simp [target.not_mem_label (c := '/') (by decide) (by decide)]
  have hpath : ¬['/', '/'] <:+: target.path := by
    rw [← Text.occursIn_iff]
    simpa using target.uncommented.1
  rw [text, List.append_cons]
  exact absent_append_left rfl hslash (absent_append_right rfl (by decide) hpath)

theorem reads_quoted : Reads quotedText ('"' :: (target.path ++ ['"'])) [] [("text", target.path)] := by
  have hpath : Reads (many1 fun c => !isQuote c) target.path (['"'] ++ []) [] := by
    refine reads_many1 target.nonempty ?_ rfl
    simpa using target.unquoted
  exact (reads_one (p := isQuote) rfl).cons
    ((hpath.capture "text").cons (reads_one (p := isQuote) rfl).last)

theorem blockEntry?_text : blockEntry? target.text = some target.path := by
  have hquote : target.label.any isQuote = false :=
    any_isQuote_eq_false (target.not_mem_label (by decide) (by decide))
      (target.not_mem_label (by decide) (by decide)) (target.not_mem_label (by decide) (by decide))
  obtain ⟨m, hm, -, hget⟩ := target.reads_quoted.searchAt? startsIn_quotedText hquote
    (c := Cursor.start target.text) (by simp [Cursor.start, text])
  have hsearch : quotedText.search? target.text = some m := hm
  have hpath : m.get "text" = target.path := by
    rw [Match.get, hget]
    rfl
  have hentry : trim (Text.upTo "#" (Text.upTo "//" target.text)) = target.text := by
    have hhash : '#' ∉ target.text :=
      target.not_mem_text (by decide) (by decide) (by decide) target.uncommented.2
    show trim (ImportForm.uncommented target.text) = target.text
    rw [uncommented_of_absent target.absent_text hhash, target.trim_text]
  have hempty : target.text.isEmpty = false := by simp [text]
  unfold blockEntry?
  simp only [hentry, hempty, hsearch, hpath, target.trimmed]
  exact nonEmpty?_eq_some_iff.mpr ⟨rfl, target.nonempty⟩

theorem firstWord_label : firstWord target.label ≠ "import".toList := by
  unfold label
  cases hname : target.localName with
  | none =>
    rw [Option.elim_none]
    decide
  | some name =>
    rw [Option.elim_some]
    rcases target.named name hname with rfl | ⟨hne, hword, himport⟩
    · exact fun h => by cases h
    · obtain ⟨x, name, rfl⟩ := List.exists_cons_of_ne_nil hne
      have hgap : isSpaceOrTab x = false := by
        rw [Bool.eq_false_iff]
        intro hx
        simp [not_isWord_of_isSpaceOrTab hx] at hword
      have hstop : target.gap.takeWhile isWord = [] := by
        cases hcases : target.gap with
        | nil => rfl
        | cons y gap =>
          have hy := List.all_eq_true.mp target.spaced y (by simp [hcases])
          exact List.takeWhile_cons_of_neg (by simp [not_isWord_of_isBlank hy])
      rw [firstWord, List.cons_append, List.dropWhile_cons_of_neg (by simp [hgap]),
        ← List.cons_append, List.takeWhile_append_of_pos (List.all_eq_true.mp hword), hstop,
        List.append_nil]
      exact himport

theorem firstWord_text (rest : Text) : firstWord (target.text ++ rest) ≠ "import".toList := by
  rw [text, List.append_assoc, List.cons_append, firstWord_append_cons (by decide) (by decide)]
  exact target.firstWord_label

end GoTarget

/-- A line of a block of imports: a path or nothing, then perhaps a comment, with white space around
both. -/
structure GoLine where
  before : Text := []
  target : Option GoTarget := none
  behind : Text := []
  comment : Option Text := none
  blank : (before ++ behind).all isBlank = true := by decide
  opened : ∀ c ∈ comment, ')' ∉ c := by decide
  unbroken : Text.Unbroken (before ++ (target.elim [] GoTarget.text ++ behind) ++ comment.getD []) := by
    decide

namespace GoLine

variable (line : GoLine)

def toGroupLine : GroupLine where
  entry := line.before ++ (line.target.elim [] GoTarget.text ++ line.behind)
  comment := line.comment
  unbroken := line.unbroken

def path? : Option Text := line.target.map GoTarget.path

theorem isBlank_before : ∀ c ∈ line.before, isBlank c = true :=
  fun c hc => List.all_eq_true.mp line.blank c (List.mem_append_left _ hc)

theorem isBlank_behind : ∀ c ∈ line.behind, isBlank c = true :=
  fun c hc => List.all_eq_true.mp line.blank c (List.mem_append_right _ hc)

theorem closes_toGroupLine : line.toGroupLine.closes = false := by
  have hopened := line.opened
  show line.comment.any (·.contains ')') = false
  cases hcomment : line.comment with
  | none => rfl
  | some comment => simpa using hopened comment hcomment

theorem blockEntry?_toGroupLine : blockEntry? line.toGroupLine.entry = line.path? := by
  have hpad := blockEntry?_padded line.isBlank_before line.isBlank_behind
    (line.target.elim [] GoTarget.text)
  rw [List.append_assoc] at hpad
  refine hpad.trans ?_
  unfold path?
  cases line.target with
  | none => exact blockEntry?_of_blank (List.forall_mem_nil _)
  | some target => exact target.blockEntry?_text

theorem inGo_toGroupLine : Import.InGo line.toGroupLine where
  opened := by
    show ')' ∉ line.before ++ (line.target.elim [] GoTarget.text ++ line.behind)
    have hbefore : ')' ∉ line.before := not_mem_of_isBlank rfl line.isBlank_before
    have hbehind : ')' ∉ line.behind := not_mem_of_isBlank rfl line.isBlank_behind
    cases line.target with
    | none => simp [hbefore, hbehind]
    | some target =>
      have htarget := target.not_mem_text (by decide) (by decide) (by decide) target.opened
      simp [hbefore, hbehind, htarget]
  apart := by
    show (line.before ++ (line.target.elim [] GoTarget.text ++ line.behind)).getLast? ≠ some '/'
    have hbefore : '/' ∉ line.before := not_mem_of_isBlank rfl line.isBlank_before
    have hbehind : '/' ∉ line.behind := not_mem_of_isBlank rfl line.isBlank_behind
    refine getLast?_append_ne (fun h => hbefore (List.mem_of_mem_getLast? h))
      (getLast?_append_ne ?_ fun h => hbehind (List.mem_of_mem_getLast? h))
    cases line.target with
    | none => simp
    | some target => simp [target.getLast?_text]
  noStatement := by
    show firstWord (line.before ++ (line.target.elim [] GoTarget.text ++ line.behind)) ≠ _
    rcases firstWord_blank_append line.isBlank_before
      (line.target.elim [] GoTarget.text ++ line.behind) with h | h
    · rw [h]
      cases line.target with
      | none =>
        have hbehind := firstWord_blank_append line.isBlank_behind []
        rw [List.append_nil] at hbehind
        rw [Option.elim_none, List.nil_append]
        rcases hbehind with h | h <;> (rw [h]; decide)
      | some target => exact target.firstWord_text line.behind
    · rw [h]
      decide

end GoLine

namespace Import

/-- Each quoted path in a block of imports is read, in order and without names; blocks with the same
paths have the same imports, be they on one line or on many. -/
theorem extract_goBlock (lines : List GoLine) :
    extract .go (goGroup (lines.map GoLine.toGroupLine)) =
      .ok ((lines.filterMap GoLine.path?).map fun path => { path, names := [] }) ∧
    ∀ other : List GoLine, other.filterMap GoLine.path? = lines.filterMap GoLine.path? →
      extract .go (goGroup (other.map GoLine.toGroupLine)) =
        extract .go (goGroup (lines.map GoLine.toGroupLine)) := by
  have hread : ∀ lines : List GoLine, extract .go (goGroup (lines.map GoLine.toGroupLine)) =
      .ok ((lines.filterMap GoLine.path?).map fun path => { path, names := [] }) := by
    intro lines
    have hlines : ∀ line ∈ lines.map GoLine.toGroupLine, InGo line ∧ line.closes = false := by
      intro line hline
      obtain ⟨line, -, rfl⟩ := List.mem_map.mp hline
      exact ⟨line.inGo_toGroupLine, line.closes_toGroupLine⟩
    have hentries : (fun line => blockEntry? line.entry) ∘ GoLine.toGroupLine = GoLine.path? :=
      funext fun line => line.blockEntry?_toGroupLine
    rw [extract_goGroup fun line hline => (hlines line hline).1,
      GroupLine.upToClosing_of_open fun line hline => (hlines line hline).2, goImports,
      List.filterMap_map, hentries]
  refine ⟨hread lines, fun other hother => ?_⟩
  rw [hread, hread, hother]

namespace Sample

def fmt : GoTarget := { localName := some ['f'], path := "fmt".toList }

def one : List GoLine := [{ target := some { path := "fmt".toList } }]

def many : List GoLine :=
  [{}, { before := ['\t'], comment := some " (a".toList },
    { before := ['\t'], target := some fmt, behind := [' '], comment := some "b".toList }]

end Sample

/-- The same path on the only line, and among an empty line and comments under another name. -/
theorem extract_goBlock_sample :
    extract .go "import (\n\"fmt\"\n)".toList = .ok [{ path := "fmt".toList }] ∧
      extract .go "import (\n\n\t// (a\n\tf \"fmt\" //b\n)".toList =
        extract .go "import (\n\"fmt\"\n)".toList := by
  have hone : goGroup (Sample.one.map GoLine.toGroupLine) = "import (\n\"fmt\"\n)".toList := by
    decide +kernel
  have hmany : goGroup (Sample.many.map GoLine.toGroupLine) =
      "import (\n\n\t// (a\n\tf \"fmt\" //b\n)".toList := by
    decide +kernel
  have hread := extract_goBlock Sample.one
  rw [← hone, ← hmany]
  exact ⟨hread.1, hread.2 Sample.many rfl⟩

end Import

end RepoAtlas
