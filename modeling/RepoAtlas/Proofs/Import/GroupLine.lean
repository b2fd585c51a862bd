import RepoAtlas.Proofs.Import.Block
import RepoAtlas.Proofs.Language.Line

/-!
# Lines of grouped imports

A grouped import has one entry a line, and a comment may stand behind an entry. What stands between
the parentheses of a group ends at the first closing parenthesis, which may lie in a comment.
-/

namespace RepoAtlas

/-- A line of a grouped import: an entry, and perhaps a comment behind it. -/
structure GroupLine where
  entry : Text
  comment : Option Text := none
  unbroken : Text.Unbroken (entry ++ comment.getD []) := by decide

namespace GroupLine

open Text

variable {mark : Text} {line : GroupLine} {lines : List GroupLine}

/-- The line without its comment. -/
def bare (line : GroupLine) : GroupLine where
  entry := line.entry
  unbroken c hc := line.unbroken c (List.mem_append_left _ (by simpa using hc))

def text (mark : Text) (line : GroupLine) : Text := line.entry ++ line.comment.elim [] (mark ++ ·)

/-- The lines of a group, each behind a line feed. -/
def block (mark : Text) (lines : List GroupLine) : Text := Import.stacked (lines.map (text mark))

def closes (line : GroupLine) : Bool := line.comment.any (·.contains ')')

/-- The lines up to the first with a closing parenthesis in its comment. -/
def upToClosing : List GroupLine → List GroupLine
  | [] => []
  | line :: lines => if line.closes then [line] else line :: upToClosing lines

theorem upToClosing_sublist (lines : List GroupLine) : (upToClosing lines).Sublist lines := by
  induction lines with
  | nil => exact .slnil
  | cons line lines ih =>
    rw [upToClosing]
    split
    · exact (List.nil_sublist lines).cons_cons line
    · exact ih.cons_cons line

theorem upToClosing_of_open (h : ∀ line ∈ lines, line.closes = false) :
    upToClosing lines = lines := by
  induction lines with
  | nil => rfl
  | cons line lines ih =>
    obtain ⟨hline, hlines⟩ := List.forall_mem_cons.mp h
    rw [upToClosing, hline, if_neg Bool.false_ne_true, ih hlines]

/-- What stands between the parentheses of a group. -/
def inside (mark : Text) (lines : List GroupLine) : Text :=
  (block mark lines ++ ['\n', ')']).takeWhile (· != ')')

theorem block_cons (mark : Text) (line : GroupLine) (lines : List GroupLine) :
    block mark (line :: lines) = '\n' :: (line.text mark ++ block mark lines) :=
  Import.stacked_cons ..

/-- What a comment starts with: not a part of a word, and no end of a line or a group. -/
structure IsMark (mark : Text) : Prop where
  unbroken : mark.Unbroken
  opened : ')' ∉ mark
  head : ∃ x rest, mark = x :: rest ∧ Pattern.isSpaceOrTab x = false ∧ isWord x = false

theorem isMark_slashes : IsMark "//" := ⟨by decide, by decide, '/', ['/'], by decide⟩

theorem isMark_hash : IsMark "#" := ⟨by decide, by decide, '#', [], by decide⟩

/-- What stands between the parentheses is read up to the first closing one. -/
theorem exists_reads_inside (mark : Text) (lines : List GroupLine) :
    ∃ rest, block mark lines ++ ['\n', ')'] = inside mark lines ++ ')' :: rest ∧
      Pattern.Reads (.many (Pattern.noneOf ")")) (inside mark lines) (')' :: rest) [] := by
  have hmem : ')' ∈ block mark lines ++ ['\n', ')'] := by simp
  obtain ⟨rest, hrest⟩ := takeWhile_bne_append hmem
  refine ⟨rest, hrest, Pattern.reads_many (List.all_eq_true.mpr fun c hc => ?_) rfl⟩
  have hc : c ≠ ')' := by
    rintro rfl
    exact not_mem_takeWhile_bne _ _ hc
  simpa [Pattern.noneOf] using hc

variable (hmark : IsMark mark)
include hmark

theorem unbroken_text (line : GroupLine) : (line.text mark).Unbroken := by
  have hline := line.unbroken
  intro c hc
  unfold text at hc
  cases hcomment : line.comment with
  | none => exact hline c (by simpa [hcomment] using hc)
  | some comment =>
    simp only [hcomment, Option.elim_some, List.mem_append] at hc
    rcases hc with hc | hc | hc
    · exact hline c (List.mem_append_left _ hc)
    · exact hmark.unbroken c hc
    · exact hline c (List.mem_append_right _ (by simpa [hcomment] using hc))

/-- The text of a line up to a closing parenthesis. -/
theorem takeWhile_text (hentry : ')' ∉ line.entry) :
    (line.text mark).takeWhile (· != ')') =
      line.entry ++ line.comment.elim [] (mark ++ ·.takeWhile (· != ')')) := by
  rw [text, List.takeWhile_append_of_pos (bne_of_not_mem hentry)]
  cases line.comment with
  | none => rfl
  | some comment =>
    rw [Option.elim_some, Option.elim_some,
      List.takeWhile_append_of_pos (bne_of_not_mem hmark.opened)]

theorem mem_text_iff_closes (hentry : ')' ∉ line.entry) :
    ')' ∈ line.text mark ↔ line.closes = true := by
  unfold text closes
  cases line.comment <;> simp [hmark.opened, hentry]

/-- What stands between the parentheses, line by line. -/
theorem inside_eq (hlines : ∀ line ∈ lines, ')' ∉ line.entry) :
    ∃ tail, (tail = [] ∨ tail = ['\n']) ∧ inside mark lines =
      Import.stacked ((upToClosing lines).map fun line => (line.text mark).takeWhile (· != ')')) ++
        tail := by
  induction lines with
  | nil => exact ⟨['\n'], .inr rfl, rfl⟩
  | cons line lines ih =>
    obtain ⟨hline, hlines⟩ := List.forall_mem_cons.mp hlines
    have hinside : inside mark (line :: lines) =
        '\n' :: (line.text mark ++ (block mark lines ++ ['\n', ')'])).takeWhile (· != ')') := by
      rw [inside, block_cons, List.cons_append, List.append_assoc,
        List.takeWhile_cons_of_pos (by decide)]
    rw [hinside, upToClosing]
    by_cases hcloses : line.closes = true
    · have hmem := (mem_text_iff_closes hmark hline).mpr hcloses
      refine ⟨[], .inl rfl, ?_⟩
      rw [if_pos hcloses, takeWhile_bne_append_of_mem hmem, List.map_singleton]
      simp [Import.stacked]
    · have hpass := bne_of_not_mem (mt (mem_text_iff_closes hmark hline).mp hcloses)
      obtain ⟨tail, htail, hrest⟩ := ih hlines
      refine ⟨tail, htail, ?_⟩
      rw [if_neg hcloses, List.map_cons, Import.stacked_cons, List.takeWhile_append_of_pos hpass,
        List.takeWhile_eq_self_iff.mpr hpass, ← inside, hrest, List.cons_append, List.append_assoc]

/-- The lines of a group start with the first words of their entries. -/
theorem behindBreaks_block (word closing : Text)
    (hlines : ∀ line ∈ lines, firstWord line.entry ≠ word)
    (hclosing : BehindBreaks (firstWord · ≠ word) ('\n' :: closing)) :
    BehindBreaks (firstWord · ≠ word) (block mark lines ++ '\n' :: closing) := by
  induction lines with
  | nil => exact hclosing
  | cons line lines ih =>
    obtain ⟨hline, hlines⟩ := List.forall_mem_cons.mp hlines
    have hfeed : '\n' ∉ line.text mark := fun h => by cases unbroken_text hmark line _ h
    have hfirst : firstWord (line.text mark) = firstWord line.entry := by
      obtain ⟨x, rest, rfl, hgap, hword⟩ := hmark.head
      unfold text
      cases line.comment with
      | none => simp
      | some comment => exact firstWord_append_cons hgap hword _ _
    obtain ⟨rest, hrest⟩ : ∃ rest, block mark lines ++ '\n' :: closing = '\n' :: rest := by
      cases lines with
      | nil => exact ⟨closing, rfl⟩
      | cons next lines => exact ⟨_, by rw [block_cons, List.cons_append]⟩
    rw [block_cons, List.cons_append, List.append_assoc]
    refine ⟨fun _ => ?_, (behindBreaks_append hfeed _).mpr (ih hlines)⟩
    show firstWord (line.text mark ++ (block mark lines ++ '\n' :: closing)) ≠ word
    rw [hrest, firstWord_append_cons (by decide) (by decide), hfirst]
    exact hline

end GroupLine

end RepoAtlas
