import RepoAtlas.Language.Stock
import RepoAtlas.Proofs.Import.Block
import RepoAtlas.Proofs.Language.Line
import RepoAtlas.Proofs.Pattern.Search

/-!
# Lists of modules in Python

`Import.extract_importList`: an import statement with several modules, each perhaps under another
name, imports the modules one by one, as if each had a statement of its own. A statement with one
module is read as it is and one with more as a block of lines, but the alias is left out either way.
-/

namespace RepoAtlas

open Pattern ImportForm Text

/-- ` as ` and a name. -/
structure AsName where
  before : Text := [' ']
  behind : Text := [' ']
  name : Text
  spaced : (before ≠ [] ∧ before.all isSpaceOrTab = true) ∧
    behind ≠ [] ∧ behind.all isSpaceOrTab = true := by decide
  named : name ≠ [] ∧ name.all isWord = true := by decide

def AsName.text (a : AsName) : Text := a.before ++ ("as".toList ++ (a.behind ++ a.name))

/-- A module in an import statement. -/
structure ImportedModule where
  path : Text
  asName : Option AsName := none
  dotted : path ≠ [] ∧ path.all dotted = true := by decide

def ImportedModule.text (m : ImportedModule) : Text := m.path ++ m.asName.elim [] AsName.text

/-- A module behind a comma. -/
structure FurtherModule where
  before : Text := []
  behind : Text := [' ']
  module : ImportedModule
  spaced : before.all isSpaceOrTab = true ∧ behind.all isSpaceOrTab = true := by decide

def FurtherModule.text (m : FurtherModule) : Text :=
  m.before ++ (',' :: (m.behind ++ m.module.text))

/-- A statement that imports modules. -/
structure ImportList where
  gap : Text := [' ']
  first : ImportedModule
  further : List FurtherModule := []
  spaced : gap ≠ [] ∧ gap.all isSpaceOrTab = true := by decide

namespace ImportList

def modules (s : ImportList) : List ImportedModule := s.first :: s.further.map (·.module)

def listed (s : ImportList) : Text := s.first.text ++ (s.further.map FurtherModule.text).flatten

def text (s : ImportList) : Text := "import".toList ++ (s.gap ++ s.listed)

/-- The statement for a module alone. -/
def single (m : ImportedModule) : ImportList := { first := m }

/-- Statements, each on a line of its own. -/
def written (statements : List ImportList) : Text := ['\n'].intercalate (statements.map text)

end ImportList

-- -------------------------------------
-- Characters
-- -------------------------------------

theorem AsName.text_eq (a : AsName) :
    a.text = a.before ++ ("as".toList ++ a.behind) ++ a.name := by
  simp only [text, List.append_assoc]

theorem AsName.mem_text {a : AsName} {c : Char} (h : c ∈ a.text) :
    ImportForm.dotted c = true ∨ isSpaceOrTab c = true := by
  simp only [text, List.mem_append] at h
  rcases h with h | h | h | h
  · exact .inr (List.all_eq_true.mp a.spaced.1.2 c h)
  · exact .inl (List.all_eq_true.mp (show "as".toList.all ImportForm.dotted = true by decide) c h)
  · exact .inr (List.all_eq_true.mp a.spaced.2.2 c h)
  · exact .inl (dotted_of_isWord (List.all_eq_true.mp a.named.2 c h))

namespace ImportedModule

variable (m : ImportedModule)

theorem mem_text {c : Char} (h : c ∈ m.text) :
    ImportForm.dotted c = true ∨ isSpaceOrTab c = true := by
  rw [text, List.mem_append] at h
  rcases h with h | h
  · exact .inl (List.all_eq_true.mp m.dotted.2 c h)
  · cases hname : m.asName with
    | none => simp [hname] at h
    | some a =>
      rw [hname, Option.elim_some] at h
      exact a.mem_text h

theorem not_mem_text {c : Char} (hdotted : ImportForm.dotted c = false)
    (hgap : isSpaceOrTab c = false) : c ∉ m.text := by
  intro h
  rcases m.mem_text h with h | h
  · rw [hdotted] at h
    cases h
  · rw [hgap] at h
    cases h

theorem not_isBlank_path : ∀ c ∈ m.path, isBlank c = false := fun c hc =>
  not_isBlank_of_dotted (List.all_eq_true.mp m.dotted.2 c hc)

theorem head?_text : ∃ c, m.text.head? = some c ∧ isBlank c = false := by
  obtain ⟨c, path, hpath⟩ := List.exists_cons_of_ne_nil m.dotted.1
  exact ⟨c, by simp [text, hpath], m.not_isBlank_path c (by simp [hpath])⟩

theorem getLast?_text : ∃ c, m.text.getLast? = some c ∧ isBlank c = false := by
  cases hname : m.asName with
  | none =>
    refine ⟨m.path.getLast m.dotted.1, ?_, m.not_isBlank_path _ (List.getLast_mem _)⟩
    rw [text, hname, Option.elim_none, List.append_nil, List.getLast?_eq_some_getLast]
  | some a =>
    refine ⟨a.name.getLast a.named.1, ?_, ?_⟩
    · rw [text, hname, Option.elim_some, a.text_eq, ← List.append_assoc, List.getLast?_append,
        List.getLast?_eq_some_getLast a.named.1, Option.some_or]
    · exact not_isBlank_of_isWord (List.all_eq_true.mp a.named.2 _ (List.getLast_mem _))

theorem trim_text : trim m.text = m.text := trim_of_ends m.head?_text m.getLast?_text

/-- Without its alias, a module is its path. -/
theorem beforeAlias_text : beforeAlias m.text = m.path := by
  have hstart : StartsIn isBlank aliasMark :=
    StartsIn.inOrder (StartsIn.inOrder (startsIn_one fun _ hc => hc) [many isBlank]) _
  have hpath : m.path.any isBlank = false := by
    rw [List.any_eq_false]
    intro c hc
    simp [m.not_isBlank_path c hc]
  rw [beforeAlias, text]
  cases m.asName with
  | none => rw [Option.elim_none, List.append_nil, hstart.upTo_eq_self hpath]
  | some a =>
    have hname : a.name.head?.any isBlank = false := by
      obtain ⟨c, name, hname⟩ := List.exists_cons_of_ne_nil a.named.1
      rw [hname]
      exact not_isBlank_of_isWord (List.all_eq_true.mp a.named.2 c (by simp [hname]))
    have hbefore : a.before.all isBlank = true := List.all_eq_true.mpr fun c hc =>
      isBlank_of_isSpaceOrTab (List.all_eq_true.mp a.spaced.1.2 c hc)
    have hbehind : a.behind.all isBlank = true := List.all_eq_true.mpr fun c hc =>
      isBlank_of_isSpaceOrTab (List.all_eq_true.mp a.spaced.2.2 c hc)
    have hread : Reads aliasMark (a.before ++ ("as".toList ++ a.behind)) a.name [] :=
      Reads.cons (reads_many1 a.spaced.1.1 hbefore rfl) <|
        (reads_lit "as".toList).cons (reads_many1 a.spaced.2.1 hbehind hname).last
    rw [Option.elim_some, a.text_eq]
    exact upTo_eq_of_reads hread hstart hpath

/-- On a line of its own, a module stands for its path. -/
theorem blockEntry?_text : blockEntry? m.text = some m.path := by
  have hentry : trim (Text.upTo "#" (Text.upTo "//" m.text)) = m.text := by
    have hslash : '/' ∉ m.text := m.not_mem_text (by decide) (by decide)
    have hslashes : ¬['/', '/'] <:+: m.text := fun h => hslash (h.subset (.head _))
    show trim (uncommented m.text) = m.text
    rw [uncommented_of_absent hslashes (m.not_mem_text (by decide) (by decide)), m.trim_text]
  have hempty : m.text.isEmpty = false := by
    simp [text, m.dotted.1]
  have hquote : quotedText.search? m.text = none :=
    startsIn_quotedText.search?_eq_none <| any_isQuote_eq_false
      (m.not_mem_text (by decide) (by decide)) (m.not_mem_text (by decide) (by decide))
      (m.not_mem_text (by decide) (by decide))
  have hpath : trim m.path = m.path := trim_of_not_isBlank m.not_isBlank_path
  have hsigns : dropBoth (anyOf ",;()") m.path = m.path := by
    refine dropBoth_of_none fun c hc => ?_
    cases hsign : anyOf ",;()" c with
    | false => rfl
    | true =>
      have hcases : c = ',' ∨ c = ';' ∨ c = '(' ∨ c = ')' := by simpa [anyOf] using hsign
      have hdotted := List.all_eq_true.mp m.dotted.2 c hc
      rcases hcases with rfl | rfl | rfl | rfl
      all_goals exact absurd hdotted (by decide)
  unfold blockEntry?
  simp only [hentry, hempty, hquote, m.beforeAlias_text, hpath, hsigns]
  exact nonEmpty?_eq_some_iff.mpr ⟨rfl, m.dotted.1⟩

theorem unbroken_text : Text.Unbroken m.text := by
  intro c hc
  rcases m.mem_text hc with hdotted | hgap
  · cases hbreak : isLineBreak c with
    | false => rfl
    | true =>
      have hblank := not_isBlank_of_dotted hdotted
      rw [isBlank_of_isLineBreak hbreak] at hblank
      cases hblank
  · rcases eq_of_isSpaceOrTab hgap with rfl | rfl <;> rfl

end ImportedModule

-- -------------------------------------
-- Reading a statement
-- -------------------------------------

theorem head?_gap {gap : Text} (hne : gap ≠ []) (hgap : gap.all isSpaceOrTab = true) (t : Text) :
    (gap ++ t).head?.any ImportForm.dotted = false := by
  obtain ⟨c, gap, rfl⟩ := List.exists_cons_of_ne_nil hne
  rcases eq_of_isSpaceOrTab (List.all_eq_true.mp hgap c (.head _)) with rfl | rfl <;> rfl

/-- What may follow a module: nothing, or spaces and tabs up to a comma or the end of the line. -/
def EndsModule (t : Text) : Prop :=
  t = [] ∨ ∃ gap x rest, t = gap ++ x :: rest ∧ gap.all isSpaceOrTab = true ∧ (x = ',' ∨ x = '\n')

namespace EndsModule

variable {t : Text}

theorem head? (h : EndsModule t) : t.head?.any ImportForm.dotted = false := by
  rcases h with rfl | ⟨gap, x, rest, rfl, hgap, hx⟩
  · rfl
  · cases gap with
    | nil => rcases hx with rfl | rfl <;> rfl
    | cons y gap => exact head?_gap (List.cons_ne_nil _ _) hgap _

theorem not_isWord (h : EndsModule t) : t.head?.any isWord = false := by
  have hhead := h.head?
  cases t with
  | nil => rfl
  | cons c t =>
    rw [List.head?_cons, Option.any_some] at hhead ⊢
    cases hword : isWord c with
    | false => rfl
    | true =>
      rw [dotted_of_isWord hword] at hhead
      cases hhead

/-- There is no alias. -/
theorem misses (h : EndsModule t) :
    Misses (inOrder [Pattern.gap, "as", Pattern.gap, many1 isWord]) t := by
  rcases h with rfl | ⟨gap, x, rest, rfl, hgap, hx⟩
  · exact StartsIn.misses (startsIn_gap _) rfl
  · have hwithin : Within isSpaceOrTab (inOrder [Pattern.gap]) :=
      .seq (within_one fun _ hc => hc) (within_many fun _ hc => hc)
    have has : StartsIn (· == 'a') (inOrder ["as", Pattern.gap, many1 isWord]) :=
      StartsIn.inOrder (startsIn_lit rfl rfl) _
    have hgapA : gap.any (· == 'a') = false := by
      rw [List.any_eq_false]
      rintro c hc ha
      obtain rfl : c = 'a' := by simpa using ha
      exact absurd (List.all_eq_true.mp hgap _ hc) (by decide)
    rcases hx with rfl | rfl
    · exact hwithin.misses has hgapA (by decide) (by decide) rest
    · exact hwithin.misses has hgapA (by decide) (by decide) rest

end EndsModule

namespace ImportedModule

variable (m : ImportedModule) {rest : Text}

theorem reads_path (hrest : EndsModule rest) :
    Reads (many1 ImportForm.dotted) m.path (m.asName.elim [] AsName.text ++ rest) [] := by
  refine reads_many1 m.dotted.1 m.dotted.2 ?_
  cases m.asName with
  | none => exact hrest.head?
  | some a =>
    rw [Option.elim_some, AsName.text, List.append_assoc]
    exact head?_gap a.spaced.1.1 a.spaced.1.2 _

theorem reads_alias (hrest : EndsModule rest) :
    Reads Python.moduleAlias (m.asName.elim [] AsName.text) rest [] := by
  cases m.asName with
  | none => exact Reads.alt_right hrest.misses reads_empty
  | some a =>
    have hname : (a.name ++ rest).head?.any isSpaceOrTab = false :=
      head?_dotted a.named.1 (List.all_eq_true.mpr fun c hc =>
        dotted_of_isWord (List.all_eq_true.mp a.named.2 c hc)) rest
    have hread : Reads (inOrder [gap, "as", gap, many1 isWord]) a.text rest [] :=
      Reads.cons (reads_many1 a.spaced.1.1 a.spaced.1.2 rfl) <|
        (reads_lit "as".toList).cons <|
        Reads.cons (reads_many1 a.spaced.2.1 a.spaced.2.2 hname)
          (reads_many1 a.named.1 a.named.2 hrest.not_isWord).last
    exact hread.alt_left empty

end ImportedModule

namespace FurtherModule

/-- A module behind a comma, as the statement has it. -/
def round : Pattern := inOrder [gap0, ",", gap0, many1 ImportForm.dotted, Python.moduleAlias]

theorem reads (m : FurtherModule) {rest : Text} (hrest : EndsModule rest) :
    Reads round m.text rest [] := by
  rw [text, ImportedModule.text, ← List.singleton_append]
  have hpath : (m.module.path ++ m.module.asName.elim [] AsName.text ++ rest).head?.any
      isSpaceOrTab = false := by
    rw [List.append_assoc]
    exact head?_dotted m.module.dotted.1 m.module.dotted.2 _
  exact Reads.cons (reads_many m.spaced.1 rfl) <| (reads_lit [',']).cons <|
    Reads.cons (reads_many m.spaced.2 hpath) <|
    (m.module.reads_path hrest).cons (m.module.reads_alias hrest).last

/-- Modules behind commas, up to the end of the line. -/
theorem readsEach (further : List FurtherModule) {tail : Text}
    (htail : tail = [] ∨ tail.head? = some '\n') :
    EndsModule ((further.map text).flatten ++ tail) ∧ ReadsEach round tail (further.map text) := by
  induction further with
  | nil =>
    have hstart : StartsIn (fun c => isSpaceOrTab c || c == ',') round :=
      startsIn_many (by simp_all) (StartsIn.inOrder (startsIn_lit rfl rfl) _)
    rcases htail with rfl | hfeed
    · exact ⟨.inl rfl, hstart.misses rfl⟩
    · obtain ⟨rest, rfl⟩ := List.head?_eq_some_iff.mp hfeed
      exact ⟨.inr ⟨[], '\n', rest, rfl, rfl, .inr rfl⟩, hstart.misses rfl⟩
  | cons m further ih =>
    obtain ⟨hends, hreads⟩ := ih
    have hsplit : ((m :: further).map text).flatten ++ tail =
        m.before ++ ',' :: (m.behind ++ m.module.text ++ ((further.map text).flatten ++ tail)) := by
      simp only [List.map_cons, List.flatten_cons, text, List.append_assoc, List.cons_append]
    exact ⟨.inr ⟨m.before, ',', _, hsplit, m.spaced.1, .inl rfl⟩, by simp [text], m.reads hends, hreads⟩

end FurtherModule

namespace ImportList

variable (s : ImportList)

theorem reads_listed {tail : Text} (htail : tail = [] ∨ tail.head? = some '\n') :
    Reads (ImportForm.path (inOrder [many1 ImportForm.dotted, Python.moduleAlias,
      star FurtherModule.round])) s.listed tail [("path", s.listed)] := by
  refine Reads.capture ?_ "path"
  obtain ⟨hends, hreads⟩ := FurtherModule.readsEach s.further htail
  rw [listed, ImportedModule.text, List.append_assoc]
  refine Reads.cons ?_ ((s.first.reads_alias hends).cons hreads.star.last)
  rw [List.append_assoc]
  exact s.first.reads_path hends

theorem reads {tail : Text} (htail : tail = [] ∨ tail.head? = some '\n') :
    Reads (inOrder [gap0, "import", Pattern.gap, ImportForm.path (inOrder
      [many1 ImportForm.dotted, Python.moduleAlias, star FurtherModule.round])]) s.text tail
      [("path", s.listed)] := by
  have hlisted : (s.listed ++ tail).head?.any isSpaceOrTab = false := by
    rw [listed, ImportedModule.text, List.append_assoc, List.append_assoc]
    exact head?_dotted s.first.dotted.1 s.first.dotted.2 _
  exact (reads_gap0_nil rfl).cons <| (reads_lit "import".toList).cons <|
    Reads.cons (reads_many1 s.spaced.1 s.spaced.2 hlisted) (s.reads_listed htail).last

theorem text_eq : s.text = "import".toList ++ (s.gap ++ s.listed) := rfl

theorem newline_not_mem_text : '\n' ∉ s.text := by
  have hgap : '\n' ∉ s.gap := fun h => absurd (List.all_eq_true.mp s.spaced.2 _ h) (by decide)
  have hfurther : '\n' ∉ (s.further.map FurtherModule.text).flatten := by
    intro h
    obtain ⟨m, -, hmem⟩ := List.mem_flatMap.mp (List.flatMap_def ▸ h)
    have hbefore : '\n' ∉ m.before :=
      fun h => absurd (List.all_eq_true.mp m.spaced.1 _ h) (by decide)
    have hbehind : '\n' ∉ m.behind :=
      fun h => absurd (List.all_eq_true.mp m.spaced.2 _ h) (by decide)
    have hmodule : '\n' ∉ m.module.text := m.module.not_mem_text (by decide) (by decide)
    simp_all [FurtherModule.text]
  have hfirst : '\n' ∉ s.first.text := s.first.not_mem_text (by decide) (by decide)
  have hword : '\n' ∉ "import".toList := by decide
  simp only [text_eq, listed, List.mem_append, not_or]
  exact ⟨hword, hgap, hfirst, hfurther⟩

theorem firstWord_text (rest : Text) : firstWord (s.text ++ rest) = "import".toList := by
  obtain ⟨c, gap, hgap⟩ := List.exists_cons_of_ne_nil s.spaced.1
  have hc : isWord c = false :=
    not_isWord_of_isSpaceOrTab (List.all_eq_true.mp s.spaced.2 c (by simp [hgap]))
  have hstop : (s.gap ++ s.listed ++ rest).takeWhile isWord = [] := by simp [hgap, hc]
  have hword : ∀ x ∈ "import".toList, isWord x = true := List.all_eq_true.mp (by decide)
  rw [text_eq, List.append_assoc]
  show ("import".toList ++ (s.gap ++ s.listed ++ rest)).takeWhile isWord = _
  rw [List.takeWhile_append_of_pos hword, hstop, List.append_nil]

theorem written_cons_cons (next : ImportList) (statements : List ImportList) :
    written (s :: next :: statements) = s.text ++ '\n' :: written (next :: statements) := by
  simp only [written, List.map_cons, List.intercalate_cons_cons, List.append_assoc,
    List.singleton_append]

theorem written_cons (statements : List ImportList) :
    ∃ tail, written (s :: statements) = s.text ++ tail ∧
      BehindBreaks (firstWord · ≠ "from".toList) tail := by
  induction statements generalizing s with
  | nil => exact ⟨[], by simp [written, List.intercalate], trivial⟩
  | cons next statements ih =>
    obtain ⟨tail, hnext, htail⟩ := ih next
    refine ⟨'\n' :: written (next :: statements), s.written_cons_cons next statements,
      fun _ => ?_, ?_⟩
    · show firstWord (written (next :: statements)) ≠ "from".toList
      rw [hnext, next.firstWord_text]
      decide
    · rw [hnext]
      exact (behindBreaks_append next.newline_not_mem_text tail).mpr htail

theorem length_le_written (statements : List ImportList) :
    statements.length ≤ (written (s :: statements)).length := by
  induction statements generalizing s with
  | nil => exact Nat.zero_le _
  | cons next statements ih =>
    have hnext := ih next
    rw [written_cons_cons, List.length_append, List.length_cons, List.length_cons]
    omega

theorem findAll_fromImport (statements : List ImportList) :
    Python.fromImport.findAll (written (s :: statements)) = [] := by
  obtain ⟨tail, hwritten, htail⟩ := s.written_cons statements
  rw [hwritten]
  refine findAll_line_eq_nil (by decide) rfl (startsIn_gap _) ?_
    ((behindBreaks_append s.newline_not_mem_text tail).mpr htail)
  refine misses_of_firstWord (by decide) rfl (startsIn_gap _) ?_
  rw [s.firstWord_text]
  decide

theorem findAll_plainImport (statements : List ImportList) :
    List.Forall₂ (fun s m => Captures [("path", s.listed)] m) (s :: statements)
      (Python.plainImport.findAll (written (s :: statements))) := by
  have hstart : Misses (inOrder [gap0, "import", Pattern.gap, ImportForm.path (inOrder
      [many1 ImportForm.dotted, Python.moduleAlias, star FurtherModule.round])]) [] :=
    misses_of_firstWord (by decide) rfl (startsIn_gap _) (by decide)
  exact matchesFrom_lines
    (fun s _ => ⟨List.cons_ne_nil _ _, s.newline_not_mem_text⟩) (fun s _ _ htail => s.reads htail) hstart
    rfl rfl (Nat.lt_succ_of_le (s.length_le_written statements))

-- -------------------------------------
-- What a statement imports
-- -------------------------------------

def imports : List Import := s.modules.map fun m => { path := m.path, names := [] }

/-- The parts between the commas, without the white space around them. -/
theorem map_trim_splitOn {first : Text} (hfirst : ',' ∉ first) (further : List FurtherModule) :
    (splitOn ',' (first ++ (further.map FurtherModule.text).flatten)).map trim =
      trim first :: further.map (·.module.text) := by
  induction further generalizing first with
  | nil => simp [splitOn_of_not_mem hfirst]
  | cons m further ih =>
    have hblank {t : Text} (ht : t.all isSpaceOrTab = true) : ∀ c ∈ t, isBlank c = true :=
      fun c hc => isBlank_of_isSpaceOrTab (List.all_eq_true.mp ht c hc)
    have hfront : ',' ∉ first ++ m.before := by
      rw [List.mem_append, not_or]
      exact ⟨hfirst, not_mem_of_isBlank rfl (hblank m.spaced.1)⟩
    have hmodule : ',' ∉ m.behind ++ m.module.text := by
      rw [List.mem_append, not_or]
      exact ⟨not_mem_of_isBlank rfl (hblank m.spaced.2), m.module.not_mem_text (by decide) (by decide)⟩
    have hsplit : first ++ ((m :: further).map FurtherModule.text).flatten =
        first ++ m.before ++ ',' ::
          (m.behind ++ m.module.text ++ (further.map FurtherModule.text).flatten) := by
      simp only [List.map_cons, List.flatten_cons, FurtherModule.text, List.append_assoc,
        List.cons_append]
    rw [hsplit, splitOn_append, splitOn_of_not_mem hfront, List.map_append, ih hmodule,
      List.map_singleton, trim_append_blank (hblank m.spaced.1), trim_blank_append (hblank m.spaced.2),
      m.module.trim_text]
    rfl

theorem trim_listed : trim s.listed = s.listed := by
  obtain ⟨front, m, hlisted⟩ : ∃ front, ∃ m : ImportedModule, s.listed = front ++ m.text := by
    rcases s.further.eq_nil_or_concat with hnil | ⟨further, last, hconcat⟩
    · exact ⟨[], s.first, by simp [listed, hnil]⟩
    · refine ⟨s.first.text ++ (further.map FurtherModule.text).flatten ++
        (last.before ++ ',' :: last.behind), last.module, ?_⟩
      simp [listed, hconcat, FurtherModule.text]
  obtain ⟨first, hfirst, hfirstBlank⟩ := s.first.head?_text
  obtain ⟨last, hlast, hlastBlank⟩ := m.getLast?_text
  refine trim_of_ends ⟨first, ?_, hfirstBlank⟩ ⟨last, ?_, hlastBlank⟩
  · rw [listed, List.head?_append, hfirst, Option.some_or]
  · rw [hlisted, List.getLast?_append, hlast, Option.some_or]

/-- The texts of the modules, one a line, have the paths as their entries. -/
theorem filterMap_lines_modules : (Text.lines (['\n'].intercalate (s.modules.map
    ImportedModule.text))).filterMap blockEntry? = s.modules.map ImportedModule.path := by
  have hpieces : ∀ piece ∈ s.modules.map ImportedModule.text, piece.Unbroken ∧ piece ≠ [] := by
    intro piece hpiece
    obtain ⟨m, -, rfl⟩ := List.mem_map.mp hpiece
    exact ⟨m.unbroken_text, by simp [ImportedModule.text, m.dotted.1]⟩
  rw [lines_intercalate_of_ne_nil hpieces, List.filterMap_map]
  have hentry : blockEntry? ∘ ImportedModule.text = some ∘ ImportedModule.path :=
    funext fun m => m.blockEntry?_text
  rw [hentry, List.filterMap_eq_map]

theorem ofMatch_listed {m : Match} (hm : m.get "path" = s.listed) :
    Import.ofMatch { pattern := Python.plainImport, target := Python.importTarget } m =
      .ok s.imports := by
  have hpath : pathOf m = s.listed := by rw [pathOf, hm, s.trim_listed]
  have hcomma : ',' ∉ s.first.text := s.first.not_mem_text (by decide) (by decide)
  cases hfurther : s.further with
  | nil =>
    have hlisted : s.listed = s.first.text := by simp [listed, hfurther]
    have htarget : Python.importTarget m = .ok (some s.first.path) := by
      have hcontains : s.first.text.contains ',' = false := by simpa using hcomma
      simp only [Python.importTarget, hpath, hlisted, hcontains, s.first.beforeAlias_text,
        trim_of_not_isBlank s.first.not_isBlank_path]
      exact congrArg Except.ok (nonEmpty?_eq_some_iff.mpr ⟨rfl, s.first.dotted.1⟩)
    have hfeed : '\n' ∉ s.first.path := fun h => absurd (s.first.not_isBlank_path _ h) (by decide)
    rw [Import.ofMatch_of_target htarget s.first.dotted.1 hfeed]
    simp [imports, modules, hfurther]
  | cons next further =>
    have hcontains : s.listed.contains ',' = true := by
      simp [listed, hfurther, FurtherModule.text]
    have hsplit : (splitOn ',' s.listed).map trim = s.modules.map ImportedModule.text := by
      rw [listed, map_trim_splitOn hcomma, s.first.trim_text, modules, List.map_cons, List.map_map]
      rfl
    have hfeed : '\n' ∈ ['\n'].intercalate (s.modules.map ImportedModule.text) := by
      simp [modules, hfurther, List.intercalate_cons_cons]
    have htarget : Python.importTarget m =
        .ok (some (['\n'].intercalate (s.modules.map ImportedModule.text))) := by
      simp only [Python.importTarget, hpath, hcontains, hsplit, if_true]
      exact congrArg Except.ok (nonEmpty?_eq_some_iff.mpr ⟨rfl, List.ne_nil_of_mem hfeed⟩)
    rw [Import.ofMatch_of_block htarget hfeed, s.filterMap_lines_modules, List.map_map]
    rfl

end ImportList

namespace Import

open ImportList

/-- Statements on lines of their own import what each of them imports. -/
theorem extract_written (s : ImportList) (statements : List ImportList) :
    extract .python (written (s :: statements)) = .ok ((s :: statements).flatMap imports) := by
  have hplain : Finds (written (s :: statements))
      { pattern := Python.plainImport, target := Python.importTarget }
      ((s :: statements).map imports) := by
    refine finds_of_forall₂ ((s.findAll_plainImport statements).imp fun s m hm => ?_)
    refine s.ofMatch_listed ?_
    rw [Match.get, hm]
    rfl
  have hfinds : List.Forall₂ (Finds (written (s :: statements))) Language.python.forms
      [[], (s :: statements).map imports] :=
    .cons (finds_nil (s.findAll_fromImport statements)) (.cons hplain .nil)
  rw [extract_of_finds hfinds]
  simp [List.flatMap_def]

/-- A list of modules is imported module by module, in order and without names, just as if each had
a statement of its own. -/
theorem extract_importList (s : ImportList) :
    extract .python s.text = .ok (s.modules.map fun m => { path := m.path, names := [] }) ∧
      extract .python (written (s.modules.map single)) = extract .python s.text := by
  have hlist : extract .python s.text = .ok s.imports := by
    have hread := extract_written s []
    simpa [written, List.intercalate] using hread
  refine ⟨hlist, ?_⟩
  have hsingles : (s.modules.map single).flatMap imports = s.imports := by
    rw [List.flatMap_map]
    exact List.flatMap_pure_eq_map ..
  rw [hlist, ← hsingles]
  exact extract_written (single s.first) _

example :
    let module : ImportedModule := { path := "a.b".toList, asName := some { name := ['c'] } }
    ImportList.text { first := { path := "os".toList }, further := [{ before := [' '], module }] } =
      "import os , a.b as c".toList := by
  decide +kernel

end Import

end RepoAtlas
