import RepoAtlas.Proofs.Import.Grouped
import RepoAtlas.Proofs.Import.ScriptClause
import RepoAtlas.Proofs.Language.LineEnds

/-!
# Import statements with names

Statements `import clause from 'path'` on lines of their own, in any layout. Every place in them
lies in front of a path, in a path or behind the last statement, and what stands between two quotes
is either a path or a seam and the front of a statement. So the form with names finds each of them,
once and in order (`ScriptImport.findAll_importFrom`), and neither imports without names nor exports
are found.
-/

namespace RepoAtlas

open Pattern ImportForm Text ScriptClause

/-- An import statement, from its indentation on. -/
structure ScriptImport where
  indent : Text := []
  gap : Gap := {}
  /-- White space behind `type`, if the statement has it. -/
  typeOnly : Option Gap := none
  clause : ScriptClause
  beforeFrom : Gap := {}
  behindFrom : Gap := {}
  quote : Char := '\''
  path : Text
  /-- White space in front of a semicolon, if the statement ends with one. -/
  semicolon : Option White := none
  behind : White := {}
  indented : indent.all isSpaceOrTab = true := by decide
  quoted : isSingleOrDouble quote = true := by decide
  nonempty : path ≠ [] := by decide
  unquoted : path.all (!isSingleOrDouble ·) = true := by decide
  unbroken : '\n' ∉ path := by decide
  trimmed : trim path = path := by decide

namespace ScriptImport

/-- The word `type`, if the statement has it. -/
def typing (s : ScriptImport) : Text := s.typeOnly.elim [] ("type".toList ++ ·.text)

/-- The statement up to its clause. -/
def opening (s : ScriptImport) : Text :=
  s.indent ++ ("import".toList ++ (s.gap.text ++ s.typing))

/-- What stands between the clause and the path. -/
def source (s : ScriptImport) : Text := s.beforeFrom.text ++ ("from".toList ++ s.behindFrom.text)

/-- The statement up to its path. -/
def front (s : ScriptImport) : Text := s.opening ++ (s.clause.text ++ s.source)

/-- What stands behind the path. -/
def ending (s : ScriptImport) : Text := s.semicolon.elim [] (·.text ++ [';']) ++ s.behind.text

/-- The path in its quotes. -/
def quotedText (s : ScriptImport) : Text := [s.quote] ++ (s.path ++ [s.quote])

def text (s : ScriptImport) : Text := s.front ++ (s.quotedText ++ s.ending)

/-- Statements on lines of their own. -/
def written (statements : List ScriptImport) : Text := ['\n'].intercalate (statements.map text)

/-- What stands between a statement's path and the statements behind it. -/
def seam (s : ScriptImport) (statements : List ScriptImport) : Text :=
  s.ending ++ if statements.isEmpty then [] else ['\n']

theorem written_cons (s : ScriptImport) (statements : List ScriptImport) :
    written (s :: statements) =
      s.front ++ s.quote :: (s.path ++ s.quote :: (s.seam statements ++ written statements)) := by
  cases statements with
  | nil => simp [written, seam, text, quotedText]
  | cons next statements =>
    simp [written, seam, text, quotedText, List.intercalate_cons_cons]

-- -------------------------------------
-- What the parts consist of
-- -------------------------------------

variable {s : ScriptImport} {statements : List ScriptImport} {lead t u : Text} {c : Char}

theorem isBlank_of_mem_indent (h : c ∈ s.indent) : isBlank c = true :=
  isBlank_of_isSpaceOrTab (List.all_eq_true.mp s.indented c h)

theorem ink_opening (s : ScriptImport) :
    ink s.opening = "import".toList ∨ ink s.opening = "importtype".toList := by
  have hindent : ink s.indent = [] := ink_of_blank fun _ hc => isBlank_of_mem_indent hc
  have hgap (g : Gap) : ink g.text = [] := ink_of_blank fun _ hc => g.isBlank_of_mem hc
  simp only [opening, typing, ink_append, hindent, hgap, List.nil_append]
  cases s.typeOnly with
  | none => exact .inl rfl
  | some g =>
    rw [Option.elim_some, ink_append, hgap]
    exact .inr rfl

theorem isPlain_of_mem_opening (h : c ∈ s.opening) : isPlain c = true := by
  rcases mem_ink h with hblank | hink
  · exact isPlain_of_isBlank hblank
  · rcases s.ink_opening with hopening | hopening <;>
      exact isPlain_of_mem_word rfl (hopening ▸ hink)

theorem isPlain_of_mem_source (h : c ∈ s.source) : isPlain c = true := by
  simp only [source, List.mem_append] at h
  rcases h with h | h | h
  · exact isPlain_of_isBlank (s.beforeFrom.isBlank_of_mem h)
  · exact isPlain_of_mem_word rfl h
  · exact isPlain_of_isBlank (s.behindFrom.isBlank_of_mem h)

theorem clauseChar_of_mem_front (h : c ∈ s.front) : Script.clauseChar c = true := by
  simp only [front, List.mem_append] at h
  rcases h with h | h | h
  · exact clauseChar_of_isPlain (isPlain_of_mem_opening h)
  · exact clauseChar_of_mem h
  · exact clauseChar_of_isPlain (isPlain_of_mem_source h)

/-- White space with at most one semicolon in it. -/
def IsSeam (t : Text) : Prop := ink t <:+ [';']

theorem isSeam_nil : IsSeam [] := List.nil_suffix

theorem isSeam_seam (s : ScriptImport) (statements : List ScriptImport) :
    IsSeam (s.seam statements) := by
  have hbehind : ink s.behind.text = [] := ink_of_blank fun _ hc => s.behind.isBlank_of_mem hc
  have hfeed : ink (if statements.isEmpty then [] else ['\n']) = [] := by split <;> rfl
  simp only [IsSeam, seam, ending, ink_append, hbehind, hfeed, List.append_nil]
  cases s.semicolon with
  | none => exact List.nil_suffix
  | some w =>
    rw [Option.elim_some, ink_append, ink_of_blank fun _ hc => w.isBlank_of_mem hc]
    exact List.suffix_rfl

theorem IsSeam.mem (ht : IsSeam t) (hc : c ∈ t) : isBlank c = true ∨ c = ';' :=
  (mem_ink hc).imp_right fun hink => List.mem_singleton.mp (ht.subset hink)

theorem IsSeam.not_isWord (ht : IsSeam t) (hc : c ∈ t) : isWord c = false := by
  rcases ht.mem hc with hblank | rfl
  · exact not_isWord_of_isBlank hblank
  · rfl

theorem IsSeam.not_isOpening (ht : IsSeam t) (hc : c ∈ t) : isOpening c = false := by
  rcases ht.mem hc with hblank | rfl
  · exact not_isOpening_of_isPlain (isPlain_of_isBlank hblank)
  · rfl

theorem plain_of_isSingleOrDouble (h : isSingleOrDouble c = true) :
    isBlank c = false ∧ isWord c = false := by
  have hcases : c = '\'' ∨ c = '"' := by simpa [isSingleOrDouble] using h
  rcases hcases with rfl | rfl <;> exact ⟨rfl, rfl⟩

/-- A text without quotes. -/
def Unquoted (t : Text) : Prop := ∀ c ∈ t, isSingleOrDouble c = false

theorem Unquoted.append (ht : Unquoted t) (hu : Unquoted u) : Unquoted (t ++ u) := fun c hc =>
  (List.mem_append.mp hc).elim (ht c) (hu c)

theorem unquoted_of_isPlain (h : ∀ c ∈ t, isPlain c = true) : Unquoted t := fun c hc =>
  Import.not_isSingleOrDouble_of_clauseChar (clauseChar_of_isPlain (h c hc))

theorem unquoted_of_blank (h : ∀ c ∈ t, isBlank c = true) : Unquoted t :=
  unquoted_of_isPlain fun c hc => isPlain_of_isBlank (h c hc)

theorem unquoted_word {word : Text} (h : word.all isWord = true) : Unquoted word :=
  unquoted_of_isPlain fun _ hc => isPlain_of_mem_word h hc

theorem unquoted_path (s : ScriptImport) : Unquoted s.path := fun c hc => by
  simpa using List.all_eq_true.mp s.unquoted c hc

theorem IsSeam.unquoted (ht : IsSeam t) : Unquoted t := by
  intro c hc
  rcases ht.mem hc with hblank | rfl
  · exact unquoted_of_blank (List.forall_mem_singleton.mpr hblank) c (.head _)
  · rfl

theorem unquoted_front (s : ScriptImport) : Unquoted s.front := fun _ hc =>
  Import.not_isSingleOrDouble_of_clauseChar (clauseChar_of_mem_front hc)

theorem Unquoted.of_append (h : Unquoted (t ++ u)) : Unquoted u := fun c hc =>
  h c (List.mem_append_right t hc)

-- -------------------------------------
-- Places
-- -------------------------------------

/-- Where a place in written statements lies: in front of the quote that opens a path, in a path, or
behind the last statement. -/
inductive Place (statements : List ScriptImport) (passed ahead : Text) : Prop
  | front (s : ScriptImport) (lead before t more : Text) (hlead : IsSeam lead)
      (hfront : lead ++ s.front = before ++ t) (hahead : ahead = t ++ s.quote :: more)
  | path (s : ScriptImport) (rest : List ScriptImport) (before front t : Text)
      (hrest : s :: rest <:+ statements) (hpassed : passed = before ++ s.quote :: front)
      (hpath : s.path = front ++ t)
      (hahead : ahead = t ++ s.quote :: (s.seam rest ++ written rest))
  | behind (hahead : IsSeam ahead)

theorem Place.later {passed ahead : Text} (h : Place statements passed ahead) (s : ScriptImport)
    (before : Text) : Place (s :: statements) (before ++ passed) ahead := by
  cases h with
  | front s' lead before' t more hlead hfront hahead =>
    exact .front s' lead before' t more hlead hfront hahead
  | path s' rest before' front t hrest hpassed hpath hahead =>
    refine .path s' rest (before ++ before') front t (hrest.trans (List.suffix_cons ..)) ?_ hpath
      hahead
    rw [hpassed, List.append_assoc]
  | behind hahead => exact .behind hahead

theorem place_of_append {passed ahead : Text} (hlead : IsSeam lead)
    (h : lead ++ written statements = passed ++ ahead) : Place statements passed ahead := by
  induction statements generalizing lead passed with
  | nil =>
    refine .behind (.trans ⟨ink passed, ?_⟩ hlead)
    rw [← ink_append, ← h, written, List.map_nil, List.intercalate_nil, List.append_nil]
  | cons s statements ih =>
    rw [written_cons, ← List.append_assoc] at h
    rcases append_cons_eq_append h with ⟨t, hfront, hahead⟩ | ⟨t, hpassed, h⟩
    · exact .front s lead passed t _ hlead hfront hahead
    · rcases append_cons_eq_append h with ⟨t', hpath, hahead⟩ | ⟨t', ht, h⟩
      · exact .path s statements _ t t' List.suffix_rfl hpassed hpath hahead
      · have hlater := (ih (s.isSeam_seam statements) h).later s
          (lead ++ s.front ++ s.quote :: (s.path ++ [s.quote]))
        rw [hpassed, ht]
        simpa using hlater

/-- A match that is found in written statements starts at one of the places. -/
theorem place_of_search {a : Pattern} {m : Match} (h : a.search? (written statements) = some m) :
    ∃ passed ahead, Place statements passed ahead ∧
      a.matchAt? (Cursor.between passed ahead) = some m := by
  have hsearch : a.searchAt? (Cursor.start (written statements)) = some m := h
  obtain ⟨passed, htext, hfirst⟩ :=
    ((Cursor.on_start _).reaches (searchAt?_reaches hsearch).1).eq_between
  exact ⟨passed, m.first.ahead, place_of_append isSeam_nil htext,
    hfirst ▸ matchAt?_of_searchAt? hsearch⟩

theorem findAll_eq_nil_of_place {a : Pattern}
    (h : ∀ passed ahead, Place statements passed ahead →
      a.matchAt? (Cursor.between passed ahead) = none) :
    a.findAll (written statements) = [] := by
  refine findAll_eq_nil (Option.eq_none_iff_forall_ne_some.mpr fun m hm => ?_)
  obtain ⟨passed, ahead, hplace, hmatch⟩ := place_of_search hm
  rw [h passed ahead hplace] at hmatch
  cases hmatch

theorem matchAt?_line_in_path {pieces : List Pattern} {before front : Text} (ahead : Text)
    (h : s.path = front ++ t) :
    (line pieces).matchAt? (Cursor.between (before ++ s.quote :: front) ahead) = none := by
  have hquote : s.quote ≠ '\n' := by
    intro hfeed
    have hquoted := s.quoted
    rw [hfeed] at hquoted
    cases hquoted
  have hstart : ((Cursor.between (before ++ s.quote :: front) ahead).before.isEmpty ||
      (Cursor.between (before ++ s.quote :: front) ahead).behind (· == '\n')) = false := by
    rcases front.eq_nil_or_concat with rfl | ⟨init, x, rfl⟩
    · simpa [Cursor.between, Cursor.behind] using hquote
    · have hx : x ≠ '\n' := by
        rintro rfl
        exact s.unbroken (by simp [h])
      simpa [Cursor.between, Cursor.behind] using hx
  rw [matchAt?, run_line, if_neg (by simp [hstart])]
  rfl

section Statement
variable {word : Text} {ps : List Pattern}

/-- No statement starts where there is no word. -/
theorem misses_of_not_isWord (hne : word ≠ []) (hword : word.all isWord = true)
    (ht : ∀ c ∈ t, isWord c = false) {rest : Text} (hrest : rest = [] ∨ rest.head? = some '\n') :
    Misses (inOrder (gap0 :: lit word :: blank :: ps)) (t ++ rest) := by
  have hnothing : firstWord t = [] := by
    have hdrop : ∀ c ∈ t.dropWhile isSpaceOrTab, isWord c = false := fun c hc =>
      ht c ((List.dropWhile_sublist _).subset hc)
    unfold firstWord
    cases hrest : t.dropWhile isSpaceOrTab with
    | nil => rfl
    | cons x rest =>
      exact List.takeWhile_cons_of_neg (Bool.eq_false_iff.mp (hdrop x (by simp [hrest])))
  refine misses_of_firstWord hne hword (startsIn_blank _) ?_
  rcases hrest with rfl | hrest
  · rw [List.append_nil, hnothing]
    exact hne.symm
  · obtain ⟨rest, rfl⟩ := List.head?_eq_some_iff.mp hrest
    rw [firstWord_append_cons rfl rfl, hnothing]
    exact hne.symm

/-- A statement is found nowhere if it misses in front of every path. -/
theorem findAll_line_eq_nil_of_misses (hne : word ≠ []) (hword : word.all isWord = true)
    (hfront : ∀ (s : ScriptImport) (lead before t more : Text), IsSeam lead →
      lead ++ s.front = before ++ t →
        Misses (inOrder (gap0 :: lit word :: blank :: ps)) (t ++ s.quote :: more)) :
    (line (lit word :: blank :: ps)).findAll (written statements) = [] := by
  have hmiss {c : Cursor} (h : Misses (inOrder (gap0 :: lit word :: blank :: ps)) c.ahead) :
      (line (lit word :: blank :: ps)).matchAt? c = none := by
    rw [matchAt?, run_line, h _ _ rfl, ite_self]
    rfl
  refine findAll_eq_nil_of_place fun passed ahead hplace => ?_
  cases hplace with
  | front s lead before t more hlead hsplit hahead =>
    exact hmiss (hahead ▸ hfront s lead before t more hlead hsplit)
  | path s rest before front t hrest hpassed hpath hahead =>
    rw [hpassed]
    exact matchAt?_line_in_path ahead hpath
  | behind hahead =>
    have hnothing : Misses (inOrder (gap0 :: lit word :: blank :: ps)) (ahead ++ []) :=
      misses_of_not_isWord hne hword (fun _ => hahead.not_isWord) (.inl rfl)
    rw [List.append_nil] at hnothing
    exact hmiss hnothing

end Statement

-- -------------------------------------
-- Imports without names
-- -------------------------------------

theorem run_sideEffect_inv {st r : State} {k : Rest}
    (h : run (inOrder [gap0, "import", blank, quotedPath]) st k = some r) :
    ∃ before gap mark rest, (∀ c ∈ before, isSpaceOrTab c = true) ∧
      (∀ c ∈ gap, isBlank c = true) ∧ isSingleOrDouble mark = true ∧
      st.cursor.ahead = before ++ "import".toList ++ gap ++ mark :: rest := by
  rw [run_inOrder_cons] at h
  obtain ⟨before, c₁, hbefore, ⟨hahead₁, -⟩, h⟩ := run_many_inv h
  rw [run_inOrder_cons] at h
  obtain ⟨c₂, ⟨hahead₂, -⟩, h⟩ := run_lit_inv h
  rw [run_inOrder_cons] at h
  obtain ⟨gap, c₃, -, hgap, ⟨hahead₃, -⟩, h⟩ := run_many1_inv h
  rw [run_inOrder_cons, quotedPath, run_inOrder_cons] at h
  obtain ⟨mark, c₄, hmark, ⟨hahead₄, -⟩, -⟩ := run_one_inv h
  refine ⟨before, gap, mark, c₄.ahead, hbefore, hgap, hmark, ?_⟩
  simp only at hahead₂ hahead₃ hahead₄
  rw [hahead₁, hahead₂, hahead₃, hahead₄]
  simp

/-- In front of a path, white space follows `from` and not `import`. -/
theorem findAll_sideEffect (statements : List ScriptImport) :
    Script.sideEffect.findAll (written statements) = [] := by
  refine findAll_line_eq_nil_of_misses (by decide) rfl
    fun s lead before t more hlead hfront st k hst => ?_
  refine Option.eq_none_iff_forall_ne_some.mpr fun r hrun => ?_
  obtain ⟨indent, gap, mark, rest, hindent, hgap, hmark, hahead⟩ := run_sideEffect_inv hrun
  have hpassed : Unquoted (indent ++ "import".toList ++ gap) :=
    ((unquoted_of_blank fun c hc => isBlank_of_isSpaceOrTab (hindent c hc)).append
      (unquoted_word rfl)).append (unquoted_of_blank hgap)
  have ht : Unquoted t := (hfront ▸ hlead.unquoted.append s.unquoted_front).of_append
  obtain ⟨rfl, -, -⟩ := eq_of_append_cons ht hpassed s.quoted hmark (hst.symm.trans hahead)
  have hends : lead ++ s.opening ++ s.clause.text ++ s.beforeFrom.text ++ "from".toList ++
      s.behindFrom.text = before ++ indent ++ "import".toList ++ gap := by
    simpa [front, source] using hfront
  have hfrom : (lead ++ s.opening ++ s.clause.text ++ s.beforeFrom.text ++
      "from".toList).getLast? = some 'm' := by
    rw [List.getLast?_append]
    rfl
  have himport : (before ++ indent ++ "import".toList).getLast? = some 't' := by
    rw [List.getLast?_append]
    rfl
  rw [eq_of_append_blank ⟨_, hfrom, rfl⟩ ⟨_, himport, rfl⟩
    (fun _ hc => s.behindFrom.isBlank_of_mem hc) hgap hends, himport] at hfrom
  cases hfrom

-- -------------------------------------
-- Exports
-- -------------------------------------

theorem run_reExport_inv {st r : State} {k : Rest} {rest : List Pattern}
    (h : run (inOrder (gap0 :: "export" :: blank :: opt (inOrder ["type", blank]) :: rest)) st k =
      some r) (hrest : StartsIn isOpening (inOrder rest)) :
    ∃ passed mark behind, (ink passed = "export".toList ∨ ink passed = "exporttype".toList) ∧
      isOpening mark = true ∧ st.cursor.ahead = passed ++ mark :: behind := by
  rw [run_inOrder_cons] at h
  obtain ⟨before, c₁, hbefore, ⟨hahead₁, -⟩, h⟩ := run_many_inv h
  have hindent : ink before = [] :=
    ink_of_blank fun c hc => isBlank_of_isSpaceOrTab (hbefore c hc)
  rw [run_inOrder_cons] at h
  obtain ⟨c₂, ⟨hahead₂, -⟩, h⟩ := run_lit_inv h
  rw [run_inOrder_cons] at h
  obtain ⟨gap, c₃, -, hgap, ⟨hahead₃, -⟩, h⟩ := run_many1_inv h
  rw [run_opt_cons, Option.or_eq_some_iff] at h
  simp only at hahead₂ hahead₃
  rcases h with h | ⟨-, h⟩
  · rw [run_inOrder_cons, run_inOrder_cons] at h
    obtain ⟨c₄, ⟨hahead₄, -⟩, h⟩ := run_lit_inv h
    obtain ⟨gap', c₅, -, hgap', ⟨hahead₅, -⟩, h⟩ := run_many1_inv h
    obtain ⟨mark, behind, hopening, hahead₆⟩ := hrest.exists_cons h
    simp only at hahead₄ hahead₅ hahead₆
    refine ⟨before ++ ("export".toList ++ (gap ++ ("type".toList ++ gap'))), mark, behind, .inr ?_,
      hopening, ?_⟩
    · simp only [ink_append, hindent, ink_of_blank hgap, ink_of_blank hgap']
      rfl
    · rw [hahead₁, hahead₂, hahead₃, hahead₄, hahead₅, hahead₆]
      simp
  · obtain ⟨mark, behind, hopening, hahead₄⟩ := hrest.exists_cons h
    simp only at hahead₄
    refine ⟨before ++ ("export".toList ++ gap), mark, behind, .inl ?_, hopening, ?_⟩
    · simp only [ink_append, hindent, ink_of_blank hgap]
      rfl
    · rw [hahead₁, hahead₂, hahead₃, hahead₄]
      simp

/-- A binding stands behind the opening of its statement, or behind a comma. -/
theorem exists_head_of_isOpening {before behind : Text} {mark : Char} (hlead : IsSeam lead)
    (hmark : isOpening mark = true) (h : lead ++ s.front = before ++ mark :: behind) :
    ∃ head, before = lead ++ (s.opening ++ head) ∧
      (head = [] ∨ (ink head).getLast? = some ',') := by
  have hplain {t : Text} (ht : ∀ c ∈ t, isPlain c = true) : ∀ c ∈ t, isOpening c = false :=
    fun c hc => not_isOpening_of_isPlain (ht c hc)
  have hopening := hplain fun c hc => isPlain_of_mem_opening (s := s) hc
  have hsource := hplain fun c hc => isPlain_of_mem_source (s := s) hc
  rcases text_cases s.clause with hclause | ⟨head, b, htext, hhead, hcomma⟩
  · have hall : ∀ c ∈ lead ++ s.front, isOpening c = false :=
      List.forall_mem_append.mpr ⟨fun _ => hlead.not_isOpening, List.forall_mem_append.mpr
        ⟨hopening, List.forall_mem_append.mpr ⟨hplain hclause, hsource⟩⟩⟩
    rw [hall mark (by simp [h])] at hmark
    cases hmark
  · have hsplit : lead ++ s.front =
        lead ++ (s.opening ++ head) ++ b.opening :: (b.rest ++ s.source) := by simp [front, htext]
    have hbefore : ∀ c ∈ lead ++ (s.opening ++ head), isOpening c = false :=
      List.forall_mem_append.mpr ⟨fun _ => hlead.not_isOpening,
        List.forall_mem_append.mpr ⟨hopening, hplain hhead⟩⟩
    have hbehind : ∀ c ∈ b.rest ++ s.source, isOpening c = false :=
      List.forall_mem_append.mpr ⟨hplain fun c hc => by
        simpa [isPlain] using ScriptBinding.mem_rest hc, hsource⟩
    exact ⟨head, (eq_of_append_sole hbefore hbehind hmark (hsplit.symm.trans h)).symm, hcomma⟩

theorem not_export {before passed behind : Text} {mark : Char} (hlead : IsSeam lead)
    (hpassed : ink passed = "export".toList ∨ ink passed = "exporttype".toList)
    (hmark : isOpening mark = true) : lead ++ s.front ≠ before ++ passed ++ mark :: behind := by
  intro h
  obtain ⟨head, hbefore, hcomma⟩ := exists_head_of_isOpening hlead hmark h
  have hink := congrArg ink hbefore
  rw [ink_append, ink_append, ink_append] at hink
  rcases hcomma with rfl | hcomma
  · -- `export` has a letter that `import type` has not
    have hx : 'x' ∈ ink lead ++ (ink s.opening ++ ink []) := by
      rw [← hink, List.mem_append]
      rcases hpassed with hpassed | hpassed <;> exact .inr (by rw [hpassed]; decide)
    simp only [List.mem_append] at hx
    rcases hx with hx | hx | hx
    · exact absurd (hlead.subset hx) (by decide)
    · rcases s.ink_opening with hopening | hopening <;>
        exact absurd (hopening ▸ hx) (by decide)
    · cases hx
  · have hend : (ink passed).getLast? = some 't' ∨ (ink passed).getLast? = some 'e' := by
      rcases hpassed with hpassed | hpassed
      · exact .inl (hpassed ▸ rfl)
      · exact .inr (hpassed ▸ rfl)
    have hlast := congrArg List.getLast? hink
    rw [List.getLast?_append, List.getLast?_append, List.getLast?_append, hcomma] at hlast
    rcases hend with hend | hend <;>
    · rw [hend] at hlast
      cases hlast

theorem findAll_reExport (statements : List ScriptImport) :
    Script.reExport.findAll (written statements) = [] := by
  have hnames : StartsIn isOpening (inOrder [capture "names" (oneOf [
      inOrder ["*", opt (inOrder [blank, "as", blank, many1 isWord])],
      inOrder ["\x7b", many (noneOf "\x7d"), "\x7d"]]), blank, "from", blank, quotedPath]) := by
    refine StartsIn.inOrder (fun s k hs => ?_) _
    refine startsIn_oneOf (fun p hp => ?_) s _ hs
    simp only [List.mem_cons, List.not_mem_nil, or_false] at hp
    rcases hp with rfl | rfl <;> exact StartsIn.inOrder (startsIn_lit rfl rfl) _
  refine findAll_line_eq_nil_of_misses (by decide) rfl
    fun s lead before t more hlead hfront st k hst => ?_
  refine Option.eq_none_iff_forall_ne_some.mpr fun r hrun => ?_
  obtain ⟨passed, mark, behind, hpassed, hmark, hahead⟩ := run_reExport_inv hrun hnames
  rcases append_cons_eq_append (hst.symm.trans hahead) with ⟨t', rfl, hrest⟩ | ⟨t', rfl, -⟩
  · cases t' with
    | nil =>
      obtain ⟨hequal, -⟩ : mark = s.quote ∧ behind = more := by simpa using hrest
      have hcases : mark = '*' ∨ mark = '\x7b' := by simpa [isOpening] using hmark
      have hquoted := hequal ▸ s.quoted
      rcases hcases with rfl | rfl <;> cases hquoted
    | cons x t' =>
      obtain ⟨rfl, -⟩ : mark = x ∧ behind = t' ++ s.quote :: more := by simpa using hrest
      exact not_export hlead hpassed hmark (by simpa using hfront)
  · have hquote : s.quote ∈ ink (t ++ s.quote :: t') := by
      refine (mem_ink (by simp)).resolve_left fun hblank => ?_
      have hnot := unquoted_of_blank (List.forall_mem_singleton.mpr hblank) s.quote (.head _)
      rw [s.quoted] at hnot
      cases hnot
    have hnot : isSingleOrDouble s.quote = false := by
      rcases hpassed with hpassed | hpassed <;>
        exact unquoted_word rfl s.quote (hpassed ▸ hquote)
    rw [s.quoted] at hnot
    cases hnot

-- -------------------------------------
-- Imports with names
-- -------------------------------------

/-- The clause does not end before its end, as no quote follows white space and `from` there. -/
theorem misses_fromPath (ht : t <:+ s.clause.text) (hne : t ≠ []) (rest : Text) :
    Misses Script.fromPath (t ++ (s.source ++ s.quote :: rest)) := by
  intro st k hst
  refine Option.eq_none_iff_forall_ne_some.mpr fun r hrun => ?_
  obtain ⟨first, gap, mark, rest', -, hfirst, -, hgap, hmark, hahead⟩ :=
    Script.run_fromPath_inv hrun
  have hclause : Unquoted t := fun c hc =>
    Import.not_isSingleOrDouble_of_clauseChar (clauseChar_of_mem (ht.subset hc))
  have hfront : Unquoted (t ++ s.source) :=
    hclause.append (unquoted_of_isPlain fun _ hc => isPlain_of_mem_source hc)
  have hpassed : Unquoted (first ++ "from".toList ++ gap) :=
    ((unquoted_of_blank hfirst).append (unquoted_word rfl)).append (unquoted_of_blank hgap)
  rw [← List.append_assoc] at hst
  obtain ⟨hequal, -, -⟩ := eq_of_append_cons hfront hpassed s.quoted hmark (hst.symm.trans hahead)
  have hends : t ++ s.beforeFrom.text ++ "from".toList ++ s.behindFrom.text =
      first ++ "from".toList ++ gap := by simpa [source] using hequal
  have hword := eq_of_append_blank ⟨'m', by rw [List.getLast?_append]; rfl, rfl⟩
    ⟨'m', by rw [List.getLast?_append]; rfl, rfl⟩ (fun _ hc => s.behindFrom.isBlank_of_mem hc) hgap
    hends
  obtain ⟨c, hlast, hblank⟩ := s.clause.getLast?_text
  have hmem : c ∈ t := by
    obtain ⟨front, hclause⟩ := ht
    rw [← hclause, List.getLast?_append, List.getLast?_eq_some_getLast hne, Option.some_or] at hlast
    cases hlast
    exact List.getLast_mem hne
  have hcblank : isBlank c = true := by
    refine hfirst c ?_
    rw [← List.append_cancel_right hword]
    exact List.mem_append_left _ hmem
  rw [hblank] at hcblank
  cases hcblank

theorem reads_quotedPath {path : Text} {x y : Char} (hx : isSingleOrDouble x = true)
    (hy : isSingleOrDouble y = true) (hne : path ≠ [])
    (hpath : Unquoted path) (rest : Text) :
    Reads quotedPath ([x] ++ (path ++ [y])) rest [("path", path)] := by
  have hinside : path.all (noneOf "'\"") = true := by
    refine List.all_eq_true.mpr fun c hc => ?_
    simpa [noneOf, isSingleOrDouble] using hpath c hc
  have hstop : ([y] ++ rest).head?.any (noneOf "'\"") = false := by
    simpa [noneOf, isSingleOrDouble, or_iff_not_imp_left] using hy
  exact (reads_one hx).cons <| ((reads_many1 hne hinside hstop).capture "path").cons
    (reads_one hy).last

theorem reads_fromPath (s : ScriptImport) (rest : Text) :
    Reads Script.fromPath (s.source ++ s.quotedText) rest [("path", s.path)] := by
  have hpath := reads_quotedPath s.quoted s.quoted s.nonempty s.unquoted_path rest
  rw [source, List.append_assoc, List.append_assoc]
  exact (reads_many1 (List.cons_ne_nil _ _) s.beforeFrom.all_text (by rfl)).cons <|
    (reads_lit "from".toList).cons <|
    (reads_many1 (List.cons_ne_nil _ _) s.behindFrom.all_text
      (by exact (plain_of_isSingleOrDouble s.quoted).1)).cons hpath.last

/-- The statement from its clause on. -/
theorem reads_clause (s : ScriptImport) (rest : Text) :
    Reads Script.namesFromPath (s.clause.text ++ (s.source ++ s.quotedText)) rest
      [("path", s.path), ("names", s.clause.text)] := by
  obtain ⟨c, hc, -⟩ := s.clause.head?_text
  have hne : s.clause.text ≠ [] := by
    intro hnil
    rw [hnil] at hc
    cases hc
  have hnext : (s.source ++ s.quotedText ++ rest).head?.all isBlank = true := s.beforeFrom.blank
  have hmiss : ∀ t, t <:+ s.clause.text → t ≠ [] → t.head?.all isBlank = true →
      Misses Script.fromPath (t ++ (s.source ++ s.quotedText ++ rest)) := by
    intro t ht hne _
    have hmiss := s.misses_fromPath ht hne (s.path ++ s.quote :: rest)
    simpa [quotedText] using hmiss
  exact reads_few1To "names" hne (List.all_eq_true.mpr fun _ hc => clauseChar_of_mem hc)
    hnext hmiss (s.reads_fromPath rest)

theorem reads_typing (s : ScriptImport) (rest : Text) :
    Reads (inOrder [opt (inOrder ["type", blank]), Script.namesFromPath])
      (s.typing ++ (s.clause.text ++ (s.source ++ s.quotedText))) rest
      [("path", s.path), ("names", s.clause.text)] := by
  obtain ⟨c, hc, hblank⟩ := s.clause.head?_text
  rw [typing]
  cases s.typeOnly with
  | none =>
    refine Reads.opt_skip ?_ (s.reads_clause rest)
    simp only [source, Option.elim_none, List.nil_append, List.append_assoc]
    exact misses_type s.clause s.beforeFrom _
  | some g =>
    have htype : Reads (inOrder ["type", blank]) ("type".toList ++ g.text)
        (s.clause.text ++ (s.source ++ s.quotedText) ++ rest) [] :=
      (reads_lit "type".toList).cons
        (reads_many1 (List.cons_ne_nil _ _) g.all_text (by simp [hc, hblank])).last
    exact (htype.alt_left empty).cons (s.reads_clause rest)

theorem reads_importFrom (s : ScriptImport) (rest : Text) :
    Reads (inOrder [gap0, "import", blank, opt (inOrder ["type", blank]), Script.namesFromPath])
      (s.front ++ s.quotedText) rest [("path", s.path), ("names", s.clause.text)] := by
  obtain ⟨c, hc, hblank⟩ := s.clause.head?_text
  have hstop : (s.typing ++ (s.clause.text ++ (s.source ++ s.quotedText)) ++ rest).head?.any
      isBlank = false := by
    rw [typing]
    cases s.typeOnly with
    | none => simp [hc, hblank]
    | some g => rfl
  simp only [front, opening, List.append_assoc]
  exact (reads_many s.indented (by rfl)).cons <| (reads_lit "import".toList).cons <|
    (reads_many1 (List.cons_ne_nil _ _) s.gap.all_text hstop).cons (s.reads_typing rest)

theorem misses_between {rest : Text} {ps : List Pattern} (hlead : IsSeam lead)
    (hend : rest = [] ∨ lead.getLast? = some '\n') (ht : t <:+ lead) (hne : t ≠ []) :
    Misses (inOrder (gap0 :: "import" :: blank :: ps)) (t ++ rest) := by
  have hword : ∀ c ∈ t, isWord c = false := fun _ hc => hlead.not_isWord (ht.subset hc)
  rcases hend with rfl | hend
  · exact misses_of_not_isWord (by decide) rfl hword (.inl rfl)
  · obtain ⟨init, x, rfl⟩ := t.eq_nil_or_concat.resolve_left hne
    obtain ⟨front, rfl⟩ := ht
    obtain rfl : x = '\n' := by simpa using hend
    rw [List.concat_append]
    exact misses_of_not_isWord (by decide) rfl (fun c hc => hword c (by simp [hc])) (.inr rfl)

theorem searchAt?_importFrom {rest : Text} {cursor : Cursor} (hlead : IsSeam lead)
    (hend : rest = [] ∨ lead.getLast? = some '\n' ∨ lead = []) (hc : cursor.ahead = lead ++ rest) :
    Script.importFrom.searchAt? cursor = Script.importFrom.searchAt? (cursor.past lead) := by
  refine searchAt?_past (fun t ht hne s k hs => ?_) hc
  have hend : rest = [] ∨ lead.getLast? = some '\n' := by
    refine hend.imp_right fun h => h.resolve_right ?_
    rintro rfl
    exact hne (List.suffix_nil.mp ht)
  rw [Script.importFrom, run_line, misses_between hlead hend ht hne s k hs, ite_self]

theorem matchesFrom_importFrom {cursor : Cursor} {limit : Nat}
    (hlead : IsSeam lead) (hlimit : statements.length ≤ limit)
    (hend : statements = [] ∨ lead.getLast? = some '\n' ∨ lead = [] ∧ cursor.before = [])
    (hc : cursor.ahead = lead ++ written statements) :
    List.Forall₂ (fun s m => Captures [("path", s.path), ("names", s.clause.text)] m) statements
      (Script.importFrom.matchesFrom limit cursor []) := by
  induction statements generalizing lead cursor limit with
  | nil =>
    have hahead : (cursor.past lead).ahead = [] := Cursor.ahead_past hc
    have hnothing : Misses (inOrder [gap0, "import", blank, opt (inOrder ["type", blank]),
        Script.namesFromPath]) [] :=
      misses_of_firstWord (by decide) rfl (startsIn_blank _) (by decide)
    have hnone : Script.importFrom.searchAt? (cursor.past lead) = none :=
      searchAt?_line_eq_none (fun _ => hahead ▸ hnothing) (hahead ▸ trivial)
    rw [matchesFrom_none ((searchAt?_importFrom hlead (.inl rfl) hc).trans hnone)]
    exact .nil
  | cons s statements ih =>
    have hend := hend.resolve_left (List.cons_ne_nil _ _)
    have hstart : ((cursor.past lead).before.isEmpty ||
        (cursor.past lead).behind (· == '\n')) = true := by
      rcases hend with hend | ⟨rfl, hbefore⟩
      · obtain ⟨init, rfl⟩ := List.getLast?_eq_some_iff.mp hend
        simp [Cursor.past, Cursor.behind]
      · simp [Cursor.past, hbefore]
    have hahead : (cursor.past lead).ahead = s.front ++ s.quotedText ++
        (s.seam statements ++ written statements) := by
      rw [Cursor.ahead_past hc, written_cons]
      simp [quotedText]
    obtain ⟨limit, rfl⟩ := Nat.exists_eq_add_of_le' hlimit
    obtain ⟨m, hm, hmatches⟩ := matchesFrom_line (s.reads_importFrom _) (by simp [quotedText])
      hstart hahead (limit + statements.length)
    have hfound : Script.importFrom.matchesFrom (limit + statements.length + 1)
        (cursor.past lead) [] = m :: Script.importFrom.matchesFrom (limit + statements.length)
          ((cursor.past lead).past (s.front ++ s.quotedText)) [] := hmatches
    rw [List.length_cons, ← Nat.add_assoc,
      matchesFrom_congr (searchAt?_importFrom hlead (.inr (hend.imp_right And.left)) hc), hfound]
    refine .cons hm
      (ih (s.isSeam_seam statements) (Nat.le_add_left _ _) ?_ (Cursor.ahead_past hahead))
    cases statements with
    | nil => exact .inl rfl
    | cons next statements => exact .inr (.inl (by simp [seam]))

theorem length_le_written (statements : List ScriptImport) :
    statements.length ≤ (written statements).length := by
  induction statements with
  | nil => exact Nat.zero_le _
  | cons s statements ih =>
    rw [written_cons]
    simp only [List.length_cons, List.length_append]
    omega

theorem findAll_importFrom (statements : List ScriptImport) :
    List.Forall₂ (fun s m => Captures [("path", s.path), ("names", s.clause.text)] m) statements
      (Script.importFrom.findAll (written statements)) := by
  have hlength : statements.length ≤ (written statements).length + 1 :=
    Nat.le_succ_of_le (length_le_written statements)
  exact matchesFrom_importFrom isSeam_nil hlength (.inr (.inr ⟨rfl, rfl⟩)) rfl

end ScriptImport

end RepoAtlas
