import Mathlib.Data.List.Chain
import RepoAtlas.Language.Stock
import RepoAtlas.Proofs.Import.ScriptImport

/-!
# Import statements that look like calls

A call of `require` is found anywhere, so also from the end of one path to the start of the next:
in `import a from 'require('` with `import b from ')'` on the next line, what stands between the
inner quotes is taken for the path of a call. `Import.extract_scriptImports`: this is the only case
in which anything but the statements' own imports is found.
-/

namespace RepoAtlas

open Pattern ImportForm Text ScriptClause ScriptImport

-- -------------------------------------
-- Calls
-- -------------------------------------

/-- A call of `require` with a path in quotes, which need not be the same. -/
structure RequireCall where
  gap : White
  before : White
  left : Char
  inside : Text
  right : Char
  behind : White
  quotedLeft : isSingleOrDouble left = true
  quotedRight : isSingleOrDouble right = true
  nonempty : inside ≠ []
  unquoted : Unquoted inside

namespace RequireCall

/-- The call up to its path. -/
def opening (call : RequireCall) : Text :=
  "require".toList ++ (call.gap.text ++ '(' :: call.before.text)

def closing (call : RequireCall) : Text := call.behind.text ++ [')']

def text (call : RequireCall) : Text :=
  call.opening ++ call.left :: (call.inside ++ call.right :: call.closing)

theorem opening_eq (call : RequireCall) :
    call.opening = "require".toList ++ (call.gap.text ++ '(' :: call.before.text) := rfl

theorem text_eq (call : RequireCall) : call.text = "require".toList ++ (call.gap.text ++
    '(' :: (call.before.text ++ call.left :: (call.inside ++ call.right ::
      (call.behind.text ++ [')'])))) := by
  simp only [text, opening_eq, closing, List.append_assoc, List.cons_append]

theorem unquoted_opening (call : RequireCall) : Unquoted call.opening :=
  (unquoted_word rfl).append <| (unquoted_of_blank fun _ hc => call.gap.isBlank_of_mem hc).append <|
    Unquoted.append (t := ['(']) (List.forall_mem_singleton.mpr rfl)
      (unquoted_of_blank fun _ hc => call.before.isBlank_of_mem hc)

theorem reads_text (call : RequireCall) (rest : Text) :
    Reads (inOrder ["require", blank0, "(", blank0, quotedPath, blank0, ")"]) call.text rest
      [("path", call.inside)] := by
  have hblank : isBlank call.left = false := (plain_of_isSingleOrDouble call.quotedLeft).1
  have htext : call.text = "require".toList ++ (call.gap.text ++ (['('] ++ (call.before.text ++
      ([call.left] ++ (call.inside ++ [call.right]) ++ (call.behind.text ++ [')']))))) := by
    rw [text_eq]
    simp
  rw [htext]
  exact (reads_lit "require".toList).cons <| (reads_many call.gap.blank rfl).cons <|
    (reads_lit ['(']).cons <| (reads_many call.before.blank (by exact hblank)).cons <|
    (reads_quotedPath call.quotedLeft call.quotedRight call.nonempty call.unquoted _).cons <|
    (reads_many call.behind.blank rfl).cons (reads_lit [')']).last

/-- Every match of the pattern is a call that does not go on with a word. -/
theorem exists_of_matchAt? {cursor : Cursor} {m : Match}
    (h : Script.requireCall.matchAt? cursor = some m) : ∃ (call : RequireCall) (rest : Text),
      cursor.ahead = call.text ++ rest ∧ cursor.behind isWord = false ∧
        m.get "path" = call.inside := by
  obtain ⟨r, hrun, rfl⟩ := Option.map_eq_some_iff.mp h
  rw [Script.requireCall, run_inOrder_cons] at hrun
  simp only [wordEdge, run] at hrun
  split at hrun
  · rename_i hedge
    rw [run_inOrder_cons] at hrun
    obtain ⟨c₁, ⟨hahead₁, -⟩, hrun⟩ := run_lit_inv hrun
    rw [run_inOrder_cons] at hrun
    obtain ⟨gap, c₂, hgap, ⟨hahead₂, -⟩, hrun⟩ := run_many_inv hrun
    rw [run_inOrder_cons] at hrun
    obtain ⟨c₃, ⟨hahead₃, -⟩, hrun⟩ := run_lit_inv hrun
    rw [run_inOrder_cons] at hrun
    obtain ⟨before, c₄, hbefore, ⟨hahead₄, -⟩, hrun⟩ := run_many_inv hrun
    rw [run_inOrder_cons, quotedPath, run_inOrder_cons] at hrun
    obtain ⟨x, c₅, hx, ⟨hahead₅, -⟩, hrun⟩ := run_one_inv hrun
    rw [run_inOrder_cons, run] at hrun
    obtain ⟨inside, c₆, hne, hinside, hc₆, hrun⟩ := run_many1_inv hrun
    obtain ⟨y, c₇, hy, ⟨hahead₇, -⟩, hrun⟩ := run_one_inv hrun
    rw [run_inOrder_cons] at hrun
    obtain ⟨behind, c₈, hbehind, ⟨hahead₈, -⟩, hrun⟩ := run_many_inv hrun
    obtain ⟨c₉, ⟨hahead₉, -⟩, hend⟩ := run_lit_inv hrun
    have hahead₆ := hc₆.1
    simp only at hahead₁ hahead₂ hahead₃ hahead₄ hahead₅ hahead₆ hahead₇ hahead₈ hahead₉
    refine ⟨{ gap := ⟨gap, List.all_eq_true.mpr hgap⟩
              before := ⟨before, List.all_eq_true.mpr hbefore⟩
              left := x, inside, right := y
              behind := ⟨behind, List.all_eq_true.mpr hbehind⟩
              quotedLeft := hx, quotedRight := hy, nonempty := hne
              unquoted := fun c hc => by simpa [noneOf, isSingleOrDouble] using hinside c hc },
      c₉.ahead, ?_, ?_, ?_⟩
    · rw [hahead₁, hahead₂, hahead₃, hahead₄, hahead₅, hahead₆, hahead₇, hahead₈, hahead₉,
        text_eq]
      simp
    · have hfacing : cursor.facing isWord = true := by
        rw [Cursor.facing, hahead₁]
        rfl
      simpa [hfacing] using hedge
    · cases hend
      simp [Match.get, Match.get?, Capture.text, hc₆.take]
  · cases hrun

theorem matchAt?_ne_none (call : RequireCall) {cursor : Cursor} {rest : Text}
    (hbehind : cursor.behind isWord = false) (hahead : cursor.ahead = call.text ++ rest) :
    Script.requireCall.matchAt? cursor ≠ none := by
  have hfacing : cursor.facing isWord = true := by
    rw [Cursor.facing, hahead]
    rfl
  have hmatchAt : Script.requireCall.matchAt? cursor =
      (inOrder ["require", blank0, "(", blank0, quotedPath, blank0, ")"]).matchAt? cursor := by
    rw [matchAt?, Script.requireCall, run_inOrder_cons, matchAt?]
    simp only [wordEdge, run, hbehind, hfacing]
    rfl
  obtain ⟨m, hmatch, -⟩ := (call.reads_text rest).matchAt? hahead
  rw [hmatchAt, hmatch]
  exact Option.some_ne_none m

end RequireCall

namespace ScriptImport

variable {s next : ScriptImport} {rest statements : List ScriptImport} {m : Match}

/-- The path ends as a call of `require` begins, up to the quote. -/
def OpensCall (path : Text) : Prop :=
  ∃ (front : Text) (gap : White), path = front ++ ("require".toList ++ (gap.text ++ ['('])) ∧
    front.getLast?.any isWord = false

/-- Statements one behind the other that do not look like a call of `require`. -/
def Apart (s next : ScriptImport) : Prop := ¬(OpensCall s.path ∧ next.path.head? = some ')')

-- -------------------------------------
-- Where calls are found
-- -------------------------------------

/-- A path ends with a bracket where it ends with the opening of a call. -/
theorem path_eq_of_opening {call : RequireCall} {front : Text}
    (h : s.path = front ++ call.opening) :
    s.path = front ++ ("require".toList ++ (call.gap.text ++ ['('])) := by
  rcases call.before.text.eq_nil_or_concat with hnil | ⟨init, z, hconcat⟩
  · rw [h, call.opening_eq, hnil]
  · obtain ⟨c, hlast, hnot⟩ := (ends_of_trim s.nonempty s.trimmed).2
    have hpath : s.path = front ++ ("require".toList ++ (call.gap.text ++ '(' :: init)) ++ [z] := by
      rw [h, call.opening_eq, hconcat]
      simp
    rw [hpath, List.getLast?_concat, Option.some.injEq] at hlast
    rw [← hlast, call.before.isBlank_of_mem (by simp [hconcat])] at hnot
    cases hnot

/-- A path starts with a bracket where it starts with the closing of a call. -/
theorem head?_path_of_closing {call : RequireCall} {behind rest : Text}
    (h : s.path ++ behind = call.closing ++ rest) : s.path.head? = some ')' := by
  obtain ⟨c, hfirst, hnot⟩ := (ends_of_trim s.nonempty s.trimmed).1
  have hhead := congrArg List.head? h
  rw [List.head?_append, hfirst, RequireCall.closing] at hhead
  cases hblank : call.behind.text with
  | nil => simpa [hblank, hfirst] using hhead
  | cons z more =>
    obtain rfl : c = z := by simpa [hblank] using hhead
    rw [call.behind.isBlank_of_mem (by simp [hblank])] at hnot
    cases hnot

/-- A call is found only from the end of one path to the start of the next. -/
theorem opensCall_of_place {passed ahead : Text} (hplace : Place statements passed ahead)
    (h : Script.requireCall.matchAt? (Cursor.between passed ahead) = some m) :
    ∃ s next rest, s :: next :: rest <:+ statements ∧ OpensCall s.path ∧
      next.path.head? = some ')' ∧ m.get "path" = s.seam (next :: rest) ++ next.front := by
  obtain ⟨call, later, hcall, hword, hget⟩ := RequireCall.exists_of_matchAt? h
  have hahead : ahead = call.opening ++
      call.left :: (call.inside ++ call.right :: (call.closing ++ later)) := by
    have hcall : ahead = call.text ++ later := hcall
    rw [hcall, RequireCall.text]
    simp
  cases hplace with
  | front s lead before t more hlead hfront hplace =>
    -- there is no bracket in front of a path
    have ht : Unquoted t := (hfront ▸ hlead.unquoted.append s.unquoted_front).of_append
    obtain ⟨rfl, -, -⟩ := eq_of_append_cons ht call.unquoted_opening s.quoted call.quotedLeft
      (hplace.symm.trans hahead)
    have hmem : '(' ∈ lead ++ s.front := by simp [hfront, call.opening_eq]
    rcases List.mem_append.mp hmem with hmem | hmem
    · exact absurd (hlead.mem hmem) (by decide)
    · exact absurd (clauseChar_of_mem_front hmem) (by decide)
  | path s rest before front t hrest hpassed hpath hplace =>
    have ht : Unquoted t := (hpath ▸ s.unquoted_path).of_append
    obtain ⟨rfl, -, hlater⟩ := eq_of_append_cons ht call.unquoted_opening s.quoted call.quotedLeft
      (hplace.symm.trans hahead)
    cases rest with
    | nil =>
      have hmem : call.right ∈ s.seam [] ++ written [] := by simp [hlater]
      have hnot := (s.isSeam_seam []).unquoted call.right (by simpa [written] using hmem)
      rw [call.quotedRight] at hnot
      cases hnot
    | cons next rest =>
      rw [written_cons, ← List.append_assoc] at hlater
      obtain ⟨hinside, -, hnext⟩ := eq_of_append_cons
        ((s.isSeam_seam (next :: rest)).unquoted.append next.unquoted_front) call.unquoted
        next.quoted call.quotedRight hlater
      refine ⟨s, next, rest, hrest, ⟨front, call.gap, path_eq_of_opening hpath, ?_⟩,
        head?_path_of_closing hnext, hget.trans hinside.symm⟩
      rcases front.eq_nil_or_concat with rfl | ⟨init, z, rfl⟩
      · rfl
      · simpa [hpassed, Cursor.between, Cursor.behind] using hword
  | behind hseam =>
    have hnot := hseam.unquoted call.left (by simp [hahead])
    rw [call.quotedLeft] at hnot
    cases hnot

theorem exists_written_append (front statements : List ScriptImport) :
    ∃ t, written (front ++ statements) = t ++ written statements := by
  induction front with
  | nil => exact ⟨[], rfl⟩
  | cons s front ih =>
    obtain ⟨t, ht⟩ := ih
    refine ⟨s.front ++ s.quote :: (s.path ++ s.quote :: (s.seam (front ++ statements) ++ t)), ?_⟩
    rw [List.cons_append, written_cons, ht]
    simp

/-- Such a call is found. -/
theorem search?_requireCall_ne_none (hrest : s :: next :: rest <:+ statements)
    (hopens : OpensCall s.path) (hnext : next.path.head? = some ')') :
    Script.requireCall.search? (written statements) ≠ none := by
  intro hnone
  obtain ⟨earlier, rfl⟩ := hrest
  obtain ⟨before, hwritten⟩ := exists_written_append earlier (s :: next :: rest)
  obtain ⟨front, gap, hpath, hedge⟩ := hopens
  obtain ⟨more, hmore⟩ := List.head?_eq_some_iff.mp hnext
  let call : RequireCall :=
    { gap, before := {}, left := s.quote, inside := s.seam (next :: rest) ++ next.front
      right := next.quote, behind := {}
      quotedLeft := s.quoted, quotedRight := next.quoted
      nonempty := by simp [seam]
      unquoted := (s.isSeam_seam (next :: rest)).unquoted.append next.unquoted_front }
  have htext : written (earlier ++ s :: next :: rest) = before ++ s.front ++ s.quote :: front ++
      (call.text ++ (more ++ next.quote :: (next.seam rest ++ written rest))) := by
    rw [hwritten, written_cons, written_cons, hpath, hmore, call.text_eq]
    simp [call]
  have hsearch : Script.requireCall.searchAt?
      (Cursor.start (written (earlier ++ s :: next :: rest))) = none := hnone
  refine call.matchAt?_ne_none ?_ (Cursor.ahead_past htext)
    (matchAt?_of_searchAt?_none hsearch htext)
  rcases front.eq_nil_or_concat with rfl | ⟨init, z, rfl⟩
  · simpa [Cursor.past, Cursor.behind] using (plain_of_isSingleOrDouble s.quoted).2
  · simpa [Cursor.past, Cursor.behind] using hedge

-- -------------------------------------
-- What calls import
-- -------------------------------------

/-- The form of a statement that matches a pattern. -/
def form (pattern : Pattern) : ImportForm :=
  { pattern, target := plainTarget, names := Script.names }

theorem target_form (pattern : Pattern) (m : Match) :
    (form pattern).target m = .ok (nonEmpty? (pathOf m)) := rfl

theorem exists_ofMatch (pattern : Pattern) (m : Match) :
    ∃ imports, Import.ofMatch (form pattern) m = .ok imports := by
  have htarget := target_form pattern m
  cases hpath : nonEmpty? (pathOf m) with
  | none =>
    rw [hpath] at htarget
    exact ⟨[], by simp [Import.ofMatch, htarget, bind, Except.bind, pure, Except.pure]⟩
  | some target =>
    rw [hpath] at htarget
    obtain ⟨-, hne⟩ := nonEmpty?_eq_some_iff.mp hpath
    by_cases hfeed : '\n' ∈ target
    · exact ⟨_, Import.ofMatch_of_block htarget hfeed⟩
    · exact ⟨_, Import.ofMatch_of_target htarget hne hfeed⟩

/-- What is taken for the path of a call: the lines up to the next path. -/
theorem trim_seam_front (s next : ScriptImport) (rest : List ScriptImport) :
    ∃ front indent t : Text,
      trim (s.seam (next :: rest) ++ next.front) = front ++ (indent ++ 'i' :: t) ∧
      (front = [] ∨ ∃ init, front = init ++ ['\n']) ∧ indent.all isSpaceOrTab = true := by
  obtain ⟨u, hfront⟩ : ∃ u, next.front = next.indent ++ 'i' :: u :=
    ⟨_, by simp only [front, opening, List.append_assoc]; rfl⟩
  obtain ⟨t, ht⟩ := List.head?_eq_some_iff.mp (head?_trim (by rfl : isBlank 'i' = false) u)
  have hindent : ∀ c ∈ next.indent, isBlank c = true := fun _ hc => isBlank_of_mem_indent hc
  have hfeed : ∀ c ∈ s.behind.text ++ ['\n'], isBlank c = true :=
    List.forall_mem_append.mpr
      ⟨fun _ hc => s.behind.isBlank_of_mem hc, List.forall_mem_singleton.mpr rfl⟩
  cases hsemicolon : s.semicolon with
  | none =>
    have hseam : s.seam (next :: rest) = s.behind.text ++ ['\n'] := by
      simp [seam, ending, hsemicolon]
    refine ⟨[], [], t, ?_, .inl rfl, rfl⟩
    rw [hseam, hfront, trim_blank_append hfeed, trim_blank_append hindent, ht]
    rfl
  | some w =>
    obtain ⟨behind, hbehind, hblank⟩ := dropWhile_eq_trim_append ('i' :: u)
    rw [List.dropWhile_cons_of_neg (by decide), ht] at hbehind
    refine ⟨';' :: s.behind.text ++ ['\n'], next.indent, t, ?_, .inr ⟨_, rfl⟩, next.indented⟩
    have htext : s.seam (next :: rest) ++ next.front = w.text ++
        (';' :: s.behind.text ++ ['\n'] ++ (next.indent ++ 'i' :: t)) ++ behind := by
      rw [hfront, hbehind]
      simp [seam, ending, hsemicolon]
    obtain ⟨last, hlast, hnot⟩ := (ends_of_trim (List.cons_ne_nil 'i' t) (ht ▸ trim_trim _)).2
    rw [htext, trim_padded (fun _ hc => w.isBlank_of_mem hc) hblank]
    refine trim_of_ends ⟨';', rfl, rfl⟩ ⟨last, ?_, hnot⟩
    rw [List.getLast?_append, List.getLast?_append, hlast]
    rfl

theorem not_isQuote_of_mem {lead : Text} {c : Char} (hlead : IsSeam lead)
    (hc : c ∈ lead ++ s.front) : isQuote c = false := by
  have hclause {c : Char} (h : Script.clauseChar c = true) : isQuote c = false := by
    refine Bool.eq_false_iff.mpr fun hquote => ?_
    have hcases : c = '"' ∨ c = '\'' ∨ c = '\x60' := by simpa [isQuote, or_assoc] using hquote
    rcases hcases with rfl | rfl | rfl <;> cases h
  rcases List.mem_append.mp hc with hc | hc
  · rcases hlead.mem hc with hblank | rfl
    · exact hclause (clauseChar_of_isPlain (isPlain_of_isBlank hblank))
    · rfl
  · exact hclause (clauseChar_of_mem_front hc)

/-- A line that starts with a letter has an entry, so a block with such a line imports something. -/
theorem ofMatch_block {pattern : Pattern} {front indent t : Text}
    (htarget : (form pattern).target m = .ok (some (front ++ (indent ++ 'i' :: t))))
    (hfeed : '\n' ∈ front ++ (indent ++ 'i' :: t))
    (hfront : front = [] ∨ ∃ init, front = init ++ ['\n'])
    (hindent : indent.all isSpaceOrTab = true)
    (hquote : ∀ c ∈ 'i' :: t, isQuote c = false) :
    ∃ call calls, Import.ofMatch (form pattern) m = .ok (call :: calls) := by
  have hunbroken : (indent ++ ['i']).Unbroken := by
    intro c hc
    rcases List.mem_append.mp hc with hc | hc
    · rcases eq_of_isSpaceOrTab (List.all_eq_true.mp hindent c hc) with rfl | rfl <;> rfl
    · rw [List.mem_singleton.mp hc]
      rfl
  obtain ⟨z, later, hlines, hz⟩ := exists_lines_cons hunbroken (by simp) t
  have hentry : blockEntry? (indent ++ ['i'] ++ z) ≠ none := by
    have hpadded := blockEntry?_padded
      (fun c hc => isBlank_of_isSpaceOrTab (List.all_eq_true.mp hindent c hc))
      (List.forall_mem_nil _) ('i' :: z)
    rw [List.append_nil] at hpadded
    rw [List.append_assoc, List.singleton_append, hpadded]
    refine blockEntry?_ne_none rfl (List.any_eq_false.mpr fun c hc => Bool.eq_false_iff.mp ?_)
    exact hquote c (List.cons_subset_cons 'i' hz hc)
  obtain ⟨entry, hentry⟩ := Option.ne_none_iff_exists'.mp hentry
  obtain ⟨l, hall⟩ : ∃ l, Text.lines (front ++ (indent ++ 'i' :: t)) =
      l ++ (indent ++ ['i'] ++ z) :: later := by
    rcases hfront with rfl | ⟨init, rfl⟩
    · exact ⟨[], by simpa using hlines⟩
    · refine ⟨Text.lines (init ++ ['\n']), ?_⟩
      rw [← hlines]
      simpa using Text.lines_append init (indent ++ 'i' :: t)
  rw [Import.ofMatch_of_block htarget hfeed, hall, List.filterMap_append,
    List.filterMap_cons_some hentry]
  cases List.filterMap blockEntry? l with
  | nil => exact ⟨_, _, rfl⟩
  | cons first more => exact ⟨_, _, rfl⟩

theorem ofMatch_call (pattern : Pattern)
    (hm : m.get "path" = s.seam (next :: rest) ++ next.front) :
    ∃ call calls, Import.ofMatch (form pattern) m = .ok (call :: calls) := by
  obtain ⟨front, indent, t, htrim, hfront, hindent⟩ := trim_seam_front s next rest
  have htarget : (form pattern).target m = .ok (some (front ++ (indent ++ 'i' :: t))) := by
    rw [target_form, pathOf, hm, htrim]
    exact congrArg Except.ok (nonEmpty?_eq_some_iff.mpr ⟨rfl, by simp⟩)
  by_cases hfeed : '\n' ∈ front ++ (indent ++ 'i' :: t)
  · refine ofMatch_block htarget hfeed hfront hindent fun c hc => ?_
    refine not_isQuote_of_mem (s := next) (s.isSeam_seam (next :: rest)) (mem_of_mem_trim ?_)
    rw [htrim]
    exact List.mem_append_right _ (List.mem_append_right _ hc)
  · exact ⟨_, [], Import.ofMatch_of_target htarget (by simp) hfeed⟩

/-- Calls are found exactly if two statements look like one. -/
theorem exists_calls (statements : List ScriptImport) : ∃ found,
    Import.Finds (written statements) (form Script.requireCall) found ∧
      (found.flatten = [] ↔ statements.IsChain Apart) := by
  choose imports himports using exists_ofMatch Script.requireCall
  refine ⟨(Script.requireCall.findAll (written statements)).map imports,
    Import.finds_of_forall₂ (List.forall₂_same.mpr fun m _ => himports m), ?_⟩
  rw [List.isChain_iff_forall_rel_of_append_cons_cons]
  constructor
  · rintro hnil s next earlier rest hsplit ⟨hopens, hhead⟩
    obtain ⟨m, hm⟩ := Option.ne_none_iff_exists'.mp
      (search?_requireCall_ne_none ⟨earlier, hsplit.symm⟩ hopens hhead)
    have hmem : m ∈ Script.requireCall.findAll (written statements) :=
      List.mem_of_mem_head? ((head?_findAll ..).trans hm)
    obtain ⟨passed, ahead, hplace, hmatch⟩ := place_of_search hm
    obtain ⟨s', next', rest', -, -, -, hget⟩ := opensCall_of_place hplace hmatch
    obtain ⟨call, calls, hcall⟩ := ofMatch_call Script.requireCall hget
    have himport : imports m = call :: calls := Except.ok.inj ((himports m).symm.trans hcall)
    have hnone : imports m = [] := List.flatten_eq_nil_iff.mp hnil _ (List.mem_map_of_mem hmem)
    rw [himport] at hnone
    cases hnone
  · intro hchain
    have hnothing : Script.requireCall.findAll (written statements) = [] := by
      refine findAll_eq_nil_of_place fun passed ahead hplace =>
        Option.eq_none_iff_forall_ne_some.mpr fun m hm => ?_
      obtain ⟨s, next, rest, ⟨earlier, hsplit⟩, hopens, hhead, -⟩ := opensCall_of_place hplace hm
      exact hchain hsplit.symm ⟨hopens, hhead⟩
    rw [hnothing]
    rfl

-- -------------------------------------
-- What statements import
-- -------------------------------------

/-- What a statement imports. -/
def imported (s : ScriptImport) : Import := { path := s.path, names := s.clause.names }

theorem ofMatch_imported (pattern : Pattern) (s : ScriptImport)
    (hm : Captures [("path", s.path), ("names", s.clause.text)] m) :
    Import.ofMatch (form pattern) m = .ok [s.imported] := by
  have hpath : m.get "path" = s.path := by
    rw [Match.get, hm]
    rfl
  have hnames : m.get "names" = s.clause.text := by
    rw [Match.get, hm]
    rfl
  have htarget : (form pattern).target m = .ok (some s.path) := by
    rw [target_form, pathOf, hpath, s.trimmed]
    exact congrArg Except.ok (nonEmpty?_eq_some_iff.mpr ⟨rfl, s.nonempty⟩)
  rw [Import.ofMatch_of_target htarget s.nonempty s.unbroken, imported,
    ← s.clause.names_of_get hnames]
  rfl

end ScriptImport

namespace Import

/-- Statements import what they say, in order, whatever their layout. Nothing else is found unless a
path ends and the next one starts as a call of `require` would. -/
theorem extract_scriptImports {language : Language}
    (h : language ∈ [Language.javaScript, Language.typeScript, Language.vue, Language.svelte])
    (statements : List ScriptImport) :
    ∃ calls, extract language (written statements) = .ok (statements.map imported ++ calls) ∧
      (calls = [] ↔ statements.IsChain Apart) := by
  have hforms : language.forms = [Script.importFrom, Script.sideEffect, Script.reExport,
      Script.requireCall].map form := by
    simp only [List.mem_cons, List.not_mem_nil, or_false] at h
    rcases h with rfl | rfl | rfl | rfl <;> rfl
  obtain ⟨found, hcalls, hchain⟩ := exists_calls statements
  have himports : Finds (written statements) (form Script.importFrom)
      (statements.map fun s => [s.imported]) :=
    finds_of_forall₂ ((findAll_importFrom statements).imp fun s _ hm => ofMatch_imported _ s hm)
  have hfinds : List.Forall₂ (Finds (written statements)) language.forms
      [statements.map fun s => [s.imported], [], [], found] := by
    rw [hforms]
    exact .cons himports <| .cons (finds_nil (findAll_sideEffect statements)) <|
      .cons (finds_nil (findAll_reExport statements)) <| .cons hcalls .nil
  have hflat : (statements.map fun s => [s.imported]).flatten = statements.map imported :=
    (List.map_eq_flatMap ..).symm
  refine ⟨found.flatten, ?_, hchain⟩
  rw [extract_of_finds hfinds]
  simp [hflat]

namespace Sample

def views : List ScriptImport :=
  [{ clause := .both { text := "View".toList } {} { text := [' ', ' '] }
       (.braces {} [
         { name := { text := "draw".toList }, renamed := some { name := { text := ['d'] } } },
         { before := { text := ['\n', '\t'] }, typeOnly := some {}
           name := { text := "$Box".toList }, behind := { text := ['\n'] } }])
     path := "./view".toList, semicolon := some {} },
   { typeOnly := some {}, clause := .binding (.star { name := { text := "all".toList } })
     behindFrom := { first := '\n' }, quote := '"', path := "lib".toList }]

/-- Two statements that look like a call. -/
def callLike : List ScriptImport :=
  [{ clause := .default { text := ['a'] }, path := "require(".toList },
   { clause := .default { text := ['b'] }, path := [')'], behind := { text := ['\n'] } }]

end Sample

/-- A default name with names in braces, over two lines, and a whole module. -/
theorem extract_scriptImports_sample :
    written Sample.views =
        "import View,  \x7bdraw as d,\n\ttype $Box\n\x7d from './view';\n".toList ++
        "import type * as all from\n\"lib\"".toList ∧
      extract .typeScript (written Sample.views) =
        .ok [{ path := "./view", names := ["View", "draw", "$Box"] },
          { path := "lib", names := ["all"] }] := by
  obtain ⟨calls, hextract, hcalls⟩ := extract_scriptImports (.tail _ (.head _)) Sample.views
  have hapart : Sample.views.IsChain Apart :=
    .cons_cons (fun h => absurd h.2 (by decide)) (.singleton _)
  rw [hcalls.mpr hapart, List.append_nil] at hextract
  exact ⟨by decide +kernel, hextract⟩

/-- What stands between the inner quotes is taken for the path of a call. -/
theorem extract_callLike :
    written Sample.callLike = "import a from 'require('\nimport b from ')'\n".toList ∧
      extract .javaScript (written Sample.callLike) =
        .ok (Sample.callLike.map imported ++ [{ path := "import b from" }]) := by
  decide +kernel

end Import

end RepoAtlas
