import Mathlib.Data.List.Forall2
import RepoAtlas.Import.Basic
import RepoAtlas.Proofs.Pattern.Search
import RepoAtlas.Proofs.Text.Basic
import RepoAtlas.Proofs.Text.Blank
import RepoAtlas.Proofs.Text.Lines

/-!
# What the forms of a language find

The imports of a text are put together from what each form finds. A form may find a block of lines,
with one entry a line, which depends neither on white space around it nor on a comment behind it.
`Import.filterMap_lines_stacked`: read line by line, a block has the entries of its lines, and
`Import.blockEntry?_stacked`: a block with one line of text may just as well be read in one piece.
-/

namespace RepoAtlas

namespace Text

theorem mem_trim_between {a b : Text} (x : Char) (ha : ¬∀ c ∈ a, isBlank c = true)
    (hb : ¬∀ c ∈ b, isBlank c = true) : x ∈ trim (a ++ x :: b) := by
  have hfront : (a.dropWhile isBlank).isEmpty = false := by simpa using ha
  have hback : (b.reverse.dropWhile isBlank).isEmpty = false := by simpa using hb
  simp [trim, dropBoth, List.dropWhile_append, hfront, hback]

end Text

namespace ImportForm

open Pattern Text

variable {line t p : Text}

/-- A line without its comment. -/
def uncommented (line : Text) : Text := Text.upTo ['#'] (Text.upTo ['/', '/'] line)

theorem uncommented_of_absent (hslashes : ¬['/', '/'] <:+: t) (hhash : '#' ∉ t) :
    uncommented t = t := by
  rw [uncommented, upTo_of_absent hslashes, upTo_singleton,
    List.takeWhile_eq_self_iff.mpr (bne_of_not_mem hhash)]

theorem blockEntry?_congr {line line' : Text}
    (h : trim (uncommented line') = trim (uncommented line)) :
    blockEntry? line' = blockEntry? line := by
  have hentry : trim (Text.upTo "#" (Text.upTo "//" line')) =
      trim (Text.upTo "#" (Text.upTo "//" line)) := h
  unfold blockEntry?
  simp only [hentry]

theorem blockEntry?_padded {before behind : Text} (hbefore : ∀ c ∈ before, isBlank c = true)
    (hbehind : ∀ c ∈ behind, isBlank c = true) (line : Text) :
    blockEntry? (before ++ line ++ behind) = blockEntry? line := by
  refine blockEntry?_congr ?_
  have hslash {t : Text} (h : ∀ c ∈ t, isBlank c = true) : '/' ∉ t := not_mem_of_isBlank (by decide) h
  have hhash {t : Text} (h : ∀ c ∈ t, isBlank c = true) : '#' ∉ t := not_mem_of_isBlank (by decide) h
  rw [uncommented, List.append_assoc, upTo_append_left rfl (hslash hbefore),
    upTo_append_left rfl (hhash hbefore), trim_blank_append hbefore, uncommented]
  by_cases hslashes : ['/', '/'] <:+: line
  · rw [upTo_append_of_occurs hslashes]
  rw [upTo_append_right rfl (hslash hbehind) hslashes, upTo_of_absent hslashes]
  by_cases hmark : ['#'] <:+: line
  · rw [upTo_append_of_occurs hmark]
  rw [upTo_append_right rfl (hhash hbehind) hmark, upTo_of_absent hmark, trim_append_blank hbehind]

theorem blockEntry?_of_blank (h : ∀ c ∈ t, isBlank c = true) : blockEntry? t = none := by
  have hpad := blockEntry?_padded h (by simp : ∀ c ∈ [], isBlank c = true) []
  rw [List.append_nil, List.append_nil] at hpad
  rw [hpad]
  rfl

theorem blockEntry?_comment (h : line.getLast? ≠ some '/') (comment : Text) :
    blockEntry? (line ++ '/' :: '/' :: comment) = blockEntry? line := by
  refine blockEntry?_congr ?_
  rw [uncommented, upTo_append_pair fun _ => h, uncommented]

-- What an entry consists of

theorem any_isQuote_eq_false (hdouble : '"' ∉ t) (hsingle : '\'' ∉ t) (hback : '\x60' ∉ t) :
    t.any isQuote = false := by
  rw [List.any_eq_false]
  intro c hc hquote
  have hcases : c = '"' ∨ c = '\'' ∨ c = '\x60' := by simpa [isQuote, or_assoc] using hquote
  rcases hcases with rfl | rfl | rfl
  · exact hdouble hc
  · exact hsingle hc
  · exact hback hc

theorem startsIn_quotedText : StartsIn isQuote quotedText :=
  StartsIn.inOrder (startsIn_one fun _ hc => hc) _

theorem mem_of_mem_quotedText {m : Match} (h : quotedText.search? t = some m) {c : Char}
    (hc : c ∈ m.get "text") : c ∈ t := by
  have hsearch : quotedText.searchAt? (Cursor.start t) = some m := h
  obtain ⟨passed, hpassed, -, -⟩ := (searchAt?_reaches hsearch).1
  have hfirst : t = passed ++ m.first.ahead := hpassed
  obtain ⟨r, hrun, hm⟩ := Option.map_eq_some_iff.mp (matchAt?_of_searchAt? hsearch)
  rw [quotedText, run_inOrder_cons] at hrun
  obtain ⟨x, d, -, hd, hrun⟩ := run_one_inv hrun
  rw [run_inOrder_cons, run] at hrun
  obtain ⟨inside, e, -, -, he, hrun⟩ := run_many1_inv hrun
  obtain ⟨y, f, -, -, hend⟩ := run_one_inv hrun
  cases hend
  have hinside : c ∈ inside := by
    rw [← hm] at hc
    simpa [Match.get, Match.get?, Capture.text, he.take] using hc
  have hahead : d.ahead = inside ++ e.ahead := he.1
  rw [hfirst, hd.1, hahead]
  simp [hinside]

theorem mem_of_mem_upTo {a : Pattern} {c : Char} (h : c ∈ a.upTo t) : c ∈ t := by
  unfold Pattern.upTo at h
  split at h
  · exact List.mem_of_mem_take h
  · exact h

theorem mem_of_mem_dropBoth {q : Char → Bool} {c : Char} (h : c ∈ dropBoth q t) : c ∈ t := by
  rw [dropBoth, List.mem_reverse] at h
  exact List.dropWhile_subset _ (List.mem_reverse.mp (List.dropWhile_subset _ h))

theorem dropBoth_of_none {q : Char → Bool} (h : ∀ c ∈ t, q c = false) : dropBoth q t = t := by
  have hstart : ∀ {t : Text}, (∀ c ∈ t, q c = false) → t.dropWhile q = t := by
    rintro (_ | ⟨c, t⟩) h
    · rfl
    · exact List.dropWhile_cons_of_neg (by simp [h c (.head _)])
  rw [dropBoth, hstart h, hstart (by simpa using h), List.reverse_reverse]

theorem nonEmpty?_eq_some_iff : nonEmpty? t = some p ↔ t = p ∧ p ≠ [] := by
  unfold nonEmpty?
  split
  · rename_i h
    simp [List.isEmpty_iff.mp h, eq_comm]
  · rename_i h
    have hne : t ≠ [] := by simpa using h
    constructor
    · rintro ⟨⟩
      exact ⟨rfl, hne⟩
    · rintro ⟨rfl, -⟩
      rfl

theorem blockEntry?_eq_some (h : blockEntry? line = some p) : p ≠ [] ∧ ∀ c ∈ p, c ∈ line := by
  have hentry : ∀ c ∈ trim (Text.upTo "#" (Text.upTo "//" line)), c ∈ line := fun c hc =>
    (prefix_upTo _ _).subset ((prefix_upTo _ _).subset (mem_of_mem_trim hc))
  unfold blockEntry? at h
  simp only at h
  split at h
  · cases h
  · split at h
    · rename_i m hm
      obtain ⟨rfl, hne⟩ := nonEmpty?_eq_some_iff.mp h
      exact ⟨hne, fun c hc => hentry c (mem_of_mem_quotedText hm (mem_of_mem_trim hc))⟩
    · obtain ⟨rfl, hne⟩ := nonEmpty?_eq_some_iff.mp h
      refine ⟨hne, fun c hc => hentry c ?_⟩
      exact mem_of_mem_upTo (mem_of_mem_trim (mem_of_mem_dropBoth (mem_of_mem_trim hc)))

theorem startsIn_aliasMark : StartsIn isBlank aliasMark :=
  StartsIn.inOrder (StartsIn.inOrder (startsIn_one fun _ hc => hc) [many isBlank]) _

/-- A line that starts with a letter has an entry, if it has no quotes. -/
theorem blockEntry?_ne_none {x : Char} {z : Text} (hx : isWord x = true)
    (hquote : (x :: z).any isQuote = false) : blockEntry? (x :: z) ≠ none := by
  have hneq {y : Char} (hy : isWord y = false) : x ≠ y := by
    rintro rfl
    rw [hx] at hy
    cases hy
  obtain ⟨e, he⟩ : ∃ e, trim (Text.upTo "#" (Text.upTo "//" (x :: z))) = x :: e := by
    have hslash : ¬"//".toList <+: x :: z := by
      intro h
      exact hneq (y := '/') rfl (List.cons_prefix_cons.mp h).1.symm
    rw [upTo_cons hslash]
    have hhash : ¬"#".toList <+: x :: Text.upTo "//" z := by
      intro h
      exact hneq (y := '#') rfl (List.cons_prefix_cons.mp h).1.symm
    rw [upTo_cons hhash]
    obtain ⟨e, he⟩ := List.head?_eq_some_iff.mp
      (head?_trim (not_isBlank_of_isWord hx) (Text.upTo "#" (Text.upTo "//" z)))
    exact ⟨e, he⟩
  have hmem : ∀ c ∈ x :: e, c ∈ x :: z := by
    intro c hc
    rw [← he] at hc
    exact (prefix_upTo _ _).subset ((prefix_upTo _ _).subset (mem_of_mem_trim hc))
  have hunquoted : quotedText.search? (x :: e) = none := by
    refine startsIn_quotedText.search?_eq_none (List.any_eq_false.mpr fun c hc => ?_)
    exact List.any_eq_false.mp hquote c (hmem c hc)
  have hbefore : x ∈ trim (beforeAlias (x :: e)) := by
    refine mem_trim_of_not_isBlank (List.mem_of_mem_head? ?_) (not_isBlank_of_isWord hx)
    exact head?_upTo startsIn_aliasMark (not_isBlank_of_isWord hx) e
  have hentry : x ∈ trim (dropBoth (anyOf ",;()") (trim (beforeAlias (x :: e)))) := by
    have hmarks : ",;()".toList.all (!isWord ·) = true := by decide
    have hmark : anyOf ",;()" x = false := by
      refine Bool.eq_false_iff.mpr fun h => ?_
      have hnot := List.all_eq_true.mp hmarks x (List.contains_iff_mem.mp h)
      simp [hx] at hnot
    exact mem_trim_of_not_isBlank (mem_dropBoth_of_not hbefore hmark) (not_isBlank_of_isWord hx)
  have hsome := nonEmpty?_eq_some_iff.mpr ⟨rfl, List.ne_nil_of_mem hentry⟩
  unfold blockEntry?
  simp only [he, hunquoted]
  rw [if_neg (by simp), hsome]
  exact Option.some_ne_none _

end ImportForm

namespace Import

open ImportForm Text

/-- Lines, each behind a line feed. -/
def stacked (lines : List Text) : Text := lines.flatMap ('\n' :: ·)

theorem stacked_cons (line : Text) (lines : List Text) :
    stacked (line :: lines) = '\n' :: (line ++ stacked lines) := by
  simp [stacked]

variable {lines : List Text} {tail : Text}

theorem filterMap_lines_append (line : Text) (hline : line.Unbroken)
    (hlines : ∀ l ∈ lines, l.Unbroken) (htail : tail = [] ∨ tail = ['\n']) :
    (Text.lines (line ++ (stacked lines ++ tail))).filterMap blockEntry? =
      (line :: lines).filterMap blockEntry? := by
  induction lines generalizing line with
  | nil =>
    rcases htail with rfl | rfl
    · rw [stacked, List.flatMap_nil, List.append_nil, List.append_nil, lines_of_unbroken hline]
      split
      · rename_i hempty
        simp [hempty, blockEntry?_of_blank]
      · rfl
    · rw [stacked, List.flatMap_nil, List.nil_append, lines_append_newline hline]
      rfl
  | cons next lines ih =>
    obtain ⟨hnext, hlines⟩ := List.forall_mem_cons.mp hlines
    rw [stacked_cons, List.cons_append, List.append_assoc, lines_append_newline hline,
      List.filterMap_cons, ih next hnext hlines, ← List.filterMap_cons]

theorem filterMap_lines_stacked (hlines : ∀ l ∈ lines, l.Unbroken)
    (htail : tail = [] ∨ tail = ['\n']) :
    (Text.lines (stacked lines ++ tail)).filterMap blockEntry? = lines.filterMap blockEntry? := by
  have hall := filterMap_lines_append [] (by simp [Unbroken]) hlines htail
  rwa [List.nil_append, List.filterMap_cons_none (blockEntry?_of_blank (by simp))] at hall

theorem filterMap_of_blank (h : ∀ c ∈ stacked lines ++ tail, isBlank c = true) :
    lines.filterMap blockEntry? = [] := by
  rw [List.filterMap_eq_nil_iff]
  intro line hline
  refine blockEntry?_of_blank fun c hc => h c (List.mem_append_left _ ?_)
  exact List.mem_flatMap.mpr ⟨line, hline, .tail _ hc⟩

/-- Without the white space around it, the block lies on one line. -/
theorem blockEntry?_stacked (htail : ∀ c ∈ tail, isBlank c = true)
    (h : '\n' ∉ trim (stacked lines ++ tail)) :
    ∃ entry, blockEntry? (stacked lines ++ tail) = entry ∧
      lines.filterMap blockEntry? = entry.toList ∧
      ∀ p ∈ entry, ∃ line ∈ lines, blockEntry? line = some p := by
  induction lines with
  | nil => exact ⟨none, blockEntry?_of_blank htail, rfl, by simp⟩
  | cons line lines ih =>
    have hsplit : stacked (line :: lines) ++ tail = ['\n'] ++ line ++ (stacked lines ++ tail) := by
      simp [stacked_cons]
    have hfeed : ∀ c ∈ ['\n'], isBlank c = true := List.forall_mem_singleton.mpr rfl
    by_cases hline : ∀ c ∈ line, isBlank c = true
    · -- an empty line changes neither side
      have hfront : ∀ c ∈ ['\n'] ++ line, isBlank c = true := fun c hc =>
        (List.mem_append.mp hc).elim (hfeed c) (hline c)
      have hpad := blockEntry?_padded hfront (by simp : ∀ c ∈ [], isBlank c = true)
        (stacked lines ++ tail)
      rw [List.append_nil] at hpad
      rw [hsplit, trim_blank_append hfront] at h
      obtain ⟨entry, hentry, hlist, hmem⟩ := ih h
      rw [hsplit, hpad, List.filterMap_cons_none (blockEntry?_of_blank hline)]
      exact ⟨entry, hentry, hlist, fun p hp => (hmem p hp).imp fun _ hl => ⟨.tail _ hl.1, hl.2⟩⟩
    · -- nothing but white space can follow
      have hrest : ∀ c ∈ stacked lines ++ tail, isBlank c = true := by
        cases lines with
        | nil => simpa [stacked] using htail
        | cons next lines =>
          by_contra hnot
          refine h ?_
          have hmore : ¬∀ c ∈ next ++ stacked lines ++ tail, isBlank c = true := by
            intro hall
            refine hnot fun c hc => ?_
            rw [stacked_cons, List.cons_append, List.mem_cons] at hc
            exact hc.elim (fun hfirst => hfirst ▸ hfeed _ (.head _)) (hall c)
          have hmem := mem_trim_between '\n' hline hmore
          rw [hsplit, List.append_assoc, trim_blank_append hfeed]
          simpa [stacked_cons] using hmem
      have hpad := blockEntry?_padded hfeed hrest line
      rw [hsplit, hpad, List.filterMap_cons, filterMap_of_blank hrest]
      refine ⟨_, rfl, ?_, fun p hp => ⟨line, .head _, hp⟩⟩
      cases blockEntry? line <;> rfl

-- -------------------------------------
-- Forms of a language
-- -------------------------------------

variable {language : Language} {content : Text} {form : ImportForm} {m : Match}

/-- What the matches of a form in a text stand for. -/
def Finds (content : Text) (form : ImportForm) (found : List (List Import)) : Prop :=
  (form.pattern.findAll content).mapM (ofMatch form) = .ok found

theorem extract_of_finds {found : List (List (List Import))}
    (h : List.Forall₂ (Finds content) language.forms found) :
    extract language content = .ok (found.map List.flatten).flatten := by
  have hforms : (language.forms.mapM fun form =>
      (form.pattern.findAll content).mapM (ofMatch form)) = .ok found := by
    generalize language.forms = forms at h
    induction h with
    | nil => rfl
    | cons hform _ ih =>
      rw [Finds] at hform
      rw [List.mapM_cons, hform, ih]
      rfl
  rw [extract, hforms]
  rfl

theorem finds_nil (h : form.pattern.findAll content = []) :
    Finds content form [] := by
  rw [Finds, h]
  rfl

theorem finds_singleton {imports : List Import}
    (h : form.pattern.findAll content = [m]) (hm : ofMatch form m = .ok imports) :
    Finds content form [imports] := by
  rw [Finds, h, List.mapM_cons, hm]
  rfl

theorem finds_of_forall₂ {ι : Type} {items : List ι} {imports : ι → List Import}
    (h : List.Forall₂ (fun i m => ofMatch form m = .ok (imports i)) items
      (form.pattern.findAll content)) : Finds content form (items.map imports) := by
  rw [Finds]
  generalize form.pattern.findAll content = found at h
  induction h with
  | nil => rfl
  | cons hm _ ih =>
    rw [List.mapM_cons, hm, ih]
    rfl

theorem ofMatch_of_target {target : Text}
    (h : form.target m = .ok (some target)) (hne : target ≠ []) (hfeed : '\n' ∉ target) :
    ofMatch form m = .ok [{ path := target, names := form.names m }] := by
  have hempty : target.isEmpty = false := by simpa using hne
  have hcontains : target.contains '\n' = false := by simpa using hfeed
  simp only [ofMatch, h, bind, Except.bind, hempty, hcontains]
  rfl

theorem ofMatch_of_block {target : Text} (h : form.target m = .ok (some target))
    (hfeed : '\n' ∈ target) : ofMatch form m =
      .ok (((Text.lines target).filterMap blockEntry?).map fun path => { path }) := by
  have hempty : target.isEmpty = false := by simpa using List.ne_nil_of_mem hfeed
  simp only [ofMatch, h, bind, Except.bind, hempty, List.contains_iff_mem.mpr hfeed]
  rfl

end Import

end RepoAtlas
