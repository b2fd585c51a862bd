import RepoAtlas.Import.Basic
import RepoAtlas.Language.Stock
import RepoAtlas.Proofs.Language.LineEnds
import RepoAtlas.Proofs.Text.Basic
import RepoAtlas.Proofs.Text.Blank

/-!
# Imports and line ends

`Import.extract_withReturns` compares the imports of a text with those of the same text with a
carriage return in front of every line feed.
-/

namespace RepoAtlas

open Pattern

namespace ImportForm

/-- A function of matches that looks at the texts of the captures only. -/
def OfCaptures {α : Type} (f : Match → α) : Prop := ∀ m m' : Match, m'.get = m.get → f m' = f m

/-- What the matches of a form in a text say stands on one line. -/
def OneLine (form : ImportForm) (t : Text) : Prop :=
  ∀ m ∈ form.pattern.findAll t, ∀ c ∈ m.captures, '\n' ∉ c.text

instance (form : ImportForm) (t : Text) : Decidable (form.OneLine t) :=
  inferInstanceAs (Decidable (∀ m ∈ _, ∀ c ∈ _, _))

/-- The form finds the same with carriage returns and without. -/
def Steady (form : ImportForm) (t : Text) : Prop :=
  form.OneLine t →
    (form.pattern.findAll (Text.withReturns t)).mapM (Import.ofMatch form) =
      (form.pattern.findAll t).mapM (Import.ofMatch form)

end ImportForm

namespace Import

variable {t : Text} {form : ImportForm} {m m' : Match}

theorem ofMatch_congr (htarget : form.target m' = form.target m)
    (hnames : form.names m' = form.names m) : ofMatch form m' = ofMatch form m := by
  rw [ofMatch, ofMatch, htarget, hnames]

theorem mapM_eq_of_forall₂ {R : Match → Match → Prop} {found found' : List Match}
    (h : List.Forall₂ R found found')
    (heq : ∀ m ∈ found, ∀ m', R m m' → ofMatch form m' = ofMatch form m) :
    found'.mapM (ofMatch form) = found.mapM (ofMatch form) := by
  induction h with
  | nil => rfl
  | cons hhead _ ih =>
    rw [List.mapM_cons, List.mapM_cons, heq _ (.head _) _ hhead,
      ih fun m hm => heq m (.tail _ hm)]

theorem get_eq_of_twin (h : List.Forall₂ TwinCapture m.captures m'.captures)
    (hone : ∀ c ∈ m.captures, '\n' ∉ c.text) : m'.get = m.get := by
  funext name
  refine congrArg (Option.getD · []) ?_
  rw [Match.get?, get?_twin h, ← Match.get?]
  cases hget : m.get? name with
  | none => rfl
  | some text =>
    obtain ⟨c, hfind, rfl⟩ := Option.map_eq_some_iff.mp hget
    rw [Option.map_some, Text.withReturns_eq_self (hone c (List.mem_of_find?_eq_some hfind))]

theorem steady_of_twins (htarget : ImportForm.OfCaptures form.target)
    (hnames : ImportForm.OfCaptures form.names)
    (h : List.Forall₂ (TwinMatch t (TwinState t)) (form.pattern.findAll t)
      (form.pattern.findAll (Text.withReturns t))) : form.Steady t := by
  intro hone
  refine mapM_eq_of_forall₂ h fun m hm m' htwin => ?_
  have hget := get_eq_of_twin htwin.found.captures (hone m hm)
  exact ofMatch_congr (htarget m m' hget) (hnames m m' hget)

theorem extract_congr {language : Language} {content content' : Text}
    (h : ∀ form ∈ language.forms,
      (form.pattern.findAll content').mapM (ofMatch form) =
        (form.pattern.findAll content).mapM (ofMatch form)) :
    extract language content' = extract language content := by
  have hforms : language.forms.mapM (fun form =>
      (form.pattern.findAll content').mapM (ofMatch form)) =
        language.forms.mapM fun form => (form.pattern.findAll content).mapM (ofMatch form) := by
    revert h
    generalize language.forms = forms
    intro h
    induction forms with
    | nil => rfl
    | cons form forms ih =>
      rw [List.mapM_cons, List.mapM_cons, h _ (.head _), ih fun form hform => h _ (.tail _ hform)]
  rw [extract, hforms, ← extract]

end Import

-- -------------------------------------
-- Names that end in a carriage return
-- -------------------------------------

theorem Text.map_trim_splitOn_concat {sep c : Char} (hc : isBlank c = true) (hne : c ≠ sep)
    (t : Text) : (splitOn sep (t ++ [c])).map trim = (splitOn sep t).map trim := by
  by_cases hsep : sep ∈ t
  · -- only the last piece changes
    obtain ⟨back, front, hback, hnot⟩ := List.eq_append_cons_of_mem (List.mem_reverse.mpr hsep)
    obtain rfl : t = front.reverse ++ sep :: back.reverse := by
      rw [← List.reverse_reverse t, hback]
      simp
    have hlast : sep ∉ back.reverse := by simpa using hnot
    have hlast' : sep ∉ back.reverse ++ [c] := by simpa [Ne.symm hne] using hnot
    rw [List.append_assoc, List.cons_append, splitOn_append, splitOn_append,
      splitOn_of_not_mem hlast, splitOn_of_not_mem hlast']
    simp [trim_concat hc]
  · rw [splitOn_of_not_mem hsep, splitOn_of_not_mem (by simpa [Ne.symm hne] using hsep)]
    simp [trim_concat hc]

namespace ImportForm

theorem splitNames_eq (t : Text) :
    splitNames t = ((Text.splitOn ',' (Text.replaceChar ')' ' ' (Text.replaceChar '(' ' ' t))).map
      Text.trim).filterMap fun part => nonEmpty? (Text.trim (beforeAlias part)) := by
  rw [splitNames, List.filterMap_map]
  rfl

theorem splitNames_concat_return (t : Text) : splitNames (t ++ ['\r']) = splitNames t := by
  have hreplace : Text.replaceChar ')' ' ' (Text.replaceChar '(' ' ' (t ++ ['\r'])) =
      Text.replaceChar ')' ' ' (Text.replaceChar '(' ' ' t) ++ ['\r'] := by
    simp [Text.replaceChar]
  rw [splitNames_eq, splitNames_eq, hreplace, Text.map_trim_splitOn_concat (by decide) (by decide)]

end ImportForm

namespace Import

variable {t : Text} {m m' : Match}

/-- The statement may have taken a carriage return along, at the end of its names. -/
theorem fromImport_reads (h : TwinMatch t (ImportForm.Python.TwinOrLate t) m m')
    (hone : ∀ c ∈ m.captures, '\n' ∉ c.text) :
    m'.get "path" = m.get "path" ∧ ImportForm.listedNames m' = ImportForm.listedNames m := by
  obtain ⟨first, last, captures⟩ := m
  obtain ⟨first', last', captures'⟩ := m'
  cases h.found with
  | twin h =>
    have hget : Match.get ⟨first', last', captures'⟩ = Match.get ⟨first, last, captures⟩ :=
      get_eq_of_twin h.captures hone
    simp only [ImportForm.listedNames, hget, and_self]
  | @late before ahead n names names' others others' hon hname hname' htext hothers =>
    have hget : Match.get ⟨first', first', others'⟩ = Match.get ⟨first, first, others⟩ :=
      get_eq_of_twin hothers fun c hc => hone c (.tail _ hc)
    rw [Text.withReturns_eq_self (hone names (.head _))] at htext
    constructor
    · simpa [Match.get, Match.get?, hname, hname'] using congrFun hget "path"
    · have hnames : ImportForm.splitNames names'.text = ImportForm.splitNames names.text := by
        rw [htext, ImportForm.splitNames_concat_return]
      simpa [ImportForm.listedNames, Match.get, Match.get?, hname, hname'] using hnames

-- -------------------------------------
-- The forms of the stock languages
-- -------------------------------------

open ImportForm

theorem ofCaptures_plainTarget : OfCaptures plainTarget := by
  intro m m' hget
  unfold plainTarget pathOf
  rw [hget]

theorem ofCaptures_lastSegment : OfCaptures lastSegment := by
  intro m m' hget
  unfold lastSegment pathOf
  rw [hget]

theorem ofCaptures_const {α : Type} (a : α) : OfCaptures fun _ => a := fun _ _ _ => rfl

theorem steady_script (ht : ¬ DetachedFrom t) : ∀ form ∈ Script.forms, form.Steady t := by
  have hnames : OfCaptures Script.names := by
    intro m m' hget
    unfold Script.names
    rw [hget]
  simp only [Script.forms, List.map_cons, List.map_nil, List.forall_mem_cons, List.not_mem_nil,
    false_imp_iff, implies_true, and_true]
  exact ⟨steady_of_twins ofCaptures_plainTarget hnames (Script.findAll_importFrom ht),
    steady_of_twins ofCaptures_plainTarget hnames Script.turns_sideEffect.findAll,
    steady_of_twins ofCaptures_plainTarget hnames Script.turns_reExport.findAll,
    steady_of_twins ofCaptures_plainTarget hnames Script.turns_requireCall.findAll⟩

theorem steady_python (ht : ¬ DanglingImport t) : ∀ form ∈ Python.forms, form.Steady t := by
  have htarget : OfCaptures Python.importTarget := by
    intro m m' hget
    unfold Python.importTarget pathOf
    rw [hget]
  simp only [Python.forms, List.forall_mem_cons, List.not_mem_nil, false_imp_iff, implies_true,
    and_true]
  refine ⟨fun hone => ?_,
    steady_of_twins htarget (ofCaptures_const []) Python.turns_plainImport.findAll⟩
  refine mapM_eq_of_forall₂ (Python.findAll_fromImport ht) fun m hm m' htwin => ?_
  obtain ⟨hpath, hnames⟩ := fromImport_reads htwin (hone m hm)
  refine ofMatch_congr ?_ hnames
  show Python.fromTarget m' = Python.fromTarget m
  unfold Python.fromTarget pathOf
  rw [hpath, hnames]

theorem steady_go : ∀ form ∈ Go.forms, form.Steady t := by
  have htarget : OfCaptures Go.groupTarget := by
    intro m m' hget
    unfold Go.groupTarget
    rw [hget]
  simp only [Go.forms, List.forall_mem_cons, List.not_mem_nil, false_imp_iff, implies_true,
    and_true]
  exact ⟨steady_of_twins ofCaptures_plainTarget (ofCaptures_const []) Go.turns_single.findAll,
    steady_of_twins htarget (ofCaptures_const []) Go.turns_group.findAll⟩

theorem steady_rust : ∀ form ∈ Rust.forms, form.Steady t := by
  have hnames : OfCaptures Rust.useNames := by
    intro m m' hget
    unfold Rust.useNames
    rw [hget, ofCaptures_lastSegment m m' hget]
  simp only [Rust.forms, List.forall_mem_cons, List.not_mem_nil, false_imp_iff, implies_true,
    and_true]
  exact ⟨steady_of_twins ofCaptures_plainTarget hnames Rust.turns_use.findAll,
    steady_of_twins ofCaptures_plainTarget (ofCaptures_const []) Rust.turns_module.findAll⟩

theorem steady_java : (Jvm.form Jvm.java).Steady t := by
  have hnames : OfCaptures Jvm.names := by
    intro m m' hget
    unfold Jvm.names
    rw [hget, ofCaptures_lastSegment m m' hget]
  exact steady_of_twins ofCaptures_plainTarget hnames Jvm.turns_java.findAll

theorem steady_ruby : ∀ form ∈ Ruby.forms, form.Steady t := by
  have htarget : OfCaptures Ruby.relativeTarget := by
    intro m m' hget
    unfold Ruby.relativeTarget pathOf
    rw [hget]
  simp only [Ruby.forms, List.forall_mem_cons, List.not_mem_nil, false_imp_iff, implies_true,
    and_true]
  exact ⟨steady_of_twins htarget (ofCaptures_const []) (Ruby.turns_required (by decide)).findAll,
    steady_of_twins ofCaptures_plainTarget (ofCaptures_const [])
      (Ruby.turns_required (by decide)).findAll⟩

theorem steady_php : ∀ form ∈ Php.forms, form.Steady t := by
  have huse : OfCaptures Php.useTarget := by
    intro m m' hget
    unfold Php.useTarget pathOf
    rw [hget]
  have hinclude : OfCaptures Php.includeTarget := by
    intro m m' hget
    unfold Php.includeTarget pathOf
    rw [hget]
  simp only [Php.forms, List.forall_mem_cons, List.not_mem_nil, false_imp_iff, implies_true,
    and_true]
  exact ⟨steady_of_twins huse ofCaptures_lastSegment Php.turns_use.findAll,
    steady_of_twins hinclude ofCaptures_lastSegment Php.turns_include.findAll⟩

theorem steady_dart : Dart.form.Steady t := by
  have htarget : OfCaptures Dart.target := by
    intro m m' hget
    unfold Dart.target pathOf
    rw [hget]
  have hnames : OfCaptures listedNames :=
    fun m m' hget => congrArg splitNames (congrFun hget "names")
  exact steady_of_twins htarget hnames Dart.turns_directive.findAll

/-- The stock languages whose import statements go up to the end of the line. -/
def upToLineEnd : List Text := Language.texts ["kotlin", "scala"]

/-- The stock languages that name the imported things in front of `from`. -/
def namesFirst : List Text := Language.texts ["javascript", "typescript", "vue", "svelte"]

/-- An import statement may be broken off at the end of a line, or go on at the start of one. -/
def BrokenOff (language : Language) (t : Text) : Prop :=
  (language.name = "python".toList ∧ DanglingImport t) ∨
    (language.name ∈ namesFirst ∧ DetachedFrom t)

variable {language : Language}

theorem steady_stock (hlanguage : language ∈ Language.stock)
    (hname : language.name ∉ upToLineEnd) (hbroken : ¬ BrokenOff language t) :
    ∀ form ∈ language.forms, form.Steady t := by
  have hplain {pattern : Pattern} (h : Turns t false true pattern) :
      Steady { pattern, target := plainTarget } t :=
    steady_of_twins ofCaptures_plainTarget (ofCaptures_const []) h.findAll
  simp only [Language.stock, List.mem_cons, List.not_mem_nil, or_false] at hlanguage
  rcases hlanguage with rfl | rfl | rfl | rfl | rfl | rfl | rfl | rfl | rfl | rfl | rfl | rfl |
    rfl | rfl | rfl | rfl
  · exact steady_script fun h => hbroken (.inr ⟨by decide, h⟩)
  · exact steady_script fun h => hbroken (.inr ⟨by decide, h⟩)
  · exact steady_script fun h => hbroken (.inr ⟨by decide, h⟩)
  · exact steady_script fun h => hbroken (.inr ⟨by decide, h⟩)
  · exact steady_python fun h => hbroken (.inl ⟨rfl, h⟩)
  · exact steady_go
  · exact steady_rust
  · exact List.forall_mem_singleton.mpr steady_java
  · exact absurd (by decide) hname
  · exact absurd (by decide) hname
  · exact List.forall_mem_singleton.mpr (hplain turns_cInclude)
  · exact List.forall_mem_singleton.mpr (hplain turns_usingDirective)
  · exact steady_ruby
  · exact steady_php
  · exact List.forall_mem_singleton.mpr (hplain turns_swiftImport)
  · exact List.forall_mem_singleton.mpr steady_dart

theorem extract_eq_nil {form : ImportForm} (hforms : language.forms = [form])
    (h : form.pattern.findAll t = []) : extract language t = .ok [] := by
  simp only [extract, hforms, List.mapM_cons, List.mapM_nil, h]
  rfl

theorem filter_upToLineEnd :
    Language.stock.filter (·.name ∈ upToLineEnd) = [Language.kotlin, Language.scala] := rfl

/-- In most stock languages the line ends make no difference to imports that stand on one line.
In the two languages whose statements go up to the end of the line, nothing is found once each
line ends in a carriage return and a line feed. -/
theorem extract_withReturns (hlanguage : language ∈ Language.stock) (content : Text) :
    (language.name ∉ upToLineEnd → ¬ BrokenOff language content →
      (∀ form ∈ language.forms, form.OneLine content) →
        extract language (Text.withReturns content) = extract language content) ∧
    (language.name ∈ upToLineEnd →
      extract language (Text.withReturns (content ++ ['\n'])) = .ok []) := by
  constructor
  · intro hname hbroken hone
    exact extract_congr fun form hform =>
      steady_stock hlanguage hname hbroken form hform (hone form hform)
  · intro hname
    have hmem : language ∈ Language.stock.filter (·.name ∈ upToLineEnd) :=
      List.mem_filter.mpr ⟨hlanguage, by simpa using hname⟩
    rw [filter_upToLineEnd, List.mem_cons, List.mem_singleton] at hmem
    rcases hmem with rfl | rfl
    · exact extract_eq_nil rfl (Jvm.findAll_kotlin content)
    · exact extract_eq_nil rfl (Jvm.findAll_scala content)

/-- A text without spaces and tabs at the ends of lines. -/
theorem not_danglingImport (h : ∀ i < t.length, t[i + 1]? = some '\n' →
    t[i]?.any isSpaceOrTab = false) : ¬ DanglingImport t := by
  rintro ⟨gap, hgap, hspace, front, back, ht⟩
  obtain ⟨init, c, rfl⟩ : ∃ init c, gap = init ++ [c] :=
    ⟨_, _, (List.dropLast_append_getLast hgap).symm⟩
  obtain ⟨front, rfl⟩ : ∃ front, t = front ++ c :: '\n' :: back :=
    ⟨front ++ "import".toList ++ init, by simp [← ht]⟩
  have hc := h front.length (by simp) (by simp)
  simp [hspace c (by simp)] at hc

/-- A module with two import statements. -/
def Sample.module : Text := "from a import b, c as d\nimport os\n\nprint(b)\n".toList

theorem extract_withReturns_sample :
    extract Language.python (Text.withReturns Sample.module) =
      .ok [{ path := "a", names := ["b", "c"] }, { path := "os" }] := by
  have hbroken : ¬ BrokenOff Language.python Sample.module := by
    rintro (⟨-, h⟩ | ⟨h, -⟩)
    · exact not_danglingImport (by decide) h
    · exact absurd h (by decide)
  rw [(extract_withReturns (by simp [Language.stock]) Sample.module).1 (by decide) hbroken
    (by decide +kernel)]
  decide +kernel

-- A statement that is broken off may take the carriage return for a name.
example : extract Language.javaScript "import \nfrom 'b'\n".toList = .ok [] ∧
    extract Language.javaScript (Text.withReturns "import \nfrom 'b'\n".toList) =
      .ok [{ path := "b" }] := by
  decide +kernel

/-- With a carriage return in front of the line feed an import is lost. -/
theorem extract_kotlin_withReturns :
    extract Language.kotlin "import a.b.C\n".toList = .ok [{ path := "a.b.C", names := ["C"] }] ∧
    extract Language.kotlin (Text.withReturns "import a.b.C\n".toList) = .ok [] := by
  decide

end Import

end RepoAtlas
