import RepoAtlas.Language.Family
import RepoAtlas.Proofs.Pattern.MidLine

/-!
# Line ends in the forms of import statements

Most forms are put together from parts that stay in step, and so find twin matches. Two need an
assumption about the text: imported names in front of `from` may start with a line end, and those
behind `import` take a carriage return along. The forms that go up to the end of the line find
nothing once each line ends in a carriage return and a line feed.
-/

namespace RepoAtlas.ImportForm

open Pattern

variable {t : Text} {asks gives : Bool}

-- -------------------------------------
-- Common pieces
-- -------------------------------------

theorem turns_gap0 : Turns t asks asks gap0 := .many (by decide)

theorem turns_gap : Turns t asks true gap := .many1 (by decide)

theorem turns_blank0 : Turns t true false blank0 := .many_amid (by decide)

theorem turns_blank : Turns t true false blank := .many1_amid (by decide)

theorem turns_quotedPath : Turns t asks true quotedPath :=
  .cons (.one (by decide)) <| .cons (.capture (.many1_amid (by decide))) <|
    .cons (.one (by decide)) .empty

theorem turns_doubleQuotedPath : Turns t asks true doubleQuotedPath :=
  .cons (.lit (by decide)) <| .cons (.capture (.many1_amid (by decide))) <|
    .cons (.lit (by decide)) .empty

theorem turns_line {pieces : List Pattern} (h : Turns t asks gives (inOrder pieces)) :
    Turns t asks true (line pieces) :=
  .cons .lineStart (.cons turns_gap0 h)

theorem turns_alias : Turns t asks true (inOrder [gap, "as", gap, many1 Text.isWord]) :=
  .cons turns_gap <| .cons (.lit (by decide)) <| .cons turns_gap <|
    .cons (.many1 (by decide)) .empty

theorem turns_word {word : Text} (h : Unbroken word) :
    Turns t asks true (inOrder [lit word, gap]) :=
  .cons (.lit h) (.cons turns_gap .empty)

-- -------------------------------------
-- The forms, language by language
-- -------------------------------------

theorem Script.turns_sideEffect : Turns t false true Script.sideEffect :=
  turns_line <| .cons (.lit (by decide)) <| .cons turns_blank <| .cons turns_quotedPath .empty

theorem Script.turns_reExport : Turns t false true Script.reExport := by
  have hfrom : Turns t false false (inOrder [blank, "from", blank, quotedPath]) :=
    .cons turns_blank <| .cons (.lit (by decide)) <| .cons turns_blank <|
      .cons turns_quotedPath .empty
  have hstar : Turns t false true
      (inOrder ["*", opt (inOrder [blank, "as", blank, many1 Text.isWord])]) := by
    refine .cons (.lit (by decide)) (.cons (.opt ?_) .empty)
    exact .cons turns_blank <| .cons (.lit (by decide)) <| .cons turns_blank <|
      .cons (.many1 (by decide)) .empty
  have hbraces : Turns t false true (inOrder ["\x7b", many (noneOf "\x7d"), "\x7d"]) :=
    .cons (.lit (by decide)) <| .cons (.many_amid (by decide)) <| .cons (.lit (by decide)) .empty
  refine turns_line <| .cons (.lit (by decide)) <| .cons turns_blank <| .cons (.opt ?_) <|
    .cons (.capture (.alt hstar hbraces)) hfrom
  exact .cons (.lit (by decide)) (.cons turns_blank .empty)

theorem Script.turns_requireCall : Turns t false true Script.requireCall :=
  .cons .wordEdge <| .cons (.lit (by decide)) <| .cons turns_blank0 <| .cons (.lit (by decide)) <|
    .cons turns_blank0 <| .cons turns_quotedPath <| .cons turns_blank0 <|
    .cons (.lit (by decide)) .empty

theorem Python.turns_moduleAlias : Turns t asks asks Python.moduleAlias := .opt turns_alias.lower

theorem Python.turns_plainImport : Turns t false true Python.plainImport := by
  have hmore : Turns t false false
      (inOrder [gap0, ",", gap0, many1 dotted, Python.moduleAlias]) :=
    .lower <| .cons turns_gap0 <| .cons (.lit (by decide)) <| .cons turns_gap0 <|
      .cons (.many1 (by decide)) <| .cons Python.turns_moduleAlias .empty
  exact turns_line <| .cons (.lit (by decide)) <| .cons turns_gap <|
    .cons (.capture <| .cons (.many1 (by decide)) <| .cons Python.turns_moduleAlias <|
      .cons (.star hmore) .empty) .empty

theorem Go.turns_single : Turns t false true Go.single :=
  turns_line <| .cons (.lit (by decide)) <| .cons turns_gap <|
    .cons (.opt <| .cons (.many1 (by decide)) <| .cons turns_gap .empty) <|
    .cons turns_doubleQuotedPath .empty

theorem Go.turns_group : Turns t false true Go.group :=
  turns_line <| .cons (.lit (by decide)) <| .cons turns_gap0 <| .cons (.lit (by decide)) <|
    .cons (.capture (.many_amid (by decide))) <| .cons (.lit (by decide)) .empty

theorem Rust.turns_visibility : Turns t asks asks Rust.visibility :=
  .opt <| .lower <| .cons (.lit (by decide)) <|
    .cons (.opt <| .cons (.lit (by decide)) <| .cons (.many1 (by decide)) <|
      .cons (.lit (by decide)) .empty) <|
    .cons turns_gap .empty

theorem Rust.turns_use : Turns t false true Rust.use :=
  turns_line <| .cons Rust.turns_visibility <| .cons (.lit (by decide)) <| .cons turns_gap <|
    .cons (.capture (.few1 (by decide))) <|
    .cons (.opt <| .alt
      (.cons (.lit (by decide)) <| .cons (.capture (.many_amid (by decide))) <|
        .cons (.lit (by decide)) .empty)
      (.lit (by decide))) <|
    .cons (.opt turns_alias) <| .cons turns_gap0 <| .cons (.lit (by decide)) .empty

theorem Rust.turns_module : Turns t false true Rust.module :=
  turns_line <| .cons Rust.turns_visibility <| .cons (.lit (by decide)) <| .cons turns_gap <|
    .cons (.capture (.many1 (by decide))) <| .cons turns_gap0 <| .cons (.lit (by decide)) .empty

theorem Jvm.turns_java : Turns t false true Jvm.java :=
  turns_line <| .cons (.lit (by decide)) <| .cons turns_gap <|
    .cons (.opt (turns_word (by decide))) <| .cons (.capture (.few1 (by decide))) <|
    .cons (.opt (.lit (by decide))) <| .cons turns_gap0 <| .cons (.lit (by decide)) .empty

theorem turns_cInclude : Turns t false true cInclude.pattern :=
  turns_line <| .cons (.lit (by decide)) <| .cons turns_gap0 <|
    .cons (.alt (.lit (by decide)) (.lit (by decide))) <| .cons turns_gap0 <|
    .cons turns_doubleQuotedPath .empty

theorem turns_usingDirective : Turns t false true usingDirective.pattern :=
  turns_line <| .cons (.opt (turns_word (by decide))) <| .cons (.lit (by decide)) <|
    .cons turns_gap <| .cons (.opt (turns_word (by decide))) <|
    .cons (.capture (.many1 (by decide))) <| .cons turns_gap0 <| .cons (.lit (by decide)) .empty

theorem Ruby.turns_required {word : String} (h : Unbroken word.toList) :
    Turns t false true (Ruby.required word) :=
  turns_line <| .cons (.lit h) <| .cons turns_gap0 <| .cons (.opt (.lit (by decide))) <|
    .cons turns_gap0 <| .cons turns_quotedPath .empty

theorem Php.turns_use : Turns t false true Php.use :=
  turns_line <| .cons (.lit (by decide)) <| .cons turns_gap <|
    .cons (.opt (.alt (turns_word (by decide)) (turns_word (by decide)))) <|
    .cons (.capture (.many1 (by decide))) <| .cons (.opt turns_alias) <| .cons turns_gap0 <|
    .cons (.lit (by decide)) .empty

theorem Php.turns_include : Turns t false true Php.«include» :=
  .cons .wordEdge <| .cons (.alt (.lit (by decide)) (.lit (by decide))) <|
    .cons (.opt (.lit (by decide))) <| .cons turns_gap0 <| .cons (.opt (.lit (by decide))) <|
    .cons turns_gap0 <|
    .cons (.opt <| .capture <| .cons (.lit (by decide)) <| .cons turns_gap0 <|
      .cons (.lit (by decide)) <| .cons turns_gap0 .empty) <|
    .cons turns_quotedPath .empty

theorem turns_swiftImport : Turns t false true swiftImport.pattern := by
  have hkind : Turns t true true (oneOf ["class", "struct", "enum", "protocol", "func", "var",
      "let", "typealias"]) :=
    .alt (.lit (by decide)) <| .alt (.lit (by decide)) <| .alt (.lit (by decide)) <|
      .alt (.lit (by decide)) <| .alt (.lit (by decide)) <| .alt (.lit (by decide)) <|
      .alt (.lit (by decide)) (.lit (by decide))
  exact turns_line <| .cons (.opt (turns_word (by decide))) <| .cons (.lit (by decide)) <|
    .cons turns_gap <| .cons (.opt (.cons hkind (.cons turns_gap .empty))) <|
    .cons (.capture (.many1 (by decide))) .empty

theorem Dart.turns_directive : Turns t false true Dart.directive :=
  turns_line <|
    .cons (.alt (.lit (by decide)) <| .alt (.lit (by decide)) (.lit (by decide))) <|
    .cons turns_gap <| .cons turns_quotedPath <| .cons (.opt turns_alias.lower) <|
    .cons (.opt <| .lower <| .cons turns_gap <| .cons (.lit (by decide)) <| .cons turns_gap <|
      .cons (.capture (.many1 (by decide))) .empty) .empty

-- -------------------------------------
-- Imported names in front of `from`
-- -------------------------------------

/-- A line begins with `from` and a quote. -/
def DetachedFrom (t : Text) : Prop :=
  ∃ indent gap mark, (∀ c ∈ indent, Text.isBlank c = true) ∧ gap ≠ [] ∧
    (∀ c ∈ gap, Text.isBlank c = true) ∧ isSingleOrDouble mark = true ∧
      '\n' :: indent ++ "from".toList ++ gap ++ [mark] <:+: t

namespace Script

/-- The end of an import statement, from behind the names on. -/
def fromPath : Pattern := inOrder [blank, "from", blank, quotedPath]

/-- An import statement from the names on. -/
def namesFromPath : Pattern :=
  inOrder [capture "names" (few1To Text.isBlank clauseChar), fromPath]

theorem turns_fromPath : Turns t false false fromPath :=
  .cons turns_blank <| .cons (.lit (by decide)) <| .cons turns_blank <|
    .cons turns_quotedPath .empty

theorem run_fromPath_inv {s r : State} {k : Rest} (h : run fromPath s k = some r) :
    ∃ first gap mark rest, first ≠ [] ∧ (∀ c ∈ first, Text.isBlank c = true) ∧ gap ≠ [] ∧
      (∀ c ∈ gap, Text.isBlank c = true) ∧ isSingleOrDouble mark = true ∧
      s.cursor.ahead = first ++ "from".toList ++ gap ++ mark :: rest := by
  rw [fromPath, run_inOrder_cons] at h
  obtain ⟨first, c₁, hfirst, hblank, ⟨hahead₁, -⟩, h⟩ := run_many1_inv h
  rw [run_inOrder_cons] at h
  obtain ⟨c₂, ⟨hahead₂, -⟩, h⟩ := run_lit_inv h
  rw [run_inOrder_cons] at h
  obtain ⟨gap, c₃, hgap, hblank', ⟨hahead₃, -⟩, h⟩ := run_many1_inv h
  rw [run_inOrder_cons, quotedPath, run_inOrder_cons] at h
  obtain ⟨mark, c₄, hmark, ⟨hahead₄, -⟩, -⟩ := run_one_inv h
  refine ⟨first, gap, mark, c₄.ahead, hfirst, hblank, hgap, hblank', hmark, ?_⟩
  simp only at hahead₂ hahead₃ hahead₄
  rw [hahead₁, hahead₂, hahead₃, hahead₄]
  simp

theorem run_fromPath_behind {before ahead : Text} {n : Nat} (ht : ¬ DetachedFrom t)
    (hon : Cursor.On t ⟨'\n' :: before, ahead, n⟩) (captures : List Capture) :
    run fromPath ⟨⟨'\n' :: before, ahead, n⟩, captures⟩ some = none := by
  cases h : run fromPath ⟨⟨'\n' :: before, ahead, n⟩, captures⟩ some with
  | none => rfl
  | some r =>
    obtain ⟨indent, gap, mark, rest, -, hindent, hgap, hblank, hmark, hahead⟩ :=
      run_fromPath_inv h
    refine absurd ⟨indent, gap, mark, hindent, hgap, hblank, hmark, before.reverse, rest, ?_⟩ ht
    rw [← hon.text]
    simp_all

theorem run_fromPath_before {before ahead : Text} {n : Nat} (ht : ¬ DetachedFrom t)
    (hon : Cursor.On t ⟨before, '\n' :: ahead, n⟩) (captures : List Capture) :
    run fromPath ⟨⟨before, '\n' :: ahead, n⟩, captures⟩ some = none := by
  cases h : run fromPath ⟨⟨before, '\n' :: ahead, n⟩, captures⟩ some with
  | none => rfl
  | some r =>
    obtain ⟨first, gap, mark, rest, hfirst, hblank, hgap, hblank', hmark, hahead⟩ :=
      run_fromPath_inv h
    obtain ⟨x, indent, rfl⟩ := List.exists_cons_of_ne_nil hfirst
    obtain ⟨rfl, rfl⟩ : '\n' = x ∧ ahead = indent ++ "from".toList ++ gap ++ mark :: rest := by
      simpa using hahead
    refine absurd ⟨indent, gap, mark, fun c hc => hblank c (.tail _ hc), hgap, hblank', hmark,
      before.reverse, rest, ?_⟩ ht
    rw [← hon.text]
    simp

theorem refuses_fromPath (ht : ¬ DetachedFrom t) : Refuses t fun s => run fromPath s some := by
  intro before ahead n captures' hon
  -- both runs pass the line feed, and behind it they are in step
  have hrest : Turns t false false (inOrder [blank0, "from", blank, quotedPath]) :=
    .cons turns_blank0 <| .cons (.lit (by decide)) <| .cons turns_blank <|
      .cons turns_quotedPath .empty
  have hpass (before ahead : Text) (n : Nat) (captures : List Capture) :
      run fromPath ⟨⟨before, '\n' :: ahead, n⟩, captures⟩ some =
        run (inOrder [blank0, "from", blank, quotedPath])
          ⟨⟨'\n' :: before, ahead, n + 1⟩, captures⟩ some := rfl
  have hbefore := run_fromPath_before ht hon []
  rw [hpass] at hbefore
  exact (hpass _ _ _ captures').trans
    ((hrest.alikeAny (alikeAny_some t)).none hon.pass hbefore)

/-- The end of a statement as it is tried behind names that start at `c`. -/
def behindNames (c : Cursor) : Rest := fun s =>
  run fromPath
    ⟨s.cursor, ⟨"names", c.ahead, s.cursor.position - c.position⟩ :: s.captures⟩ some

theorem run_namesFromPath (s : State) :
    run namesFromPath s some =
      run (one clauseChar) s fun s' =>
        run (few clauseChar Text.isBlank) s' (behindNames s.cursor) := rfl

theorem alike_namesFromPath {C : List Capture → List Capture → Prop} {R : State → State → Prop}
    (ht : ¬ DetachedFrom t) (hC : Extensible t C) (hsome : Alike t C R some some) :
    Alike t C R (fun s => run namesFromPath s some) fun s => run namesFromPath s some := by
  have hnames : Turns t true false (capture "names" (few1To Text.isBlank clauseChar)) :=
    .capture (.few1To_amid (by decide) (by decide))
  exact hnames.alike hC (turns_fromPath.alike hC hsome nofun) fun _ => refuses_fromPath ht

/-- Names that start with a line feed are no better than those that start behind it. -/
theorem yields_namesFromPath (ht : ¬ DetachedFrom t) :
    Yields t (fun s => run namesFromPath s some) fun s => run namesFromPath s some := by
  intro before ahead n captures captures' hon hnone
  have hhere (captures : List Capture) : behindNames ⟨'\n' :: before, ahead, n + 1⟩
      ⟨⟨'\n' :: before, ahead, n + 1⟩, captures⟩ = none := run_fromPath_behind ht hon.pass _
  have hfew : run (few clauseChar Text.isBlank) ⟨⟨'\n' :: before, ahead, n + 1⟩, captures⟩
      (behindNames ⟨'\n' :: before, ahead, n + 1⟩) = none := by
    cases ahead with
    | nil => exact hhere captures
    | cons x ahead =>
      simp only [run_namesFromPath, run_one_cons] at hnone
      rw [run_few_cons, hnone, hhere]
      simp
  have halike : AlikeAny t (behindNames ⟨'\n' :: before, ahead, n + 1⟩)
      (behindNames (.midBreak before ahead)) :=
    fun c _ _ hon _ => turns_fromPath.alikeAny (alikeAny_some t) c _ _ hon trivial
  have hrefuses : Refuses t (behindNames (.midBreak before ahead)) :=
    fun _ _ _ _ hon => refuses_fromPath ht _ _ _ _ hon
  have hclause : Amid clauseChar := by decide
  exact (halike.few_amid hclause rfl hrefuses).none hon.pass hfew

/-- An import statement from behind its first blanks on, possibly with `type`. -/
def typedFromPath : Pattern := inOrder [opt (inOrder ["type", blank]), namesFromPath]

theorem run_typedFromPath (s : State) :
    run typedFromPath s some =
      (run (lit "type".toList) s fun s' =>
        run blank s' fun s'' => run namesFromPath s'' some).or (run namesFromPath s some) :=
  run_alt ..

theorem run_importFrom (s : State) :
    run importFrom s some =
      run (line ["import"]) s fun s' => run blank s' fun s'' => run typedFromPath s'' some := rfl

theorem alike_typedFromPath {C : List Capture → List Capture → Prop} {R : State → State → Prop}
    (ht : ¬ DetachedFrom t) (hC : Extensible t C) (hsome : Alike t C R some some) :
    Alike t C R (fun s => run typedFromPath s some) fun s => run typedFromPath s some := by
  have hnames := alike_namesFromPath ht hC hsome
  have hblank := hnames.many1_amid (p := Text.isBlank) (by decide) (yields_namesFromPath ht)
  have htype : Turns t false true (lit "type".toList) := .lit (by decide)
  intro c captures captures' hon hcaptures
  simp only [run_typedFromPath]
  exact rel_or (htype.alike hC hblank nofun c _ _ hon hcaptures) (hnames c _ _ hon hcaptures)

theorem yields_typedFromPath (ht : ¬ DetachedFrom t) :
    Yields t (fun s => run typedFromPath s some) fun s => run typedFromPath s some := by
  have htype : Turns t false true (lit "type".toList) := .lit (by decide)
  intro before ahead n captures captures' hon hnone
  simp only [run_typedFromPath, Option.or_eq_none_iff] at hnone ⊢
  exact ⟨htype.refuses rfl nofun _ _ _ _ hon, yields_namesFromPath ht _ _ _ _ _ hon hnone.2⟩

theorem findAll_importFrom (ht : ¬ DetachedFrom t) :
    List.Forall₂ (TwinMatch t (TwinState t)) (importFrom.findAll t)
      (importFrom.findAll (Text.withReturns t)) := by
  have hfront : Turns t false true (line ["import"]) :=
    turns_line <| .cons (.lit (by decide)) .empty
  have hC := extensible_twinCapture t
  have htyped := alike_typedFromPath ht hC (alike_twinState t)
  have hblank := htyped.many1_amid (p := Text.isBlank) (by decide) (yields_typedFromPath ht)
  refine findAll_twinState ?_ ?_
  · simp only [run_importFrom]
    exact hfront.alike hC hblank nofun
  · simp only [run_importFrom]
    exact hfront.refuses rfl nofun

end Script

-- -------------------------------------
-- Imported names up to the end of the line
-- -------------------------------------

/-- A line ends in `import` and spaces or tabs. -/
def DanglingImport (t : Text) : Prop :=
  ∃ gap, gap ≠ [] ∧ (∀ c ∈ gap, isSpaceOrTab c = true) ∧
    "import".toList ++ gap ++ ['\n'] <:+: t

namespace Python

/-- Twin results, except that the second one may end inside a line break and have the carriage
return at the end of its names. -/
inductive TwinOrLate (t : Text) : State → State → Prop where
  | twin {s s' : State} : TwinState t s s' → TwinOrLate t s s'
  | late {before ahead : Text} {n : Nat} {names names' : Capture} {others others' : List Capture} :
      Cursor.On t ⟨before, '\n' :: ahead, n⟩ → names.name = "names" → names'.name = "names" →
      names'.text = Text.withReturns names.text ++ ['\r'] →
      List.Forall₂ TwinCapture others others' →
      TwinOrLate t ⟨⟨before, '\n' :: ahead, n⟩, names :: others⟩
        ⟨.midBreak before ahead, names' :: others'⟩

def names : Pattern :=
  capture "names" (oneOf [inOrder ["(", many (noneOf ")"), ")"], many1 (noneOf "\n#;")])

def importNames : Pattern := inOrder ["import", gap, names]

/-- A capture of the names from `c` on. -/
def keepNames (c : Cursor) : Rest := fun s =>
  some ⟨s.cursor, ⟨"names", c.ahead, s.cursor.position - c.position⟩ :: s.captures⟩

section

variable {c : Cursor} {captures captures' : List Capture}

theorem rel_keepNames_skip {d : Cursor} {p : Char → Bool} (hreturn : p '\r' = true)
    (hnewline : p '\n' = false) (hc : c.On t) (hd : c.Reaches d)
    (hcaptures : List.Forall₂ TwinCapture captures captures') :
    Option.Rel (TwinOrLate t) (keepNames c ⟨d.skip p, captures⟩)
      (keepNames c.withReturns ⟨d.withReturns.skip p, captures'⟩) := by
  have hreach := hd.trans (Cursor.reaches_skip p d)
  have hon := hc.reaches hreach
  rcases Cursor.skip_withReturns hreturn hnewline d with hskip | ⟨before, ahead, n, hskip, hskip'⟩
  · rw [hskip]
    exact .some (.twin ⟨hon, rfl, extensible_twinCapture t _ _ _ _ _ hc hon hcaptures⟩)
  · rw [hskip']
    rw [hskip] at hon hreach ⊢
    exact .some (.late hon rfl rfl (Cursor.take_midBreak hc hon hreach.position_le) hcaptures)

theorem run_names (c : Cursor) (captures : List Capture) :
    run names ⟨c, captures⟩ some =
      (run (inOrder ["(", many (noneOf ")"), ")"]) ⟨c, captures⟩ (keepNames c)).or
        (run (one (noneOf "\n#;")) ⟨c, captures⟩ fun s =>
          keepNames c ⟨s.cursor.skip (noneOf "\n#;"), s.captures⟩) := by
  have hskip : (fun s => run (many (noneOf "\n#;")) s (keepNames c)) = fun s =>
      keepNames c ⟨s.cursor.skip (noneOf "\n#;"), s.captures⟩ :=
    funext (run_many_of_some fun _ => rfl)
  rw [← hskip]
  exact run_alt ..

/-- At a line feed the second run would find a carriage return for a name, the first run nothing. -/
theorem rel_names (hon : c.On t) (hcaptures : List.Forall₂ TwinCapture captures captures')
    (hahead : c.ahead.head? ≠ some '\n') :
    Option.Rel (TwinOrLate t) (run names ⟨c, captures⟩ some)
      (run names ⟨c.withReturns, captures'⟩ some) := by
  rw [run_names, run_names]
  refine rel_or ?_ ?_
  · have hlisted : Turns t false true (inOrder ["(", many (noneOf ")"), ")"]) :=
      .cons (.lit (by decide)) <| .cons (.many_amid (by decide)) <|
        .cons (.lit (by decide)) .empty
    refine hlisted.alike (extensible_twinCapture t) ?_ nofun c _ _ hon hcaptures
    intro d added added' hd hadded
    exact .some (.twin ⟨hd, rfl, extensible_twinCapture t _ _ _ _ _ hon hd hadded⟩)
  · obtain ⟨before, ahead, n⟩ := c
    cases ahead with
    | nil => exact .none
    | cons x ahead =>
      have hx : x ≠ '\n' := by simpa using hahead
      have hskip := rel_keepNames_skip (p := noneOf "\n#;") (by decide) (by decide) hon
        (.pass (.refl ⟨x :: before, ahead, n + 1⟩)) hcaptures
      simp only [Cursor.withReturns, Text.withReturns_cons hx, Text.withReturnsBehind_cons hx,
        List.length_cons, run_one_cons] at hskip ⊢
      split
      · exact hskip
      · exact .none

/-- A run of a class that does not end at a line feed. -/
theorem rel_many_unless_newline {C : List Capture → List Capture → Prop}
    {R : State → State → Prop} {k : Rest} {p : Char → Bool}
    (hk : ∀ c captures captures', c.On t → C captures captures' → c.ahead.head? ≠ some '\n' →
      Option.Rel R (k ⟨c, captures⟩) (k ⟨c.withReturns, captures'⟩))
    (hon : c.On t) (hcaptures : C captures captures')
    (hahead : ∀ gap rest, (∀ x ∈ gap, p x = true) → c.ahead ≠ gap ++ '\n' :: rest) :
    Option.Rel R (run (many p) ⟨c, captures⟩ k) (run (many p) ⟨c.withReturns, captures'⟩ k) := by
  obtain ⟨before, ahead, n⟩ := c
  induction ahead generalizing before n with
  | nil => exact hk _ _ _ hon hcaptures (by simp)
  | cons x ahead ih =>
    have hx : x ≠ '\n' := fun h => hahead [] ahead (by simp) (by simp [h])
    have hhere := hk _ _ _ hon hcaptures (by simpa using hx)
    by_cases hpx : p x = true
    · have hthere := ih _ _ hon.pass fun gap rest hgap h =>
        hahead (x :: gap) rest (by simpa [hpx] using hgap) (congrArg (x :: ·) h)
      simp only [Cursor.withReturns, Text.withReturns_cons hx, Text.withReturnsBehind_cons hx,
        List.length_cons, run_many_cons hpx] at hhere hthere ⊢
      exact rel_or hthere hhere
    · rw [Bool.not_eq_true] at hpx
      simp only [Cursor.withReturns, Text.withReturns_cons hx, run_many_stop hpx] at hhere ⊢
      exact hhere

end

theorem run_importNames (s : State) :
    run importNames s some =
      run (lit "import".toList) s fun s₁ => run (one isSpaceOrTab) s₁ fun s₂ =>
        run (many isSpaceOrTab) s₂ fun s₃ => run names s₃ some := rfl

theorem alike_importNames (ht : ¬ DanglingImport t) :
    Alike t (List.Forall₂ TwinCapture) (TwinOrLate t) (fun s => run importNames s some)
      fun s => run importNames s some := by
  intro c captures captures' hon hcaptures
  have hword : '\r' ∉ "import".toList ∧ '\n' ∉ "import".toList := by decide
  simp only [run_importNames]
  refine Turns.rel_lit hword hon fun d hd hbefore => ?_
  obtain ⟨before, ahead, n⟩ := d
  cases ahead with
  | nil => exact .none
  | cons x ahead =>
    by_cases hx : x = '\n'
    · subst hx
      exact .none
    by_cases hspace : isSpaceOrTab x = true
    · have hgap (gap rest : Text) (hgap : ∀ y ∈ gap, isSpaceOrTab y = true) :
          ahead ≠ gap ++ '\n' :: rest := by
        rintro rfl
        refine ht ⟨x :: gap, by simp, by simpa [hspace] using hgap, c.before.reverse, rest, ?_⟩
        rw [← hd.text, hbefore]
        simp
      have hrel := rel_many_unless_newline (k := fun s => run names s some)
        (fun _ _ _ => rel_names) hd.pass hcaptures hgap
      simp only [Cursor.withReturns, Text.withReturns_cons hx, Text.withReturnsBehind_cons hx,
        List.length_cons, run_one_cons, hspace, if_true] at hrel ⊢
      exact hrel
    · simp only [Cursor.withReturns, Text.withReturns_cons hx, run_one_cons, hspace]
      exact .none

theorem matchAt?_fromImport_newline (before ahead : Text) (n : Nat) :
    fromImport.matchAt? ⟨before, '\n' :: ahead, n⟩ = none := by
  have hrun : run fromImport ⟨⟨before, '\n' :: ahead, n⟩, []⟩ some = none := by
    rw [fromImport, line, run_inOrder_cons, lineStart, run]
    split <;> rfl
  rw [matchAt?, hrun]
  rfl

theorem findAll_fromImport (ht : ¬ DanglingImport t) :
    List.Forall₂ (TwinMatch t (TwinOrLate t)) (fromImport.findAll t)
      (fromImport.findAll (Text.withReturns t)) := by
  have hfront : Turns t false true (line ["from", gap,
      path (oneOf [inOrder [many1 (· == '.'), many dotted], many1 dotted]), gap]) :=
    turns_line <| .cons (.lit (by decide)) <| .cons turns_gap <|
      .cons (.capture <| .alt
        (.cons (.many1 (by decide)) <| .cons (.many (by decide)) .empty)
        (.many1 (by decide))) <|
      .cons turns_gap .empty
  have hrun (s : State) : run fromImport s some = run (line ["from", gap,
      path (oneOf [inOrder [many1 (· == '.'), many dotted], many1 dotted]), gap]) s fun s' =>
        run importNames s' some := rfl
  have hC := extensible_twinCapture t
  refine findAll_alike (C := List.Forall₂ TwinCapture) ?_ .nil ?_ ?_
  · simp only [hrun]
    exact hfront.alike hC (alike_importNames ht) nofun
  · simp only [hrun]
    exact hfront.refuses rfl nofun
  · intro s s' h
    cases h with
    | twin h =>
      rw [h.cursor]
      exact .twin h.on
    | late hon => exact .late hon (matchAt?_fromImport_newline ..)

end Python

-- -------------------------------------
-- Statements up to the end of the line
-- -------------------------------------

namespace Jvm

theorem blocks_line {rest : List Pattern} {Q : Cursor → Prop}
    (h : Blocks t Q Cursor.MidLine (inOrder rest)) :
    Blocks t Q Anywhere (line ("import" :: gap :: path (few1 dotted) :: rest)) :=
  .cons .any <| .cons .any <| .cons .any <| .cons .any <| .cons (.capture (.few1 (by decide))) h

theorem findAll_kotlin (t : Text) : kotlin.findAll (Text.withReturns (t ++ ['\n'])) = [] := by
  have hgap : Apart isSpaceOrTab := by decide
  refine (blocks_line ?_).findAll
  refine .cons (.opt (.mid (.lit (by decide)))) <| .cons (.opt (.mid ?_)) <| .cons (.many hgap) <|
    .cons (.opt (.mid (.lit (by decide)))) <| .cons (.many hgap) <| .cons .lineEnd .empty
  exact .cons .any <| .cons .any <| .cons .any <| .cons (.many1 (by decide)) .empty

theorem findAll_scala (t : Text) : scala.findAll (Text.withReturns (t ++ ['\n'])) = [] := by
  have hgap : Apart isSpaceOrTab := by decide
  refine (blocks_line ?_).findAll
  refine .cons (.opt (.mid ?_)) <| .cons (.many hgap) <| .cons .lineEnd .empty
  refine .alt ?_ <| .alt (.lit (by decide)) (.lit (by decide))
  exact .cons .any <| .cons .any <| .cons (.lit (by decide)) .empty

end Jvm

end RepoAtlas.ImportForm
