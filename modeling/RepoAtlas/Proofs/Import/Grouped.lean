import RepoAtlas.Language.Stock
import RepoAtlas.Proofs.Import.GroupLine

/-!
# Comments in grouped imports

`Import.extract_grouped`: in Go, comments behind the entries of a group make no difference as long
as none has a closing parenthesis, which ends the group. In Python, they are taken for parts of
names, and in JavaScript an import with a comment in it is not found at all.
-/

namespace RepoAtlas.Import

open Pattern ImportForm GroupLine Text

variable {language : Language} {lines : List GroupLine}

-- -------------------------------------
-- Go
-- -------------------------------------

/-- A group of imports in Go. -/
def goGroup (lines : List GroupLine) : Text :=
  "import (".toList ++ (block "//" lines ++ ['\n', ')'])

/-- What the entries of lines stand for. -/
def goImports (lines : List GroupLine) : List Import :=
  (lines.filterMap fun line => blockEntry? line.entry).map fun path => { path }

/-- A line of a group in Go: not a statement of its own, and apart from its comment. -/
structure InGo (line : GroupLine) : Prop where
  opened : ')' ∉ line.entry
  apart : line.entry.getLast? ≠ some '/'
  noStatement : firstWord line.entry ≠ "import".toList

instance (line : GroupLine) : Decidable (InGo line) :=
  decidable_of_iff (')' ∉ line.entry ∧ line.entry.getLast? ≠ some '/' ∧
      firstWord line.entry ≠ "import".toList)
    ⟨fun ⟨h, h', h''⟩ => ⟨h, h', h''⟩, fun ⟨h, h', h''⟩ => ⟨h, h', h''⟩⟩

theorem blockEntry?_line {line : GroupLine} (h : InGo line) :
    blockEntry? ((line.text "//").takeWhile (· != ')')) = blockEntry? line.entry := by
  rw [takeWhile_text isMark_slashes h.opened]
  cases line.comment with
  | none => simp
  | some comment => exact blockEntry?_comment h.apart _

/-- The entries of a block, whichever way it is read. -/
theorem ofMatch_group {texts : List Text} (htexts : ∀ t ∈ texts, t.Unbroken) {tail : Text}
    (htail : tail = [] ∨ tail = ['\n']) {m : Match} (hm : m.get "block" = stacked texts ++ tail) :
    ofMatch { pattern := Go.group, target := Go.groupTarget } m =
      .ok ((texts.filterMap blockEntry?).map fun path => { path }) := by
  by_cases hfeed : (trim (stacked texts ++ tail)).contains '\n' = true
  · have hmem : '\n' ∈ stacked texts ++ tail := mem_of_mem_trim (List.contains_iff_mem.mp hfeed)
    have htarget : Go.groupTarget m = .ok (some (stacked texts ++ tail)) := by
      rw [Go.groupTarget, hm, if_pos hfeed]
    rw [ofMatch_of_block htarget hmem, filterMap_lines_stacked htexts htail]
  · have hblank : ∀ c ∈ tail, isBlank c = true := by
      rcases htail with rfl | rfl
      · exact List.forall_mem_nil _
      · exact List.forall_mem_singleton.mpr rfl
    obtain ⟨entry, hentry, hlist, hline⟩ :=
      blockEntry?_stacked hblank (mt List.contains_iff_mem.mpr hfeed)
    have htarget : Go.groupTarget m = .ok entry := by
      rw [Go.groupTarget, hm, if_neg hfeed, hentry]
    rw [hlist]
    cases entry with
    | none => simp [ofMatch, htarget, bind, Except.bind, pure, Except.pure]
    | some p =>
      obtain ⟨line, hmem, hp⟩ := hline p rfl
      obtain ⟨hne, hchars⟩ := blockEntry?_eq_some hp
      have hfeed : '\n' ∉ p := fun h => by cases htexts line hmem _ (hchars _ h)
      rw [ofMatch_of_target htarget hne hfeed]
      rfl

theorem behindBreaks_goGroup (hlines : ∀ line ∈ lines, InGo line) :
    BehindBreaks (firstWord · ≠ "import".toList) (goGroup lines) := by
  refine (behindBreaks_append (by decide) _).mpr ?_
  exact behindBreaks_block isMark_slashes "import".toList [')']
    (fun line hline => (hlines line hline).noStatement) (by decide)

theorem findAll_single (hlines : ∀ line ∈ lines, InGo line) :
    Go.single.findAll (goGroup lines) = [] := by
  have hgap : ∀ c, isSpaceOrTab c = true → (dotted c || isSpaceOrTab c) = true := by simp_all
  have hname : Within (fun c => dotted c || isSpaceOrTab c) (inOrder [many1 dotted, gap]) :=
    .cons (.seq (within_one (by simp_all)) (within_many (by simp_all))) <|
      .cons (.seq (within_one hgap) (within_many hgap)) within_empty
  have hwithin : Within (fun c => dotted c || isSpaceOrTab c)
      (inOrder [gap0, "import", gap, opt (inOrder [many1 dotted, gap])]) :=
    .cons (within_many hgap) <| .cons (within_lit rfl) <|
      .cons (.seq (within_one hgap) (within_many hgap)) <|
      .cons (.alt hname within_empty) within_empty
  have hquote : StartsIn (· == '"') (inOrder [doubleQuotedPath]) :=
    StartsIn.inOrder (StartsIn.inOrder (startsIn_lit rfl rfl) _) _
  have hbreaks := behindBreaks_goGroup hlines
  refine findAll_line_eq_nil (by decide) rfl (startsIn_gap _) ?_ hbreaks
  exact hwithin.misses hquote (t := "import ".toList) rfl rfl rfl _

/-- The group is found once, with all that stands between its parentheses. -/
theorem findAll_group (hlines : ∀ line ∈ lines, InGo line) :
    ∃ m, Go.group.findAll (goGroup lines) = [m] ∧ m.get "block" = inside "//" lines := by
  obtain ⟨rest, hcontent, hreads⟩ := exists_reads_inside "//" lines
  have hblock := (hreads.capture "block").cons (reads_lit [')']).last
  have hgroup : Reads
      (inOrder [gap0, "import", gap0, "(", capture "block" (many (noneOf ")")), ")"])
      ("import (".toList ++ inside "//" lines ++ [')']) rest [("block", inside "//" lines)] := by
    rw [List.append_assoc]
    exact (reads_gap0_nil rfl).cons <| (reads_lit "import".toList).cons <|
      (reads_gap0 rfl).cons <| (reads_lit ['(']).cons hblock
  have hparen : StartsIn (fun x => !isWord x)
      (inOrder [gap0, "(", capture "block" (many (noneOf ")")), ")"]) :=
    startsIn_many (fun c hc => by simp [not_isWord_of_isSpaceOrTab hc])
      (StartsIn.inOrder (startsIn_lit rfl (by decide)) _)
  have hwhole : goGroup lines = "import (".toList ++ inside "//" lines ++ [')'] ++ rest := by
    rw [List.append_assoc, List.append_assoc, List.singleton_append]
    exact congrArg ("import (".toList ++ ·) hcontent
  have hrest : BehindBreaks (firstWord · ≠ "import".toList) rest :=
    (hwhole ▸ behindBreaks_goGroup hlines).of_append
  obtain ⟨m, hm, hget⟩ :=
    findAll_line_eq_singleton (by decide) rfl hparen hgroup (by decide) hrest
  refine ⟨m, hwhole ▸ hm, ?_⟩
  rw [Match.get, hget]
  rfl

theorem extract_goGroup (hlines : ∀ line ∈ lines, InGo line) :
    extract .go (goGroup lines) = .ok (goImports (upToClosing lines)) := by
  obtain ⟨m, hm, hget⟩ := findAll_group hlines
  obtain ⟨tail, htail, hinside⟩ := inside_eq isMark_slashes fun line hline =>
    (hlines line hline).opened
  have hunbroken : ∀ t ∈ (upToClosing lines).map fun line => (line.text "//").takeWhile (· != ')'),
      Text.Unbroken t := by
    intro t ht
    obtain ⟨line, -, rfl⟩ := List.mem_map.mp ht
    exact fun c hc => unbroken_text isMark_slashes line c ((List.takeWhile_prefix _).subset hc)
  have himports := ofMatch_group hunbroken htail (hget.trans hinside)
  have hentries : ((upToClosing lines).map fun line =>
      (line.text "//").takeWhile (· != ')')).filterMap blockEntry? =
        (upToClosing lines).filterMap fun line => blockEntry? line.entry := by
    rw [List.filterMap_map]
    refine List.filterMap_congr fun line hline => ?_
    exact blockEntry?_line (hlines line (upToClosing_sublist lines |>.subset hline))
  rw [hentries, ← goImports] at himports
  have hfinds : List.Forall₂ (Finds (goGroup lines)) Language.go.forms [[], [_]] :=
    .cons (finds_nil (findAll_single hlines)) (.cons (finds_singleton hm himports) .nil)
  rw [extract_of_finds hfinds]
  simp

-- -------------------------------------
-- Python
-- -------------------------------------

/-- Names imported from a module in Python, between parentheses. -/
def pythonGroup (module : Text) (lines : List GroupLine) : Text :=
  "from ".toList ++ (module ++ (" import (".toList ++ (block "#" lines ++ ['\n', ')'])))

/-- The name of a module, which is more than the dots of a relative import. -/
structure IsModule (module : Text) : Prop where
  dotted : module.all dotted = true
  named : module.all (· == '.') = false

instance (module : Text) : Decidable (IsModule module) :=
  decidable_of_iff (module.all ImportForm.dotted = true ∧ module.all (· == '.') = false)
    ⟨fun ⟨h, h'⟩ => ⟨h, h'⟩, fun ⟨h, h'⟩ => ⟨h, h'⟩⟩

/-- A line of a group in Python: not a statement of its own, and apart from its comment. -/
structure InPython (line : GroupLine) : Prop where
  opened : ')' ∉ line.entry
  apart : '#' ∉ line.entry
  noStatement : firstWord line.entry ≠ "import".toList ∧ firstWord line.entry ≠ "from".toList

instance (line : GroupLine) : Decidable (InPython line) :=
  decidable_of_iff (')' ∉ line.entry ∧ '#' ∉ line.entry ∧
      firstWord line.entry ≠ "import".toList ∧ firstWord line.entry ≠ "from".toList)
    ⟨fun ⟨h, h', h''⟩ => ⟨h, h', h''⟩, fun ⟨h, h', h''⟩ => ⟨h, h', h''⟩⟩

variable {module : Text}

theorem not_mem_of_dotted {c : Char} (hc : dotted c = false) (h : IsModule module) :
    c ∉ module := by
  intro hmem
  rw [List.all_eq_true.mp h.dotted c hmem] at hc
  cases hc

theorem IsModule.ne_nil (h : IsModule module) : module ≠ [] := by
  rintro rfl
  cases h.named

theorem IsModule.head? (h : IsModule module) (rest : Text) :
    (module ++ rest).head?.any isSpaceOrTab = false := head?_dotted h.ne_nil h.dotted rest

theorem trim_module (h : IsModule module) : trim module = module :=
  trim_of_not_isBlank fun c hc => not_isBlank_of_dotted (List.all_eq_true.mp h.dotted c hc)

theorem behindBreaks_pythonGroup (hmodule : IsModule module) (word : Text)
    (hword : firstWord [')'] ≠ word) (hlines : ∀ line ∈ lines, firstWord line.entry ≠ word) :
    BehindBreaks (firstWord · ≠ word) (pythonGroup module lines) := by
  refine (behindBreaks_append (by decide) _).mpr ?_
  refine (behindBreaks_append (not_mem_of_dotted (by decide) hmodule) _).mpr ?_
  refine (behindBreaks_append (by decide) _).mpr ?_
  exact behindBreaks_block isMark_hash word [')'] hlines
    ⟨fun _ => hword, fun h => absurd h (by decide), trivial⟩

/-- A module is read up to the space behind it, whether it starts with dots or not. -/
theorem reads_module (hmodule : IsModule module) (rest : Text) :
    Reads (ImportForm.path (oneOf [inOrder [many1 (· == '.'), many dotted], many1 dotted])) module
      (' ' :: rest) [("path", module)] := by
  refine Reads.capture ?_ "path"
  have hne := hmodule.ne_nil
  by_cases hdots : module.takeWhile (· == '.') = []
  · have hmiss : Misses (inOrder [many1 (· == '.'), many dotted]) (module ++ ' ' :: rest) := by
      have hstart : StartsIn (· == '.') (many1 (· == '.')) :=
        StartsIn.inOrder (startsIn_one fun _ hc => hc) [many (· == '.')]
      refine (hstart.inOrder _).misses ?_
      obtain ⟨c, module, rfl⟩ := List.exists_cons_of_ne_nil hne
      show (c == '.') = false
      rw [← Bool.not_eq_true]
      intro hc
      simp [hc] at hdots
    exact Reads.alt_right hmiss (reads_many1 hne hmodule.dotted rfl)
  · have hsplit := List.takeWhile_append_dropWhile (p := (· == '.')) (l := module)
    have hdrop : (module.dropWhile (· == '.')).all dotted = true :=
      List.all_eq_true.mpr fun c hc =>
        List.all_eq_true.mp hmodule.dotted c (List.dropWhile_subset _ hc)
    have hstop : (module.dropWhile (· == '.') ++ ' ' :: rest).head?.any (· == '.') = false := by
      cases hback : module.dropWhile (· == '.') with
      | nil => rfl
      | cons c back =>
        have := List.head?_dropWhile_not (· == '.') module
        rw [hback] at this
        simpa using this
    have hread : Reads (inOrder [many1 (· == '.'), many dotted])
        (module.takeWhile (· == '.') ++ module.dropWhile (· == '.')) (' ' :: rest) [] :=
      (reads_many1 hdots List.all_takeWhile hstop).cons
        (reads_many hdrop rfl).last
    rw [hsplit] at hread
    exact hread.alt_left _

theorem findAll_plainImport (hmodule : IsModule module) (hlines : ∀ line ∈ lines, InPython line) :
    Python.plainImport.findAll (pythonGroup module lines) = [] := by
  have hfirst : firstWord (pythonGroup module lines) = "from".toList := rfl
  have hbreaks := behindBreaks_pythonGroup hmodule "import".toList (by decide)
    fun line hline => (hlines line hline).noStatement.1
  refine findAll_line_eq_nil (by decide) rfl (startsIn_gap _) ?_ hbreaks
  exact misses_of_firstWord (by decide) rfl (startsIn_gap _) (hfirst ▸ by decide)

/-- The statement is found once, with all that stands between its parentheses. -/
theorem findAll_fromImport (hmodule : IsModule module) (hlines : ∀ line ∈ lines, InPython line) :
    ∃ m, Python.fromImport.findAll (pythonGroup module lines) = [m] ∧ m.get "path" = module ∧
      m.get "names" = '(' :: inside "#" lines ++ [')'] := by
  obtain ⟨rest, hcontent, hreads⟩ := exists_reads_inside "#" lines
  have hparens := (reads_lit ['(']).cons (hreads.cons (reads_lit [')']).last)
  have hnames := ((hparens.alt_left (many1 (noneOf "\n#;"))).capture "names").last
  have hwords := (reads_module hmodule _).cons <| (reads_gap rfl).cons <|
    (reads_lit "import".toList).cons <| (reads_gap rfl).cons hnames
  have hstatement : Reads (inOrder [gap0, "from", gap,
      ImportForm.path (oneOf [inOrder [many1 (· == '.'), many dotted], many1 dotted]), gap,
      "import", gap,
      capture "names" (oneOf [inOrder ["(", many (noneOf ")"), ")"], many1 (noneOf "\n#;")])])
      ("from ".toList ++ module ++ " import (".toList ++ inside "#" lines ++ [')']) rest
      [("names", '(' :: inside "#" lines ++ [')']), ("path", module)] := by
    simp only [List.append_assoc]
    exact (reads_gap0_nil rfl).cons <| (reads_lit "from".toList).cons <|
      (reads_gap (by rw [List.append_assoc]; exact hmodule.head? _)).cons hwords
  have hwhole : pythonGroup module lines =
      "from ".toList ++ module ++ " import (".toList ++ inside "#" lines ++ [')'] ++ rest := by
    simp only [List.append_assoc]
    exact congrArg (fun t => "from ".toList ++ (module ++ (" import (".toList ++ t))) hcontent
  have hrest : BehindBreaks (firstWord · ≠ "from".toList) rest :=
    (hwhole ▸ behindBreaks_pythonGroup hmodule "from".toList (by decide)
      fun line hline => (hlines line hline).noStatement.2).of_append
  obtain ⟨m, hm, hget⟩ :=
    findAll_line_eq_singleton (by decide) rfl (startsIn_gap _) hstatement (by decide) hrest
  refine ⟨m, hwhole ▸ hm, ?_, ?_⟩
  · rw [Match.get, hget]
    rfl
  · rw [Match.get, hget]
    rfl

theorem extract_pythonGroup (hmodule : IsModule module) (hlines : ∀ line ∈ lines, InPython line) :
    extract .python (pythonGroup module lines) =
      .ok [{ path := module, names := splitNames ('(' :: inside "#" lines ++ [')']) }] := by
  obtain ⟨m, hm, hpath, hnames⟩ := findAll_fromImport hmodule hlines
  have hne := hmodule.ne_nil
  have htarget : Python.fromTarget m = .ok (some module) := by
    rw [Python.fromTarget, pathOf, hpath, trim_module hmodule, hmodule.named, Bool.false_and]
    simp [nonEmpty?, hne]
  have himports : ofMatch ⟨Python.fromImport, Python.fromTarget, listedNames⟩ m =
      .ok [{ path := module, names := splitNames ('(' :: inside "#" lines ++ [')']) }] := by
    rw [← hnames]
    exact ofMatch_of_target htarget hne (not_mem_of_dotted (by decide) hmodule)
  have hfinds : List.Forall₂ (Finds (pythonGroup module lines)) Language.python.forms [[_], []] :=
    .cons (finds_singleton hm himports) <|
      .cons (finds_nil (findAll_plainImport hmodule hlines)) .nil
  rw [extract_of_finds hfinds]
  rfl

theorem head?_beforeAlias {x : Char} (hx : isBlank x = false) (t : Text) :
    (beforeAlias (x :: t)).head? = some x := by
  have hblank : StartsIn isBlank blank :=
    StartsIn.inOrder (startsIn_one fun _ hc => hc) [many isBlank]
  exact head?_upTo (hblank.inOrder _) hx t

/-- A name behind a comma starts with the first character that is not white space. -/
theorem exists_mem_splitNames {before : Text} {x : Char} (hblank : ∀ c ∈ before, isBlank c = true)
    (hx : isBlank x = false) (hsign : x ≠ ',' ∧ x ≠ '(' ∧ x ≠ ')') (front rest : Text) :
    ∃ name ∈ splitNames (front ++ (',' :: (before ++ [x]) ++ rest)), name.head? = some x := by
  have hkept {c : Char} (hc : isBlank c = false) (hne : c ≠ x) : c ∉ before ++ [x] := by
    simpa [hne] using not_mem_of_isBlank hc hblank
  have hplain {c : Char} (hc : isBlank c = false) (hne : c ≠ x) (hcomma : c ≠ ',')
      (front rest : Text) : replaceChar c ' ' (front ++ (',' :: (before ++ [x]) ++ rest)) =
        replaceChar c ' ' front ++ (',' :: (before ++ [x]) ++ replaceChar c ' ' rest) := by
    have hmiddle : c ∉ ',' :: (before ++ [x]) := by
      rw [List.mem_cons, not_or]
      exact ⟨hcomma, hkept hc hne⟩
    rw [replaceChar_append, replaceChar_append, replaceChar_of_not_mem hmiddle]
  rw [splitNames, hplain (by decide) hsign.2.1.symm (by decide),
    hplain (by decide) hsign.2.2.symm (by decide), List.cons_append, splitOn_append]
  obtain ⟨behind, pieces, hpieces⟩ := exists_splitOn_append (hkept (by decide) hsign.1.symm)
    (replaceChar ')' ' ' (replaceChar '(' ' ' rest))
  have hname : (trim (beforeAlias (trim (before ++ [x] ++ behind)))).head? = some x := by
    rw [List.append_assoc, trim_blank_append hblank]
    obtain ⟨rest, hrest⟩ := List.head?_eq_some_iff.mp (head?_trim hx behind)
    obtain ⟨name, hname⟩ := List.head?_eq_some_iff.mp (head?_beforeAlias hx rest)
    rw [List.singleton_append, hrest, hname]
    exact head?_trim hx name
  refine ⟨trim (beforeAlias (trim (before ++ [x] ++ behind))), ?_, hname⟩
  refine List.mem_filterMap.mpr ⟨before ++ [x] ++ behind, ?_, nonEmpty?_eq_some_iff.mpr ⟨rfl, ?_⟩⟩
  · rw [hpieces]
    simp
  · intro hempty
    rw [hempty] at hname
    cases hname

theorem mem_of_mem_splitNames {t name : Text} (h : name ∈ splitNames t) {c : Char} (hc : c ∈ name)
    (hspace : c ≠ ' ') : c ∈ t := by
  obtain ⟨part, hpart, hname⟩ := List.mem_filterMap.mp h
  obtain ⟨rfl, -⟩ := nonEmpty?_eq_some_iff.mp hname
  have hplain := mem_of_mem_splitOn hpart (mem_of_mem_trim (mem_of_mem_upTo (mem_of_mem_trim hc)))
  have hback {old : Char} {t : Text} (h : c ∈ replaceChar old ' ' t) : c ∈ t := by
    obtain ⟨d, hd, hdc⟩ := List.mem_map.mp h
    split at hdc
    · exact absurd hdc.symm hspace
    · exact hdc ▸ hd
  exact hback (hback hplain)

/-- A comment behind a comma makes a name. -/
theorem exists_comment_name (hlines : ∀ line ∈ lines, InPython line) {line : GroupLine}
    (hline : line ∈ upToClosing lines) (hcomment : line.comment.isSome)
    (hcomma : (trim line.entry).getLast? = some ',') :
    ∃ name ∈ splitNames ('(' :: inside "#" lines ++ [')']), name.head? = some '#' := by
  obtain ⟨tail, -, hinside⟩ := inside_eq isMark_hash fun line hline => (hlines line hline).opened
  obtain ⟨before, after, hsplit⟩ := List.append_of_mem hline
  have hentry := (hlines line ((upToClosing_sublist lines).subset hline)).opened
  obtain ⟨comment, hcomment⟩ := Option.isSome_iff_exists.mp hcomment
  obtain ⟨left, right, hpadded, -, hright⟩ := exists_padding line.entry
  obtain ⟨items, hitems⟩ := List.getLast?_eq_some_iff.mp hcomma
  have htext : (line.text "#").takeWhile (· != ')') =
      left ++ items ++ (',' :: (right ++ ['#']) ++ comment.takeWhile (· != ')')) := by
    rw [takeWhile_text isMark_hash hentry, hcomment, Option.elim_some]
    conv_lhs => rw [hpadded, hitems]
    simp
  have hwhole : ∃ front rest, '(' :: inside "#" lines ++ [')'] =
      front ++ (',' :: (right ++ ['#']) ++ rest) := by
    refine ⟨'(' :: (stacked (before.map fun line => (line.text "#").takeWhile (· != ')')) ++
        '\n' :: (left ++ items)), comment.takeWhile (· != ')') ++
      (stacked (after.map fun line => (line.text "#").takeWhile (· != ')')) ++ tail ++ [')']), ?_⟩
    rw [hinside, hsplit, List.map_append, List.map_cons, htext]
    simp [stacked]
  obtain ⟨front, rest, hwhole⟩ := hwhole
  rw [hwhole]
  exact exists_mem_splitNames hright (by decide) (by decide) front rest

theorem not_mem_bare_names (hlines : ∀ line ∈ lines, InPython line) :
    ∀ name ∈ splitNames ('(' :: inside "#" (lines.map bare) ++ [')']), '#' ∉ name := by
  intro name hname hmark
  have hmem := mem_of_mem_splitNames hname hmark (by decide)
  have hinside : '#' ∈ inside "#" (lines.map bare) := by simpa using hmem
  have hblock := (List.takeWhile_prefix _).subset hinside
  have hlines' : ∃ line ∈ lines, '#' ∈ line.entry := by
    simpa [GroupLine.block, stacked, text, bare] using hblock
  obtain ⟨line, hline, hmark⟩ := hlines'
  exact (hlines line hline).apart hmark

-- -------------------------------------
-- JavaScript
-- -------------------------------------

/-- Names imported from a path in JavaScript, between braces. -/
def scriptGroup (path : Text) (lines : List GroupLine) : Text :=
  "import \x7b".toList ++ (block "//" lines ++ '\n' :: ("\x7d from '".toList ++ (path ++ ['\''])))

/-- A line of a group in JavaScript: a part of a clause, and not a statement of its own. -/
structure InScript (line : GroupLine) : Prop where
  clause : line.entry.all Script.clauseChar = true
  noStatement : firstWord line.entry ≠ "import".toList ∧ firstWord line.entry ≠ "export".toList

instance (line : GroupLine) : Decidable (InScript line) :=
  decidable_of_iff (line.entry.all Script.clauseChar = true ∧
      firstWord line.entry ≠ "import".toList ∧ firstWord line.entry ≠ "export".toList)
    ⟨fun ⟨h, h'⟩ => ⟨h, h'⟩, fun ⟨h, h'⟩ => ⟨h, h'⟩⟩

variable {path : Text}

theorem behindBreaks_scriptGroup (hpath : '\n' ∉ path) (word : Text) (hword : word ≠ [])
    (hlines : ∀ line ∈ lines, firstWord line.entry ≠ word) :
    BehindBreaks (firstWord · ≠ word) (scriptGroup path lines) := by
  refine (behindBreaks_append (by decide) _).mpr ?_
  refine behindBreaks_block isMark_slashes word _ hlines ⟨fun _ => hword.symm, ?_⟩
  refine (behindBreaks_append (by decide) _).mpr ?_
  refine (behindBreaks_append hpath _).mpr ⟨fun h => absurd h (by decide), trivial⟩

/-- The first comment follows characters of clauses only. -/
theorem exists_first_comment (hlines : ∀ line ∈ lines, InScript line)
    (hcomment : ∃ line ∈ lines, line.comment.isSome) :
    ∃ front rest, GroupLine.block "//" lines = front ++ '/' :: rest ∧
      ∀ c ∈ front, Script.clauseChar c = true := by
  induction lines with
  | nil => simp at hcomment
  | cons line lines ih =>
    obtain ⟨hline, hlines⟩ := List.forall_mem_cons.mp hlines
    have hfront : ∀ c ∈ '\n' :: line.entry, Script.clauseChar c = true :=
      List.forall_mem_cons.mpr ⟨rfl, List.all_eq_true.mp hline.clause⟩
    cases hfirst : line.comment with
    | some comment =>
      refine ⟨'\n' :: line.entry, '/' :: comment ++ GroupLine.block "//" lines, ?_, hfront⟩
      rw [block_cons, text, hfirst]
      simp
    | none =>
      have hlater : ∃ line ∈ lines, line.comment.isSome := by simpa [hfirst] using hcomment
      obtain ⟨front, rest, hblock, hclause⟩ := ih hlines hlater
      refine ⟨'\n' :: line.entry ++ front, rest, ?_, fun c hc => ?_⟩
      · rw [block_cons, text, hfirst, hblock]
        simp
      · exact (List.mem_append.mp hc).elim (hfront c) (hclause c)

theorem not_isSingleOrDouble_of_clauseChar {c : Char} (h : Script.clauseChar c = true) :
    isSingleOrDouble c = false := by
  rw [← Bool.not_eq_true]
  intro hquote
  have hc : c = '\'' ∨ c = '"' := by simpa [isSingleOrDouble] using hquote
  rcases hc with rfl | rfl
  · cases h
  · cases h

/-- No quoted path is reached past a comment. -/
theorem script_misses (hlines : ∀ line ∈ lines, InScript line)
    (hcomment : ∃ line ∈ lines, line.comment.isSome) (pieces : List Pattern)
    (hpieces : Within Script.clauseChar (inOrder pieces)) :
    Misses (inOrder (pieces ++ [quotedPath])) (scriptGroup path lines) := by
  obtain ⟨front, rest, hblock, hclause⟩ := exists_first_comment hlines hcomment
  have hquote : StartsIn isSingleOrDouble (inOrder [quotedPath]) :=
    StartsIn.inOrder (StartsIn.inOrder (startsIn_one fun _ hc => hc) _) _
  have hopening : "import \x7b".toList.any isSingleOrDouble = false := rfl
  have hunquoted : front.any isSingleOrDouble = false :=
    List.any_eq_false.mpr fun c hc => by simp [not_isSingleOrDouble_of_clauseChar (hclause c hc)]
  have hfront : ("import \x7b".toList ++ front).any isSingleOrDouble = false := by
    rw [List.any_append, hopening, hunquoted, Bool.or_self]
  have hwhole : scriptGroup path lines = "import \x7b".toList ++ front ++
      '/' :: (rest ++ '\n' :: ("\x7d from '".toList ++ (path ++ ['\'']))) := by
    rw [List.append_assoc, ← List.cons_append, ← List.append_assoc front]
    exact congrArg (fun t => "import \x7b".toList ++
      (t ++ '\n' :: ("\x7d from '".toList ++ (path ++ ['\''])))) hblock
  rw [hwhole]
  exact hpieces.misses hquote hfront rfl rfl _

theorem extract_scriptGroup (hforms : language.forms = Script.forms) (hpath : '\n' ∉ path)
    (hlines : ∀ line ∈ lines, InScript line) (hcomment : ∃ line ∈ lines, line.comment.isSome)
    (hrequire : Script.requireCall.findAll (scriptGroup path lines) = []) :
    extract language (scriptGroup path lines) = .ok [] := by
  have hblank : ∀ c, isBlank c = true → Script.clauseChar c = true := fun c hc => by
    rw [Script.clauseChar, hc, Bool.or_true]
  have hgap : ∀ c, isSpaceOrTab c = true → Script.clauseChar c = true := by
    intro c hc
    have hc : c = ' ' ∨ c = '\t' := by simpa [isSpaceOrTab] using hc
    rcases hc with rfl | rfl <;> decide
  have himport := behindBreaks_scriptGroup hpath "import".toList (by decide)
    fun line hline => (hlines line hline).noStatement.1
  have hexport := behindBreaks_scriptGroup hpath "export".toList (by decide)
    fun line hline => (hlines line hline).noStatement.2
  have hwithin : Within Script.clauseChar blank := .seq (within_one hblank) (within_many hblank)
  have hfrom : Script.importFrom.findAll (scriptGroup path lines) = [] := by
    refine findAll_line_eq_nil (by decide) rfl (startsIn_blank _) ?_ himport
    refine script_misses hlines hcomment [gap0, "import", blank, opt (inOrder ["type", blank]),
      capture "names" (few1To isBlank Script.clauseChar), blank, "from", blank] ?_
    exact .cons (within_many hgap) <| .cons (within_lit rfl) <| .cons hwithin <|
      .cons (.alt (.cons (within_lit rfl) (.cons hwithin within_empty)) within_empty) <|
      .cons (.capture (.seq (within_one fun _ hc => hc) (within_few (fun _ hc => hc) _)) _) <|
      .cons hwithin <| .cons (within_lit rfl) <| .cons hwithin within_empty
  have hside : Script.sideEffect.findAll (scriptGroup path lines) = [] := by
    refine findAll_line_eq_nil (by decide) rfl (startsIn_blank _) ?_ himport
    refine script_misses hlines hcomment [gap0, "import", blank] ?_
    exact .cons (within_many hgap) <| .cons (within_lit rfl) <| .cons hwithin within_empty
  have hexported : Script.reExport.findAll (scriptGroup path lines) = [] := by
    have hfirst : firstWord (scriptGroup path lines) = "import".toList := rfl
    refine findAll_line_eq_nil (by decide) rfl (startsIn_blank _) ?_ hexport
    exact misses_of_firstWord (by decide) rfl (startsIn_blank _) (hfirst ▸ by decide)
  have hfinds : List.Forall₂ (Finds (scriptGroup path lines)) Script.forms [[], [], [], []] :=
    .cons (finds_nil hfrom) <| .cons (finds_nil hside) <| .cons (finds_nil hexported) <|
      .cons (finds_nil hrequire) .nil
  exact extract_of_finds (hforms ▸ hfinds)

-- -------------------------------------
-- Comments
-- -------------------------------------

/-- Comments behind the entries of grouped imports.

In Go, a group ends with the first comment that has a closing parenthesis, and other comments make
no difference. In Python, all that stands between the parentheses is split into names, and so a
comment behind a comma always makes a difference. In JavaScript and TypeScript, nothing but calls of
`require` is found if there is a comment. -/
theorem extract_grouped (lines : List GroupLine) :
    ((∀ line ∈ lines, InGo line) →
      extract .go (goGroup lines) = .ok (goImports (upToClosing lines)) ∧
      ((∀ line ∈ lines, line.closes = false) →
        extract .go (goGroup lines) = extract .go (goGroup (lines.map bare)))) ∧
    (∀ module, IsModule module → (∀ line ∈ lines, InPython line) →
      extract .python (pythonGroup module lines) =
        .ok [{ path := module, names := splitNames ('(' :: inside "#" lines ++ [')']) }] ∧
      ((∃ line ∈ upToClosing lines, line.comment.isSome ∧ (trim line.entry).getLast? = some ',') →
        extract .python (pythonGroup module lines) ≠
          extract .python (pythonGroup module (lines.map bare)))) ∧
    (∀ language ∈ [Language.javaScript, Language.typeScript], ∀ path, '\n' ∉ path →
      (∀ line ∈ lines, InScript line) → (∃ line ∈ lines, line.comment.isSome) →
      Script.requireCall.findAll (scriptGroup path lines) = [] →
        extract language (scriptGroup path lines) = .ok []) := by
  refine ⟨fun hlines => ⟨extract_goGroup hlines, fun hopen => ?_⟩,
    fun module hmodule hlines => ⟨extract_pythonGroup hmodule hlines, ?_⟩, ?_⟩
  · have hbare : ∀ line ∈ lines.map bare, InGo line := by
      intro line hline
      obtain ⟨line, hmem, rfl⟩ := List.mem_map.mp hline
      exact ⟨(hlines line hmem).opened, (hlines line hmem).apart, (hlines line hmem).noStatement⟩
    have hclosed : ∀ line ∈ lines.map bare, line.closes = false := by simp [closes, bare]
    rw [extract_goGroup hlines, extract_goGroup hbare, upToClosing_of_open hopen,
      upToClosing_of_open hclosed, goImports, goImports, List.filterMap_map]
    rfl
  · rintro ⟨line, hline, hcomment, hcomma⟩ hequal
    have hbare : ∀ line ∈ lines.map bare, InPython line := by
      intro line hline
      obtain ⟨line, hmem, rfl⟩ := List.mem_map.mp hline
      exact ⟨(hlines line hmem).opened, (hlines line hmem).apart, (hlines line hmem).noStatement⟩
    rw [extract_pythonGroup hmodule hlines, extract_pythonGroup hmodule hbare] at hequal
    obtain ⟨name, hname, hmark⟩ := exists_comment_name hlines hline hcomment hcomma
    have hnames : splitNames ('(' :: inside "#" lines ++ [')']) =
        splitNames ('(' :: inside "#" (lines.map bare) ++ [')']) := by
      simpa using hequal
    exact not_mem_bare_names hlines name (hnames ▸ hname) (List.mem_of_mem_head? hmark)
  · intro language hlanguage path hpath hlines hcomment hrequire
    have hforms : language.forms = Script.forms := by
      rcases List.mem_cons.mp hlanguage with rfl | hlanguage
      · rfl
      · rw [List.mem_singleton.mp hlanguage]
        rfl
    exact extract_scriptGroup hforms hpath hlines hcomment hrequire

namespace Sample

def goLines : List GroupLine :=
  [{ entry := "  \"fmt\" ", comment := some " print, \"os\"" }, { entry := "  log \"log/slog\"" }]

def nameLines : List GroupLine :=
  [{ entry := "    a,  ", comment := some " first" }, { entry := "    b" }]

end Sample

/-- A comment in each language: it is passed over, taken for a name, and in the way. -/
theorem extract_grouped_sample :
    extract .go (goGroup Sample.goLines) = extract .go (goGroup (Sample.goLines.map bare)) ∧
    extract .python (pythonGroup "m" Sample.nameLines) ≠
      extract .python (pythonGroup "m" (Sample.nameLines.map bare)) ∧
    extract .typeScript (scriptGroup "./m" Sample.nameLines) = .ok [] := by
  refine ⟨?_, ?_, ?_⟩
  · exact ((extract_grouped Sample.goLines).1 (by decide)).2 (by decide)
  · refine ((extract_grouped Sample.nameLines).2.1 "m" (by decide) (by decide)).2 ?_
    exact ⟨_, .head _, by decide, by decide⟩
  · refine (extract_grouped Sample.nameLines).2.2 .typeScript (by simp) "./m" (by decide)
      (by decide) ⟨_, .head _, by decide⟩ ?_
    exact findAll_eq_nil (Option.isNone_iff_eq_none.mp (by decide +kernel))

/-- The name behind a comment, with the comment and without it. -/
theorem extract_python_comment :
    pythonGroup "m" Sample.nameLines = "from m import (\n    a,  # first\n    b\n)".toList ∧
    (extract .python (pythonGroup "m" Sample.nameLines)).toOption =
      some [{ path := "m", names := ["a", "# first\n    b"] }] ∧
    (extract .python (pythonGroup "m" (Sample.nameLines.map bare))).toOption =
      some [{ path := "m", names := ["a", "b"] }] := by
  decide +kernel

end RepoAtlas.Import
