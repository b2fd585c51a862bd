import RepoAtlas.Manifest.Listed
import RepoAtlas.Proofs.Manifest.Recording
import RepoAtlas.Proofs.Pattern.Search
import RepoAtlas.Proofs.Text.Basic
import RepoAtlas.Proofs.Text.Blank

/-!
# Module files

A module file is a sequence of parts: single lines that require a module, blocks of such lines, and
other directives. What is found in a file is told by the modules and versions that it requires, one
after the other: `goMod_layout`.

A module belongs to a framework by its path without a major version. If a module is required again,
the last version counts, in the place of the first.
-/

namespace RepoAtlas

namespace Dependencies

/-- The version in the last entry for a package. -/
def lastVersion (entries : Dependencies) (package : Text) : Text :=
  (entries.filter (·.1 == package)).getLast?.elim [] (·.2)

theorem put_eq_upsert (deps : Dependencies) (package version : Text) :
    deps.put package version = Grouping.upsert (fun entry => entry.1 == package)
      (fun entry => (entry.1, version)) (package, version) deps := by
  induction deps with
  | nil => rfl
  | cons entry deps ih => rw [put, Grouping.upsert, ih]

/-- Each package once, at its first place and with its last version. -/
theorem ofList_eq (entries : Dependencies) : ofList entries =
    (entries.map (·.1)).eraseDups.map fun package => (package, lastVersion entries package) := by
  refine Grouping.foldl_upsert (·.1) (·.1)
    (fun package same => (package, same.getLast?.elim [] (·.2)))
    (fun deps entry => put_eq_upsert deps entry.1 entry.2) (fun _ _ => rfl) (fun _ => rfl) ?_ entries
  intro entry same
  simp

end Dependencies

namespace Manifest.Listed

open Pattern

-- -------------------------------------
-- Major versions
-- -------------------------------------

/-- A module path without a last part that is `v` and a number. -/
def withoutMajor (module : Text) : Text :=
  match Text.cutLast? '/' module with
  | some (front, 'v' :: digits) =>
    if !digits.isEmpty && digits.all Text.isDecimal then front else module
  | _ => module

theorem withoutMajor_append {digits : Text} (hne : digits ≠ [])
    (hdigits : digits.all Text.isDecimal = true) (base : Text) :
    withoutMajor (base ++ '/' :: 'v' :: digits) = base := by
  have hslash : '/' ∉ 'v' :: digits := by
    intro hmem
    rcases List.mem_cons.mp hmem with hmem | hmem
    · cases hmem
    · exact absurd (List.all_eq_true.mp hdigits _ hmem) (by decide)
  rw [withoutMajor, Text.cutLast?_append hslash]
  simp [hne, hdigits]

theorem withoutMajor_of_plain {module : Text} (h : ∀ base digits, digits ≠ [] →
    digits.all Text.isDecimal = true → module ≠ base ++ '/' :: 'v' :: digits) :
    withoutMajor module = module := by
  unfold withoutMajor
  split
  · rename_i front digits hcut
    split
    · rename_i hmajor
      rw [Bool.and_eq_true] at hmajor
      exact absurd (Text.cutLast?_eq_some hcut).1 (h _ _ (by simpa using hmajor.1) hmajor.2)
    · rfl
  · rfl

theorem reads_majorVersion {digits : Text} (hne : digits ≠ [])
    (hdigits : digits.all Text.isDecimal = true) :
    Reads majorVersion ('/' :: 'v' :: digits) [] [] := by
  have hend : Reads textEnd [] [] [] := reads_here fun c hc => by rw [hc]
  have hnumber : Reads (many1 Text.isDecimal) digits ([] ++ []) [] := reads_many1 hne hdigits rfl
  have hread := (reads_lit "/v".toList).cons (hnumber.cons hend.last)
  simpa [majorVersion] using hread

theorem majorVersion_inv {front rest : Text} (hline : '\n' ∉ rest)
    (h : (majorVersion.matchAt? (Cursor.between front rest)).isSome) :
    ∃ digits, digits ≠ [] ∧ digits.all Text.isDecimal = true ∧ rest = '/' :: 'v' :: digits := by
  obtain ⟨m, hm⟩ := Option.isSome_iff_exists.mp h
  obtain ⟨r, hrun, -⟩ := Option.map_eq_some_iff.mp hm
  rw [majorVersion, run_inOrder_cons] at hrun
  obtain ⟨c, hc, hrun⟩ := run_lit_inv hrun
  rw [run_inOrder_cons] at hrun
  obtain ⟨digits, d, hne, hdigits, hd, hrun⟩ := run_many1_inv hrun
  have hrest : rest = '/' :: 'v' :: (digits ++ d.ahead) := by
    have hsplit : rest = "/v".toList ++ c.ahead := hc.1
    rw [hsplit, hd.1]
    rfl
  have hend : d.ahead = [] ∨ d.ahead = ['\n'] := (run_textEnd_inv hrun).1
  rcases hend with hend | hend
  · exact ⟨digits, hne, List.all_eq_true.mpr hdigits, by simpa [hend] using hrest⟩
  · exact absurd (by simp [hrest, hend]) hline

theorem basePath_eq {module : Text} (hline : '\n' ∉ module) :
    basePath module = withoutMajor module := by
  rcases upTo_cases majorVersion module with ⟨hall, hnone⟩ | ⟨front, rest, hsplit, hfront, hsome⟩
  · rw [basePath, hall, withoutMajor_of_plain]
    rintro base digits hne hdigits hmodule
    obtain ⟨m, hm, -⟩ := (reads_majorVersion hne hdigits).matchAt?
      (c := Cursor.between base ('/' :: 'v' :: digits)) (by simp [Cursor.between])
    rw [hnone base _ hmodule] at hm
    cases hm
  · have hrest : '\n' ∉ rest := fun hmem => hline (by simp [hsplit, hmem])
    obtain ⟨digits, hne, hdigits, rfl⟩ := majorVersion_inv hrest hsome
    rw [basePath, hfront, hsplit, withoutMajor_append hne hdigits]

-- -------------------------------------
-- Lines
-- -------------------------------------

/-- What may stand around what a line says: white space, and a comment behind it. -/
structure Margin where
  before : Text := []
  behind : Text := []
  comment : Option Text := none
  blank : before.all Text.isBlank = true ∧ behind.all Text.isBlank = true := by decide

def Margin.around (margin : Margin) (t : Text) : Text :=
  margin.before ++ (t ++ margin.behind) ++ margin.comment.elim [] fun c => '/' :: '/' :: c

/-- A module with the version that is required, and the white space between them. -/
structure Required where
  module : Text
  gap : Text := [' ']
  number : Text
  named : module ≠ [] ∧ module.all (wordOr "./~-") = true
  uncommented : Text.occursIn "//" module = false
  spaced : gap ≠ [] ∧ gap.all Text.isBlank = true := by decide
  numbered : number ≠ [] ∧ number.all (wordOr ".+-") = true

namespace Required

def version (r : Required) : Text := 'v' :: r.number

def text (r : Required) : Text := r.module ++ (r.gap ++ r.version)

/-- The same with the word `require` in front. -/
def single (r : Required) (gap : Text) : Text := "require".toList ++ (' ' :: gap ++ r.text)

def entry (r : Required) : Text × Text := (r.module, r.version)

end Required

theorem Margin.isBlank_before (margin : Margin) : ∀ c ∈ margin.before, Text.isBlank c = true :=
  List.all_eq_true.mp margin.blank.1

theorem Margin.isBlank_behind (margin : Margin) : ∀ c ∈ margin.behind, Text.isBlank c = true :=
  List.all_eq_true.mp margin.blank.2

theorem Margin.trim_upTo_around (margin : Margin) {t : Text} (ht : Text.occursIn "//" t = false)
    (hlast : t.getLast? ≠ some '/') :
    Text.trim (Text.upTo "//" (margin.around t)) = Text.trim t := by
  have hbefore : '/' ∉ margin.before := Text.not_mem_of_isBlank rfl margin.isBlank_before
  have hbehind : '/' ∉ margin.behind := Text.not_mem_of_isBlank rfl margin.isBlank_behind
  have habsent : ¬"//".toList <:+: margin.before ++ (t ++ margin.behind) :=
    Text.absent_append_left rfl hbefore (Text.absent_append_right rfl hbehind (Text.absent_of ht))
  have hupTo : Text.upTo "//" (margin.around t) = margin.before ++ (t ++ margin.behind) := by
    unfold around
    cases margin.comment with
    | none =>
      rw [Option.elim_none, List.append_nil]
      exact Text.upTo_of_absent habsent
    | some comment =>
      have hend : (margin.before ++ (t ++ margin.behind)).getLast? ≠ some '/' :=
        Text.getLast?_append_ne (fun h => hbefore (List.mem_of_mem_getLast? h))
          (Text.getLast?_append_ne hlast fun h => hbehind (List.mem_of_mem_getLast? h))
      exact (Text.upTo_append_pair (fun _ => hend) comment).trans (Text.upTo_of_absent habsent)
  rw [hupTo, ← List.append_assoc, Text.trim_padded margin.isBlank_before margin.isBlank_behind]

-- The characters of what is required

namespace Required

variable (r : Required)

theorem single_eq (gap : Text) : r.single gap = "require ".toList ++ (gap ++ r.text) := rfl

theorem not_isBlank_module : ∀ c ∈ r.module, Text.isBlank c = false := fun c hc =>
  not_isBlank_of_wordOr (by decide) (List.all_eq_true.mp r.named.2 c hc)

theorem wordOr_version : r.version.all (wordOr ".+-") = true := by
  rw [version, List.all_cons, r.numbered.2]
  decide

theorem not_isBlank_version : ∀ c ∈ r.version, Text.isBlank c = false := fun c hc =>
  not_isBlank_of_wordOr (by decide) (List.all_eq_true.mp r.wordOr_version c hc)

theorem isBlank_gap : ∀ c ∈ r.gap, Text.isBlank c = true := List.all_eq_true.mp r.spaced.2

/-- A character that is no white space and belongs to neither class does not occur. -/
theorem not_mem_text {c : Char} (hblank : Text.isBlank c = false)
    (hmodule : wordOr "./~-" c = false) (hversion : wordOr ".+-" c = false) : c ∉ r.text := by
  simp only [text, List.mem_append, not_or]
  refine ⟨fun hmem => ?_, Text.not_mem_of_isBlank hblank r.isBlank_gap, fun hmem => ?_⟩
  · rw [List.all_eq_true.mp r.named.2 c hmem] at hmodule
    cases hmodule
  · rw [List.all_eq_true.mp r.wordOr_version c hmem] at hversion
    cases hversion

theorem head?_text : ∃ c, r.text.head? = some c ∧ Text.isBlank c = false := by
  obtain ⟨c, module, hmodule⟩ := List.exists_cons_of_ne_nil r.named.1
  exact ⟨c, by simp [text, hmodule], r.not_isBlank_module c (by simp [hmodule])⟩

theorem getLast?_text : ∃ c, r.text.getLast? = some c ∧ wordOr ".+-" c = true := by
  obtain ⟨c, hc⟩ : ∃ c, r.version.getLast? = some c :=
    Option.isSome_iff_exists.mp (by simp [version])
  refine ⟨c, by simp [text, hc, List.getLast?_append], ?_⟩
  exact List.all_eq_true.mp r.wordOr_version c (List.mem_of_mem_getLast? hc)

theorem occursIn_text : Text.occursIn "//" r.text = false := by
  have hslash : '/' ∉ r.gap ++ r.version := by
    rw [List.mem_append, not_or]
    refine ⟨Text.not_mem_of_isBlank rfl r.isBlank_gap, fun hmem => ?_⟩
    exact absurd (List.all_eq_true.mp r.wordOr_version _ hmem) (by decide)
  rw [Bool.eq_false_iff, Ne, Text.occursIn_iff]
  exact Text.absent_append_right rfl hslash (Text.absent_of r.uncommented)

theorem trim_text : Text.trim r.text = r.text := by
  obtain ⟨last, hlast, hword⟩ := r.getLast?_text
  exact Text.trim_of_ends r.head?_text ⟨last, hlast, not_isBlank_of_wordOr (by decide) hword⟩

theorem getLast?_text_ne : r.text.getLast? ≠ some '/' := by
  obtain ⟨last, hlast, hword⟩ := r.getLast?_text
  rw [hlast]
  rintro ⟨⟩
  exact absurd hword (by decide)

theorem reads_entry : Reads (inOrder [capture "module" (many1 (wordOr "./~-")), blank,
    capture "version" (seq "v" (many1 (wordOr ".+-")))]) r.text []
      [("version", r.version), ("module", r.module)] := by
  obtain ⟨c, gap, hgap⟩ := List.exists_cons_of_ne_nil r.spaced.1
  have hmodule : Reads (many1 (wordOr "./~-")) r.module ((r.gap ++ r.version) ++ []) [] := by
    refine reads_many1 r.named.1 r.named.2 ?_
    have hc : Text.isBlank c = true := r.isBlank_gap c (by simp [hgap])
    cases hword : wordOr "./~-" c with
    | false => simpa [hgap] using hword
    | true =>
      rw [not_isBlank_of_wordOr (by decide) hword] at hc
      cases hc
  have hblank : Reads blank r.gap (r.version ++ []) [] := reads_many1 r.spaced.1 r.spaced.2 rfl
  have hversion : Reads (seq "v" (many1 (wordOr ".+-"))) r.version [] [] :=
    (reads_lit "v".toList).seq (reads_many1 r.numbered.1 r.numbered.2 rfl)
  exact (hmodule.capture "module").cons (hblank.cons (hversion.capture "version").last)

theorem reads_single {gap : Text} (hgap : gap.all Text.isBlank = true) :
    Reads requireLine (r.single gap) [] [("version", r.version), ("module", r.module)] := by
  obtain ⟨c, hfirst, hc⟩ := r.head?_text
  have hblank : Reads blank (' ' :: gap) (r.text ++ []) [] :=
    reads_many1 (List.cons_ne_nil _ _) hgap (by simp [hfirst, hc])
  have hword : Reads (inOrder ["require", blank]) ("require".toList ++ ' ' :: gap) (r.text ++ [])
      [] := (reads_lit "require".toList).cons hblank.last
  have hnone : Reads blank0 [] (("require".toList ++ ' ' :: gap ++ r.text) ++ []) [] :=
    reads_many rfl rfl
  have hread := hnone.cons ((hword.alt_left empty).cons r.reads_entry)
  rw [List.nil_append, List.append_assoc] at hread
  exact hread

/-- The word `require` may itself be the path of a module. -/
theorem misses_require : Misses (inOrder [inOrder ["require", blank],
    capture "module" (many1 (wordOr "./~-")), blank,
    capture "version" (seq "v" (many1 (wordOr ".+-")))]) r.text := by
  intro s k hs
  by_contra hrun
  obtain ⟨found, hrun⟩ := Option.ne_none_iff_exists'.mp hrun
  -- A match has a gap behind the module, and so behind the first gap of the text.
  rw [run_inOrder_cons, run_inOrder_cons] at hrun
  obtain ⟨c, hc, hrun⟩ := run_lit_inv hrun
  obtain ⟨gap, d, hgapne, hgap, hd, hrun⟩ := run_many1_inv hrun
  rw [run_inOrder_cons, run] at hrun
  obtain ⟨module, e, hmodulene, hmodule, he, hrun⟩ := run_many1_inv hrun
  rw [run_inOrder_cons] at hrun
  obtain ⟨later, f, hlaterne, hlater, hf, -⟩ := run_many1_inv hrun
  have htext : r.text = "require".toList ++ (gap ++ (module ++ (later ++ f.ahead))) := by
    rw [← hs, hc.1, hd.1, he.1, hf.1]
  have hmodule' : ∀ x ∈ module, Text.isBlank x = false :=
    fun x hx => not_isBlank_of_wordOr (by decide) (hmodule x hx)
  have hversion : r.version = module ++ (later ++ f.ahead) := by
    rw [← Text.dropWhile_word_gap r.not_isBlank_module r.spaced.1 r.isBlank_gap
      (show r.version.head?.any Text.isBlank = false from rfl), ← text, htext]
    refine Text.dropWhile_word_gap (fun c hc => ?_) hgapne hgap ?_
    · have hrequire : "require".toList.all (!Text.isBlank ·) = true := by decide
      simpa using List.all_eq_true.mp hrequire c hc
    obtain ⟨x, module, rfl⟩ := List.exists_cons_of_ne_nil hmodulene
    simpa using hmodule' x (.head _)
  obtain ⟨x, later, rfl⟩ := List.exists_cons_of_ne_nil hlaterne
  have hx := r.not_isBlank_version x (by simp [hversion])
  rw [hlater x (.head _)] at hx
  cases hx

theorem reads_text :
    Reads requireLine r.text [] [("version", r.version), ("module", r.module)] := by
  obtain ⟨c, hfirst, hc⟩ := r.head?_text
  have hnone : Reads blank0 [] (r.text ++ []) [] := reads_many rfl (by simp [hfirst, hc])
  have hskip := r.misses_require
  rw [← List.append_nil r.text] at hskip
  simpa [requireLine] using hnone.cons (Reads.opt_skip hskip r.reads_entry)

theorem getLast?_single (gap : Text) : (r.single gap).getLast? = r.text.getLast? := by
  obtain ⟨last, hlast, -⟩ := r.getLast?_text
  rw [single_eq, ← List.append_assoc, List.getLast?_append, hlast, Option.some_or]

theorem trim_single (gap : Text) : Text.trim (r.single gap) = r.single gap := by
  obtain ⟨last, hlast, hword⟩ := r.getLast?_text
  exact Text.trim_of_ends ⟨'r', rfl, rfl⟩
    ⟨last, (r.getLast?_single gap).trans hlast, not_isBlank_of_wordOr (by decide) hword⟩

theorem occursIn_single {gap : Text} (hgap : gap.all Text.isBlank = true) :
    Text.occursIn "//" (r.single gap) = false := by
  have hslash : '/' ∉ "require ".toList ++ gap := by
    rw [List.mem_append, not_or]
    exact ⟨by decide, Text.not_mem_of_isBlank rfl (List.all_eq_true.mp hgap)⟩
  rw [Bool.eq_false_iff, Ne, Text.occursIn_iff, single_eq, ← List.append_assoc]
  exact Text.absent_append_left rfl hslash (Text.absent_of r.occursIn_text)

end Required

-- -------------------------------------
-- Steps
-- -------------------------------------

section Steps
variable {s : ModuleLines} {raw line : Text}

theorem add_of_nothing (hline : Text.trim (Text.upTo "//" raw) = []) : s.add raw = s := by
  unfold ModuleLines.add
  simp only [hline]
  rfl

theorem add_of_opening (hline : Text.trim (Text.upTo "//" raw) = "require (".toList) :
    s.add raw = { s with inBlock := true } := by
  unfold ModuleLines.add
  simp only [hline]
  rfl

theorem add_of_closing (hline : Text.trim (Text.upTo "//" raw) = [')']) (hs : s.inBlock = true) :
    s.add raw = { s with inBlock := false } := by
  unfold ModuleLines.add
  simp only [hline, hs]
  rfl
theorem add_of_other
    (hother : Text.startsWith "require" (Text.trim (Text.upTo "//" raw)) = false)
    (hs : s.inBlock = false) : s.add raw = s := by
  have hlonger : ∀ rest : Text, Text.startsWith ("require".toList ++ rest)
      (Text.trim (Text.upTo "//" raw)) = false := by
    intro rest
    rw [Bool.eq_false_iff, Ne, Text.startsWith_iff] at hother ⊢
    exact fun hstart => hother ((List.prefix_append ..).trans hstart)
  have hopening : Text.startsWith "require (" (Text.trim (Text.upTo "//" raw)) = false :=
    hlonger [' ', '(']
  have hsingle : Text.startsWith "require " (Text.trim (Text.upTo "//" raw)) = false :=
    hlonger [' ']
  unfold ModuleLines.add
  simp only [hopening, hsingle, hs]
  split <;> rfl

theorem add_of_reads {module version : Text} (hline : Text.trim (Text.upTo "//" raw) = line)
    (hne : line ≠ []) (hopening : '(' ∉ line) (hclosing : line ≠ [')'])
    (hwhere : (s.inBlock || Text.startsWith "require " line) = true)
    (hread : Reads requireLine line [] [("version", version), ("module", module)]) :
    s.add raw = { s with deps := s.deps.put module version } := by
  have hempty : line.isEmpty = false := by simpa using hne
  have hopen : Text.startsWith "require (" line = false :=
    Text.startsWith_eq_false (show '(' ∈ "require (".toList by decide) hopening
  have hclose : (line == [')']) = false := by simpa using hclosing
  obtain ⟨m, hm, -, -, hget⟩ := hread.matchAt? (c := Cursor.start line) (by simp [Cursor.start])
  have hmatch : requireLine.match? line = some m := hm
  have hmodule : m.get "module" = module := by
    rw [Match.get, hget]
    rfl
  have hversion : m.get "version" = version := by
    rw [Match.get, hget]
    rfl
  unfold ModuleLines.add
  simp only [hline, hempty, hopen, hclose, hwhere, hmatch, hmodule, hversion]
  simp

variable (s)

theorem add_blank (margin : Margin) : s.add (margin.around []) = s :=
  add_of_nothing (margin.trim_upTo_around rfl (by simp))

theorem add_opening (margin : Margin) :
    s.add (margin.around "require (".toList) = { s with inBlock := true } :=
  add_of_opening (margin.trim_upTo_around (by decide) (by decide))

theorem add_closing {s : ModuleLines} (hs : s.inBlock = true) (margin : Margin) :
    s.add (margin.around [')']) = { s with inBlock := false } :=
  add_of_closing (margin.trim_upTo_around (by decide) (by decide)) hs

theorem add_required {s : ModuleLines} (hs : s.inBlock = true) (margin : Margin) (r : Required) :
    s.add (margin.around r.text) = { s with deps := s.deps.put r.module r.version } := by
  have hline := margin.trim_upTo_around r.occursIn_text r.getLast?_text_ne
  rw [r.trim_text] at hline
  obtain ⟨c, hfirst, -⟩ := r.head?_text
  refine add_of_reads hline ?_ ?_ ?_ (by rw [hs, Bool.true_or]) r.reads_text
  · rintro hnil
    rw [hnil] at hfirst
    cases hfirst
  · exact r.not_mem_text (by decide) (by decide) (by decide)
  · intro hclosing
    exact r.not_mem_text (c := ')') (by decide) (by decide) (by decide) (by simp [hclosing])

theorem add_single (margin : Margin) {gap : Text} (hgap : gap.all Text.isBlank = true)
    (r : Required) :
    s.add (margin.around (r.single gap)) = { s with deps := s.deps.put r.module r.version } := by
  have hline := margin.trim_upTo_around (r.occursIn_single hgap) (r.getLast?_single gap ▸ r.getLast?_text_ne)
  rw [r.trim_single] at hline
  have hstart : Text.startsWith "require " (r.single gap) = true :=
    Text.startsWith_iff.mpr (r.single_eq gap ▸ List.prefix_append ..)
  refine add_of_reads hline ?_ ?_ ?_ (by rw [hstart, Bool.or_true]) (r.reads_single hgap)
  · rintro ⟨⟩
  · rw [r.single_eq, List.mem_append, List.mem_append, not_or, not_or]
    exact ⟨by decide, Text.not_mem_of_isBlank rfl (List.all_eq_true.mp hgap),
      r.not_mem_text (by decide) (by decide) (by decide)⟩
  · rintro ⟨⟩

/-- A line that does not start with `require`, also without its comment. -/
theorem add_other {s : ModuleLines} (hs : s.inBlock = false) {line : Text}
    (hline : Text.startsWith "require" (Text.trimLeft line) = false) : s.add line = s := by
  refine add_of_other ?_ hs
  rw [Bool.eq_false_iff, Ne, Text.startsWith_iff] at hline ⊢
  intro hstart
  obtain ⟨behind, hbehind⟩ := Text.prefix_upTo "//".toList line
  obtain ⟨blank, hblank, -⟩ := Text.dropWhile_eq_trim_append (Text.upTo "//" line)
  have hfront : "require".toList <+: (Text.upTo "//" line).dropWhile Text.isBlank :=
    hblank ▸ hstart.trans (List.prefix_append ..)
  have hne : ((Text.upTo "//" line).dropWhile Text.isBlank).isEmpty = false := by
    rw [List.isEmpty_eq_false_iff]
    rintro hnil
    rw [hnil] at hfront
    cases List.prefix_nil.mp hfront
  refine hline ?_
  rw [Text.trimLeft, ← hbehind, List.dropWhile_append, if_neg (by simp only [hne]; decide)]
  exact hfront.trans (List.prefix_append ..)

end Steps

-- -------------------------------------
-- Files
-- -------------------------------------

/-- A part of a module file. Blank lines and comments between the others count as directives. -/
inductive Part where
  | single (margin : Margin) (gap : Text) (blank : gap.all Text.isBlank = true) (r : Required)
  | block (opening : Margin) (lines : List (Margin × Option Required)) (closing : Margin)
  | directive (line : Text) (other : Text.startsWith "require" (Text.trimLeft line) = false)

namespace Part

def lines : Part → List Text
  | single margin gap _ r => [margin.around (r.single gap)]
  | block opening lines closing => opening.around "require (".toList ::
      (lines.map fun line => line.1.around (line.2.elim [] Required.text)) ++ [closing.around [')']]
  | directive line _ => [line]

/-- The modules and versions that a part requires. -/
def entries : Part → Dependencies
  | single _ _ _ r => [r.entry]
  | block _ lines _ => lines.filterMap fun line => line.2.map Required.entry
  | directive _ _ => []

end Part

/-- The content of a module file that requires the given modules and versions in this order. -/
def Requires (content : Text) (entries : Dependencies) : Prop :=
  ∃ parts : List Part, Text.lines content = parts.flatMap Part.lines ∧
    parts.flatMap Part.entries = entries

section Files
variable {s : ModuleLines}

theorem foldl_add_inside (hs : s.inBlock = true) (lines : List (Margin × Option Required)) :
    (lines.map fun line => line.1.around (line.2.elim [] Required.text)).foldl ModuleLines.add s =
      { s with deps := s.deps.putAll (lines.filterMap fun line => line.2.map Required.entry) } := by
  induction lines generalizing s with
  | nil => rfl
  | cons line lines ih =>
    obtain ⟨margin, required⟩ := line
    cases required with
    | none =>
      rw [List.map_cons, List.foldl_cons, Option.elim_none, add_blank, ih hs]
      rfl
    | some r =>
      rw [List.map_cons, List.foldl_cons, Option.elim_some, add_required hs, ih]
      · rfl
      · exact hs

theorem foldl_add_part (hs : s.inBlock = false) (part : Part) :
    part.lines.foldl ModuleLines.add s = { s with deps := s.deps.putAll part.entries } := by
  cases part with
  | single margin gap blank r => exact add_single s margin blank r
  | block opening lines closing =>
    rw [Part.lines, List.cons_append, List.foldl_cons, List.foldl_append, add_opening,
      foldl_add_inside rfl, List.foldl_cons, List.foldl_nil, add_closing rfl, ← hs]
    rfl
  | directive line other => exact add_other hs other

theorem foldl_add_parts (hs : s.inBlock = false) (parts : List Part) :
    (parts.flatMap Part.lines).foldl ModuleLines.add s =
      { s with deps := s.deps.putAll (parts.flatMap Part.entries) } := by
  induction parts generalizing s with
  | nil => rfl
  | cons part parts ih =>
    rw [List.flatMap_cons, List.flatMap_cons, List.foldl_append, foldl_add_part hs, ih]
    · simp only [Dependencies.putAll, List.foldl_append]
    · exact hs

theorem not_mem_newline {parts : List Part} {entry : Text × Text}
    (h : entry ∈ parts.flatMap Part.entries) : '\n' ∉ entry.1 := by
  have hrequired : ∀ r : Required, '\n' ∉ r.entry.1 := by
    intro r hmem
    exact absurd (r.not_isBlank_module _ hmem) (by decide)
  obtain ⟨part, -, hmem⟩ := List.mem_flatMap.mp h
  cases part with
  | single margin gap blank r =>
    obtain rfl := List.mem_singleton.mp hmem
    exact hrequired r
  | block opening lines closing =>
    obtain ⟨line, -, hline⟩ := List.mem_filterMap.mp hmem
    obtain ⟨r, -, rfl⟩ := Option.map_eq_some_iff.mp hline
    exact hrequired r
  | directive line other => cases hmem

end Files

-- -------------------------------------
-- What is found
-- -------------------------------------

/-- The known framework of a module, whatever its major version. -/
def frameworkOf? (module : Text) : Option Text := Framework.go.lookup (withoutMajor module)

/-- The frameworks of modules, in order of first occurrence. -/
def frameworksOf (entries : Dependencies) : List Text :=
  (entries.filterMap fun entry => frameworkOf? entry.1).eraseDups

/-- The version of the first module that belongs to a framework. -/
def versionOf (entries : Dependencies) (framework : Text) : Text :=
  (entries.find? fun entry => frameworkOf? entry.1 == some framework).elim [] fun entry =>
    Version.clean (entries.lastVersion entry.1)

def findingOf? (entries : Dependencies) (module : Text) : Option Finding :=
  (frameworkOf? module).map fun framework =>
    { framework, version := some (Version.clean (entries.lastVersion module)) }

section Found
variable {entries : Dependencies}

/-- The findings in a module file, one for each module. -/
def found (entries : Dependencies) : List Finding :=
  (entries.map (·.1)).eraseDups.filterMap (findingOf? entries)

theorem filterMap_moduleFinding? (h : ∀ entry ∈ entries, '\n' ∉ entry.1) :
    ((Dependencies.ofList entries).filterMap fun entry => moduleFinding? entry.1 entry.2) =
      found entries := by
  rw [Dependencies.ofList_eq, List.filterMap_map]
  refine List.filterMap_congr fun module hmodule => ?_
  obtain ⟨entry, hentry, rfl⟩ := List.mem_map.mp (List.mem_eraseDups.mp hmodule)
  simp only [Function.comp_apply, moduleFinding?, findingOf?, frameworkOf?, basePath_eq (h entry hentry)]

theorem frameworks_found (entries : Dependencies) :
    Finding.frameworks (found entries) = frameworksOf entries := by
  have hframework : ∀ module,
      (findingOf? entries module).map (·.framework) = frameworkOf? module := by
    intro module
    rw [findingOf?, Option.map_map]
    exact Option.map_id'
  rw [Finding.frameworks, found, List.map_filterMap]
  simp only [hframework]
  rw [Grouping.eraseDups_filterMap_eraseDups, List.filterMap_map]
  rfl

theorem firstVersion_found (entries : Dependencies) (framework : Text) :
    Finding.firstVersion (found entries) framework = versionOf entries framework := by
  have hany : ∀ module, ((findingOf? entries module).any (·.framework == framework)) =
      (frameworkOf? module == some framework) := by
    intro module
    rw [findingOf?]
    cases frameworkOf? module <;> rfl
  rw [Finding.firstVersion, found, List.find?_filterMap, Grouping.find?_eraseDups, List.find?_map]
  simp only [hany, Function.comp_def]
  rw [versionOf]
  cases hfind : entries.find? fun entry => frameworkOf? entry.1 == some framework with
  | none => rfl
  | some entry =>
    have hentry : frameworkOf? entry.1 = some framework := by simpa using List.find?_some hfind
    simp [findingOf?, hentry]

theorem isSome_version_found {finding : Finding} (h : finding ∈ found entries) :
    finding.version.isSome := by
  obtain ⟨module, -, hmodule⟩ := List.mem_filterMap.mp h
  obtain ⟨framework, -, rfl⟩ := Option.map_eq_some_iff.mp hmodule
  rfl

theorem goMod_eq {content : Text} (h : Requires content entries) :
    goMod content = record (found entries) := by
  obtain ⟨parts, hcontent, rfl⟩ := h
  have hread : goMod content = record (((Text.lines content).foldl ModuleLines.add {}).deps.filterMap
      fun entry => moduleFinding? entry.1 entry.2) := rfl
  rw [hread, hcontent, foldl_add_parts rfl]
  exact congrArg record (filterMap_moduleFinding? fun entry hentry => not_mem_newline hentry)

end Found

/-- However the modules are laid out that a file requires, it has the frameworks of the modules, and
notes a version for each that has none. -/
theorem goMod_layout {content : Text} {entries : Dependencies} (h : Requires content entries) :
    (∀ versions : Versions, (goMod content).run.run versions =
      (.ok (frameworksOf entries), versions ++
        ((frameworksOf entries).filter fun framework => (versions.get? framework).isNone).map
          fun framework => (framework, versionOf entries framework))) ∧
    ∀ other, Requires other entries → goMod other = goMod content := by
  refine ⟨fun versions => ?_, fun other hother => by rw [goMod_eq h, goMod_eq hother]⟩
  have hrun : (record (found entries)).run.run versions =
      (.ok (Finding.frameworks (found entries)), versions.noteAll (found entries)) := rfl
  rw [goMod_eq h, hrun, Versions.noteAll_eq fun _ => isSome_version_found, frameworks_found]
  simp only [firstVersion_found]

namespace Sample

def echo : Required where
  module := "github.com/labstack/echo"
  gap := ['\t', ' ']
  number := "3.0.0+incompatible"
  named := by decide +kernel
  uncommented := by decide +kernel
  numbered := by decide +kernel

def echo4 : Required where
  module := "github.com/labstack/echo/v4"
  number := "4.1.0"
  named := by decide +kernel
  uncommented := by decide +kernel
  numbered := by decide +kernel

def newerEcho4 : Required := { echo4 with number := "4.2.0", numbered := by decide +kernel }

def parts : List Part :=
  [.directive "module m" (by decide), .single { comment := some " web" } ['\t'] (by decide) echo4,
    .block {} [({}, none), ({ before := [' '] }, some echo),
      ({ before := ['\t'], comment := some "x" }, some newerEcho4)]
      { behind := [' '], comment := some " end" }]

def content : Text :=
  "module m\r\n".toList ++ "require \tgithub.com/labstack/echo/v4 v4.1.0// web\n".toList ++
    "require (\n\n".toList ++ " github.com/labstack/echo\t v3.0.0+incompatible\n".toList ++
    "\tgithub.com/labstack/echo/v4 v4.2.0//x\n".toList ++ ") // end".toList

end Sample

/-- A framework at two major versions, on a line of its own and then in a block. -/
theorem goMod_layout_sample : Requires Sample.content (Sample.parts.flatMap Part.entries) ∧
    (goMod Sample.content).run.run [] = (.ok ["Echo".toList], [("Echo".toList, "4.2.0".toList)]) := by
  have h : Requires Sample.content (Sample.parts.flatMap Part.entries) :=
    ⟨Sample.parts, by decide +kernel, rfl⟩
  have hframeworks : frameworksOf (Sample.parts.flatMap Part.entries) = ["Echo".toList] := by
    decide +kernel
  have hversion : versionOf (Sample.parts.flatMap Part.entries) "Echo" = "4.2.0".toList := by
    decide +kernel
  refine ⟨h, ((goMod_layout h).1 []).trans ?_⟩
  rw [hframeworks, ← hversion]
  rfl

end Manifest.Listed

end RepoAtlas
