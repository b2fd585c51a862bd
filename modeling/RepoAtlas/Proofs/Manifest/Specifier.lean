import RepoAtlas.Proofs.Manifest.Recording
import RepoAtlas.Proofs.Text.Basic
import RepoAtlas.Proofs.Text.Blank

/-!
# Versions in specifiers

A specifier is a list of clauses divided by commas, each a comparison and a version. The version
that is taken from it is the one of its first clause, whatever the comparison, so that an upper
bound in front of a lower one is taken for the version. `Specifier.version_of_first_clause` says so
of specifiers and of the versions that the manifests of Python projects leave on record.
-/

namespace RepoAtlas

namespace Specifier

-- -------------------------------------
-- Clauses
-- -------------------------------------

inductive Comparison where
  | equal | compatible | atLeast | above | below | atMost | differs
  deriving DecidableEq, Repr

namespace Comparison

def symbol : Comparison → Text
  | equal => "=="
  | compatible => "~="
  | atLeast => ">="
  | above => ">"
  | below => "<"
  | atMost => "<="
  | differs => "!="

/-- Upper bounds and exclusions, which say what is not asked for. -/
def excludes : Comparison → Bool
  | below | atMost | differs => true
  | _ => false

end Comparison

/-- A comparison and a version, with white space anywhere around them. A version that is written
with a `v` is the one behind it. -/
structure Clause where
  comparison : Comparison
  version : Text
  marked : Bool := false
  before : Text := []
  between : Text := []
  behind : Text := []
  starts : version.head?.any (!Version.isRangeMark ·) = true := by decide
  unbroken : version.all (fun c => !Text.isBlank c && c != ',') = true := by decide
  padded : (before ++ between ++ behind).all Text.isBlank = true := by decide

namespace Clause

def core (clause : Clause) : Text :=
  clause.comparison.symbol ++ clause.between ++ (if clause.marked then ['v'] else []) ++
    clause.version

def text (clause : Clause) : Text := clause.before ++ clause.core ++ clause.behind

end Clause

/-- Clauses divided by commas. -/
def text (clauses : List Clause) : Text := [','].intercalate (clauses.map Clause.text)

namespace Comparison

theorem isRangeMark_of_mem_symbol {comparison : Comparison} {c : Char}
    (h : c ∈ comparison.symbol) : Version.isRangeMark c = true := by
  have hall : comparison.symbol.all Version.isRangeMark = true := by cases comparison <;> rfl
  exact List.all_eq_true.mp hall c h

theorem comma_not_mem_symbol (comparison : Comparison) : ',' ∉ comparison.symbol := by
  cases comparison <;> decide

theorem symbol_starts (comparison : Comparison) :
    ∃ c rest, comparison.symbol = c :: rest ∧ Text.isBlank c = false := by
  cases comparison <;> exact ⟨_, _, rfl, rfl⟩

end Comparison

namespace Clause

variable (clause : Clause)

theorem version_eq_cons : ∃ c rest, clause.version = c :: rest ∧ Version.isRangeMark c = false := by
  have hstarts := clause.starts
  cases hversion : clause.version with
  | nil => simp [hversion] at hstarts
  | cons c rest => exact ⟨c, rest, rfl, by simpa [hversion] using hstarts⟩

theorem version_ne_nil : clause.version ≠ [] := by
  obtain ⟨c, rest, hversion, -⟩ := clause.version_eq_cons
  simp [hversion]

theorem not_isBlank_of_mem {c : Char} (h : c ∈ clause.version) : Text.isBlank c = false := by
  have hc := List.all_eq_true.mp clause.unbroken c h
  simp only [Bool.and_eq_true, Bool.not_eq_true'] at hc
  exact hc.1

theorem isBlank_of_mem {c : Char}
    (h : c ∈ clause.before ∨ c ∈ clause.between ∨ c ∈ clause.behind) : Text.isBlank c = true :=
  List.all_eq_true.mp clause.padded c (by simpa [or_assoc] using h)

/-- All that stands in front of a version is left out as marks. -/
theorem dropWhile_core : clause.core.dropWhile Version.isRangeMark = clause.version := by
  obtain ⟨c, rest, hversion, hmark⟩ := clause.version_eq_cons
  rw [core, List.dropWhile_append_of_pos, hversion, List.dropWhile_cons_of_neg (by simp [hmark])]
  intro c hc
  simp only [List.mem_append] at hc
  rcases hc with (hc | hc) | hc
  · exact Comparison.isRangeMark_of_mem_symbol hc
  · simp [Version.isRangeMark, clause.isBlank_of_mem (.inr (.inl hc))]
  · obtain ⟨-, rfl⟩ : clause.marked = true ∧ c = 'v' := by simpa using hc
    rfl

theorem trim_core : Text.trim clause.core = clause.core := by
  obtain ⟨c, rest, hsymbol, hblank⟩ := clause.comparison.symbol_starts
  refine Text.trim_eq_self (fun d hd => ?_) fun d hd => ?_
  · obtain rfl : c = d := by simpa [core, hsymbol] using hd
    exact hblank
  · rw [core, List.getLast?_append, List.getLast?_eq_some_getLast clause.version_ne_nil,
      Option.some_or, ← List.getLast?_eq_some_getLast] at hd
    exact clause.not_isBlank_of_mem (List.mem_of_mem_getLast? hd)

theorem clean_text : Version.clean clause.text = clause.version := by
  have htext : Text.trim clause.text = clause.core := by
    rw [text, Text.trim_padded, trim_core]
    · exact fun c hc => clause.isBlank_of_mem (.inl hc)
    · exact fun c hc => clause.isBlank_of_mem (.inr (.inr hc))
  rw [Version.clean, htext, dropWhile_core]
  exact Text.trim_eq_self (fun c hc => clause.not_isBlank_of_mem (List.mem_of_mem_head? hc))
    fun c hc => clause.not_isBlank_of_mem (List.mem_of_mem_getLast? hc)

theorem comma_not_mem_text : ',' ∉ clause.text := by
  have hpadding : ¬(',' ∈ clause.before ∨ ',' ∈ clause.between ∨ ',' ∈ clause.behind) :=
    fun h => nomatch clause.isBlank_of_mem h
  have hversion : ',' ∉ clause.version := fun h => by
    simpa using List.all_eq_true.mp clause.unbroken _ h
  simp only [not_or] at hpadding
  simp [text, core, hpadding, hversion, clause.comparison.comma_not_mem_symbol]

end Clause

/-- A specifier names the version of its first clause. -/
theorem first_text (clause : Clause) (rest : List Clause) :
    Version.first (text (clause :: rest)) = clause.version := by
  have hsplit : Text.splitOn ',' (text (clause :: rest)) = (clause :: rest).map Clause.text := by
    refine Text.splitOn_intercalate (List.cons_ne_nil _ _) fun piece hpiece => ?_
    obtain ⟨clause', -, rfl⟩ := List.mem_map.mp hpiece
    exact clause'.comma_not_mem_text
  simp [Version.first, hsplit, clause.clean_text, clause.version_ne_nil]

end Specifier

-- -------------------------------------
-- Manifests
-- -------------------------------------

/-- A framework that goes by one package has the version that is taken from its requirement. -/
theorem Dependencies.findSome?_findings {known : KnownPackages} {normal : Text → Text}
    {deps : Dependencies} {package framework requirement : Text}
    (honce : (known.map (·.2)).Nodup) (hmem : (package, framework) ∈ known)
    (hrequirement : deps.requirement? normal package = some requirement)
    (hversion : Version.first requirement ≠ []) :
    (deps.findings known normal).findSome? (·.versionOf framework) =
      some (Version.first requirement) := by
  induction known with
  | nil => cases hmem
  | cons entry known ih =>
    obtain ⟨hother, honce⟩ := List.nodup_cons.mp honce
    rcases List.mem_cons.mp hmem with rfl | hmem
    · simp [findings, hrequirement, hversion, Finding.versionOf]
    · have hne : entry.2 ≠ framework := fun h => hother (List.mem_map.mpr ⟨_, hmem, h.symm⟩)
      rw [findings, List.filterMap_cons]
      split
      · exact ih honce hmem
      · rename_i finding hfinding
        obtain ⟨_, -, rfl⟩ := Option.map_eq_some_iff.mp hfinding
        rw [List.findSome?_cons, Finding.versionOf, if_neg hne]
        exact ih honce hmem

namespace Manifest.Python

open Package

/-- The dependencies that a manifest of a Python project names. -/
inductive Names (content : Text) : Manifest → Dependencies → Prop where
  | requirements : Names content .requirements
      (.ofRequirements ((Text.lines content).filterMap requirementLine?))
  | pyproject (ht : tomlTable content = .ok (some t)) (hlines : projectLines t = .ok lines)
      (htables : poetryTables t = .ok tables) :
      Names content .pyproject (tables.foldl Dependencies.putAll (.ofRequirements lines))
  | pipfile (ht : tomlTable content = .ok (some t)) : Names content .pipfile
      ((sectionsOf t ["packages".toList, "dev-packages".toList]).map fun (p, v) =>
        (p, if v == ['*'] then [] else v))
  | setupScript (htree : Script.parse content = .ok tree) : Names content .setupScript
      (.ofRequirements (tree.walk.flatMap setupLines))
  | setupConfig (hsettings : Ini.parse? content = some settings)
      (hvalue : settings.get? "options" "install_requires" = .ok (some value)) :
      Names content .setupConfig (.ofRequirements (valueLines value))

theorem liftM_ok_bind (a : α) (next : α → Recording β) :
    (liftM (Except.ok a : Except ManifestError α) >>= next) = next a := rfl

theorem Names.reader {content : Text} {kind : Manifest} {deps : Dependencies}
    (h : Names content kind deps) : kind.reader content = recordKnown deps := by
  cases h with
  | requirements => rfl
  | pyproject ht hlines htables =>
    simp only [Manifest.reader, Python.pyproject, ht, hlines, htables, liftM_ok_bind]
  | pipfile ht =>
    simp only [Manifest.reader, Python.pipfile, ht, liftM_ok_bind]
  | setupScript htree => simp only [Manifest.reader, Python.setupScript, htree]
  | setupConfig hsettings hvalue =>
    simp only [Manifest.reader, Python.setupConfig, hsettings, hvalue]

theorem get?_recordKnown {deps : Dependencies} {package framework requirement : Text}
    (hknown : (package, framework) ∈ Framework.python)
    (hrequirement : deps.requirement? Requirement.normalName package = some requirement)
    (hversion : Version.first requirement ≠ []) (versions : Versions) :
    ((recordKnown deps).run.run versions).2.get? framework =
      (versions.get? framework).or (some (Version.first requirement)) := by
  have honce : (Framework.python.map (·.2)).Nodup := by decide +kernel
  rw [← Dependencies.findSome?_findings honce hknown hrequirement hversion, ← Versions.get?_noteAll]
  rfl

end Manifest.Python

namespace Specifier

open Manifest Python

/-- The version taken from a specifier is the one of its first clause, and it is what goes on record
for a framework. It is the version of the first clause that excludes nothing only if no other clause
stands in front of it, or one with the same version. -/
theorem version_of_first_clause (clause : Clause) (rest : List Clause) :
    Version.first (text (clause :: rest)) = clause.version ∧
    (∀ sought, (clause :: rest).find? (!·.comparison.excludes) = some sought →
      (Version.first (text (clause :: rest)) = sought.version ↔
        clause.comparison.excludes = false ∨ clause.version = sought.version)) ∧
    ∀ {content kind deps package framework}, Names content kind deps →
      (package, framework) ∈ Framework.python →
      deps.requirement? Requirement.normalName package = some (text (clause :: rest)) →
      ∀ versions, ((kind.reader content).run.run versions).2.get? framework =
        (versions.get? framework).or (some clause.version) := by
  have hfirst := first_text clause rest
  refine ⟨hfirst, fun sought hsought => ?_, ?_⟩
  · rw [hfirst]
    refine ⟨.inr, ?_⟩
    rintro (hasks | hsame)
    · rw [List.find?_cons_of_pos (by simp [hasks])] at hsought
      rw [Option.some.inj hsought]
    · exact hsame
  · intro content kind deps package framework hnames hknown hrequirement versions
    have hversion : Version.first (text (clause :: rest)) ≠ [] := hfirst ▸ clause.version_ne_nil
    rw [hnames.reader, get?_recordKnown hknown hrequirement hversion, hfirst]

theorem version_of_first_clause_differs :
    Dependencies.requirement? Requirement.normalName
        (.ofRequirements ((Text.lines "Django !=3.0, >= v2.1 # LTS\n").filterMap requirementLine?))
        "django" =
      some (text [{ comparison := .differs, version := "3.0" },
        { comparison := .atLeast, version := "2.1", marked := true, before := " ",
          between := " " }]) ∧
    ((reader .requirements "Django !=3.0, >= v2.1 # LTS\n").run.run []).2.get? "Django" =
      some "3.0".toList := by
  have hknown : ("django".toList, "Django".toList) ∈ Framework.python := by decide +kernel
  exact ⟨by decide +kernel, (version_of_first_clause { comparison := .differs, version := "3.0" }
    [{ comparison := .atLeast, version := "2.1", marked := true, before := " ",
       between := " " }]).2.2 .requirements hknown (by decide +kernel) []⟩

/-- With the upper bound in front, it is taken for the version. -/
theorem version_of_upper_bound :
    Version.first "<3,>=2.1" = "3".toList ∧
      ((reader .requirements "django<3,>=2.1\n").run.run []).2 = [("Django".toList, "3".toList)] ∧
      ((reader .requirements "django>=2.1,<3\n").run.run []).2 =
        [("Django".toList, "2.1".toList)] := by
  decide +kernel

end Specifier

end RepoAtlas
