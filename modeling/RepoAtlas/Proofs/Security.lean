import RepoAtlas.Proofs.Pattern.Start
import RepoAtlas.Proofs.Text.Basic
import RepoAtlas.Proofs.Text.Blank
import RepoAtlas.Security

/-!
# Lines with credentials

The pattern for credentials is searched with shortcuts: tests of the next character, and a run of
name characters that is taken as a whole. `Threat.findAll_credential`: without them it has the same
matches. `Insight.scan_secret_iff`: a line is reported for a credential if one of its matches has a
value that is no placeholder, unless the first one has. A placeholder in front hides what follows it
on the line.
-/

namespace RepoAtlas

open Pattern

namespace Threat

-- -------------------------------------
-- The pattern without shortcuts
-- -------------------------------------

/-- Words that name a credential. -/
def secretWords : List Pattern := [
  inOrder [anyCase "api".toList, dash, anyCase "key".toList],
  anyCase "secret".toList,
  anyCase "token".toList,
  inOrder [anyCase "passw".toList, opt (anyCase "or".toList), anyCase "d".toList],
  anyCase "pwd".toList,
  inOrder [anyCase "private".toList, dash, anyCase "key".toList],
  inOrder [anyCase "access".toList, dash, anyCase "key".toList]]

/-- A value in quotes, assigned to the name in front of it. -/
def assignment : List Pattern := [
  opt quoteMark, blank0, opt annotation, oneOf [":=", "=", ":"], blank0, one isQuote,
  capture "value" (atLeast 8 fun c => !isQuote c && !Text.isBlank c), one isQuote]

/-- A name with a secret word, and a value assigned to it. -/
def credential : Pattern :=
  inOrder ([wordEdge, many (wordOr "-"), oneOf secretWords, many (wordOr "-")] ++ assignment)

theorem startsIn_secretWords : StartsIn startsSecret (oneOf secretWords) := by
  have hletter : ∀ x ∈ ['a', 's', 't', 'p'], ∀ c, sameLetter x c = true → startsSecret c = true :=
    fun x hx c hc => List.any_eq_true.mpr ⟨x, hx, hc⟩
  refine startsIn_oneOf ?_
  simp only [secretWords, List.forall_mem_cons, List.not_mem_nil, false_imp_iff, implies_true,
    and_true]
  refine ⟨?_, ?_, ?_, ?_, ?_, ?_, ?_⟩
  · exact (startsIn_anyCase rfl (hletter 'a' (by simp))).inOrder _
  · exact startsIn_anyCase rfl (hletter 's' (by simp))
  · exact startsIn_anyCase rfl (hletter 't' (by simp))
  · exact (startsIn_anyCase rfl (hletter 'p' (by simp))).inOrder _
  · exact startsIn_anyCase rfl (hletter 'p' (by simp))
  · exact (startsIn_anyCase rfl (hletter 'p' (by simp))).inOrder _
  · exact (startsIn_anyCase rfl (hletter 'a' (by simp))).inOrder _

theorem startsIn_assignment : StartsIn startsAssignment (inOrder assignment) := by
  refine startsIn_opt (startsIn_one fun c hc => ?_) (startsIn_many (fun c hc => ?_)
    (startsIn_opt ?_ (StartsIn.inOrder (startsIn_oneOf ?_) _)))
  · simp [startsAssignment, hc]
  · simp [startsAssignment, hc]
  · exact (startsIn_lit rfl rfl).inOrder _
  · simp only [List.forall_mem_cons, List.not_mem_nil, false_imp_iff, implies_true, and_true]
    exact ⟨startsIn_lit rfl rfl, startsIn_lit rfl rfl, startsIn_lit rfl rfl⟩

/-- What follows a name in an assignment is not part of the name. -/
theorem not_startsAssignment {c : Char} (h : wordOr "-" c = true) : startsAssignment c = false := by
  cases hstart : startsAssignment c with
  | false => rfl
  | true =>
    have hcases : c = '\'' ∨ c = '"' ∨ c = ':' ∨ c = '=' ∨ Text.isBlank c = true := by
      simpa [startsAssignment, isSingleOrDouble, or_assoc] using hstart
    rcases hcases with rfl | rfl | rfl | rfl | hblank
    · revert h; decide
    · revert h; decide
    · revert h; decide
    · revert h; decide
    · have hdash : c ≠ '-' := by
        rintro rfl
        revert hblank
        decide
      simp [wordOr, Text.not_isWord_of_isBlank hblank, hdash] at h

/-- The shortcuts do not change what is matched. -/
theorem run_credential (s : State) (k : Rest) : run secretPattern s k = run credential s k := by
  have hstarts : StartsIn startsSecret (inOrder [oneOf secretWords]) := startsIn_secretWords
  have hword (s : State) (k : Rest) : run secretWord s k = run (oneOf secretWords) s k :=
    run_here_facing hstarts s k
  have hwhole (s : State) (k : Rest) :
      run (inOrder ([whole (wordOr "-"), here (Cursor.facing startsAssignment)] ++ assignment))
        s k = run (inOrder (many (wordOr "-") :: assignment)) s k := by
    rw [run_many_eq_whole startsIn_assignment fun c => not_startsAssignment]
    exact run_inOrder_append [whole (wordOr "-")] (run_here_facing startsIn_assignment) s k
  refine run_inOrder_append [wordEdge, many (wordOr "-")] (fun s k => ?_) s k
  rw [run_inOrder_cons, hword, run_inOrder_cons]
  exact congrArg (run (oneOf secretWords) s) (funext fun s' => hwhole s' k)

theorem findAll_credential (line : Text) : secretPattern.findAll line = credential.findAll line :=
  findAll_congr run_credential line

-- -------------------------------------
-- Lines
-- -------------------------------------

/-- The value holds one of the marks of placeholders, in any case. -/
def Placeholder (value : Text) : Prop := ∃ mark ∈ placeholderMarks, mark <:+: Text.lower value

theorem isPlaceholder_iff {value : Text} : isPlaceholder value = true ↔ Placeholder value := by
  simp [isPlaceholder, Placeholder, Text.occursIn_iff]

instance (value : Text) : Decidable (Placeholder value) :=
  decidable_of_iff _ isPlaceholder_iff

theorem hasSecret_iff {line : Text} : hasSecret line = true ↔
    ∃ m, (credential.findAll line).head? = some m ∧ ¬Placeholder (m.get "value") := by
  rw [← findAll_credential, head?_findAll, hasSecret]
  cases secretPattern.search? line with
  | none => simp
  | some m => simp [← isPlaceholder_iff]

theorem exists_quote_of_search? {line : Text} {m : Match}
    (h : secretPattern.search? line = some m) : ∃ c ∈ line, isQuote c = true := by
  have hsearch : secretPattern.searchAt? (Cursor.start line) = some m := h
  obtain ⟨s, hrun, -⟩ := Option.map_eq_some_iff.mp (matchAt?_of_searchAt? hsearch)
  rw [run_credential] at hrun
  -- The pattern ends in a quote.
  obtain ⟨s', hreach, hquote⟩ := run_inOrder_last ([wordEdge, many (wordOr "-"),
    oneOf secretWords, many (wordOr "-")] ++ assignment.dropLast) hrun
  obtain ⟨c, d, hc, ⟨hahead, -⟩, -⟩ := run_one_inv hquote
  obtain ⟨passed, hpassed, -⟩ := (searchAt?_reaches hsearch).1.trans hreach
  have hline : line = passed ++ s'.cursor.ahead := hpassed
  exact ⟨c, by simp [hline, hahead], hc⟩

theorem not_isBlank_of_isQuote {c : Char} (h : isQuote c = true) : Text.isBlank c = false := by
  have hcases : c = '\'' ∨ c = '"' ∨ c = '\x60' := by
    simpa [isQuote, isSingleOrDouble, or_assoc] using h
  rcases hcases with rfl | rfl | rfl <;> rfl

/-- No blank line has a credential, and comments are searched for credentials too. -/
theorem secret_mem_ofLine {line : Text} : secret ∈ ofLine line ↔ hasSecret line = true := by
  cases hempty : (Text.trim line).isEmpty with
  | true =>
    have hblank := Text.trim_eq_nil_iff.mp (List.isEmpty_iff.mp hempty)
    suffices hnone : secretPattern.search? line = none by simp [ofLine, hempty, hasSecret, hnone]
    refine Option.eq_none_iff_forall_ne_some.mpr fun m hm => ?_
    obtain ⟨c, hc, hquote⟩ := exists_quote_of_search? hm
    simpa [hblank c hc] using not_isBlank_of_isQuote hquote
  | false => cases hcomment : Metrics.isComment (Text.trim line) <;> simp [ofLine, hempty, hcomment]

theorem kind_insight_iff {threat : Threat} {file : Path} {number : Nat} :
    (threat.insight file number).kind = "hardcoded-secret" ↔ threat = secret := by
  have hevaluation : "unsafe-eval".toList ≠ "hardcoded-secret".toList := by decide
  have hinjection : "sql-injection-risk".toList ≠ "hardcoded-secret".toList := by decide
  cases threat with
  | secret => exact iff_of_true rfl rfl
  | evaluation => exact iff_of_false hevaluation nofun
  | injection => exact iff_of_false hinjection nofun

@[simp] theorem line_insight (threat : Threat) (file : Path) (number : Nat) :
    (threat.insight file number).line = some (number : Int) := by
  cases threat <;> rfl

end Threat

namespace Insight

open Threat

variable {content line : Text} {file : Path} {i : Nat}

theorem mem_scan_iff {insight : Insight} : insight ∈ scan content file ↔
    ∃ (i : Nat) (line : Text), (Text.lines content)[i]? = some line ∧
      ∃ threat ∈ ofLine line, insight = threat.insight file (i + 1) := by
  simp only [scan, List.mem_flatMap, List.mem_map]
  constructor
  · rintro ⟨⟨line, number⟩, hnumbered, threat, hthreat, rfl⟩
    obtain ⟨hpos, hline⟩ := List.mk_mem_zipIdx_iff_le_and_getElem?_sub.mp hnumbered
    exact ⟨number - 1, line, hline, threat, hthreat, by rw [Nat.sub_add_cancel hpos]⟩
  · rintro ⟨i, line, hline, threat, hthreat, rfl⟩
    refine ⟨(line, i + 1), ?_, threat, hthreat, rfl⟩
    exact List.mk_mem_zipIdx_iff_le_and_getElem?_sub.mpr ⟨by omega, hline⟩

/-- A line is reported for what is wrong with it, and each threat with its own kind. -/
theorem exists_secret_iff (hline : (Text.lines content)[i]? = some line) :
    (∃ insight ∈ scan content file,
      insight.kind = "hardcoded-secret" ∧ insight.line = some ((i + 1 : Nat) : Int)) ↔
      secret ∈ ofLine line := by
  constructor
  · rintro ⟨insight, hmem, hkind, hnumber⟩
    obtain ⟨j, line', hline', threat, hthreat, rfl⟩ := mem_scan_iff.mp hmem
    obtain rfl : j = i := by
      simp only [line_insight, Option.some.injEq] at hnumber
      omega
    obtain rfl : line' = line := Option.some.inj (hline'.symm.trans hline)
    rwa [kind_insight_iff.mp hkind] at hthreat
  · intro hsecret
    refine ⟨secret.insight file (i + 1), ?_, rfl, rfl⟩
    exact mem_scan_iff.mpr ⟨i, line, hline, secret, hsecret, rfl⟩

/-- A line is reported for a credential exactly if some value assigned to a secret name on it is no
placeholder, and the first such value is none. -/
theorem scan_secret_iff (file : Path) (hline : (Text.lines content)[i]? = some line) :
    (∃ insight ∈ scan content file,
      insight.kind = "hardcoded-secret" ∧ insight.line = some ((i + 1 : Nat) : Int)) ↔
      (∃ m ∈ credential.findAll line, ¬Placeholder (m.get "value")) ∧
        ∀ m ∈ (credential.findAll line).head?, ¬Placeholder (m.get "value") := by
  rw [exists_secret_iff hline, secret_mem_ofLine, hasSecret_iff]
  constructor
  · rintro ⟨m, hm, hvalue⟩
    refine ⟨⟨m, List.mem_of_mem_head? hm, hvalue⟩, fun m' hm' => ?_⟩
    rwa [Option.some.inj (hm'.symm.trans hm)]
  · rintro ⟨⟨m, hm, -⟩, hfirst⟩
    cases hall : credential.findAll line with
    | nil => simp [hall] at hm
    | cons m' rest => exact ⟨m', rfl, hfirst m' (by simp [hall])⟩

theorem scan_secret_iff_next_line :
    (Text.lines "password = \"changeme\"\nt = (Api-Key: 'hd83ks0q')\n")[1]? =
        some "t = (Api-Key: 'hd83ks0q')".toList ∧
      ∃ insight ∈ scan "password = \"changeme\"\nt = (Api-Key: 'hd83ks0q')\n" "a.py",
        insight.kind = "hardcoded-secret" ∧ insight.line = some ((1 + 1 : Nat) : Int) := by
  have hline : (Text.lines "password = \"changeme\"\nt = (Api-Key: 'hd83ks0q')\n")[1]? =
      some "t = (Api-Key: 'hd83ks0q')".toList := by decide +kernel
  exact ⟨hline, (scan_secret_iff _ hline).mpr (by decide +kernel)⟩

/-- A placeholder in front of a credential hides it. -/
theorem scan_secret_behind_placeholder :
    (∃ m ∈ credential.findAll "password = \"changeme\"; token = \"q8Zr2LmN0pW7\"",
      ¬Placeholder (m.get "value")) ∧
      scan "password = \"changeme\"; token = \"q8Zr2LmN0pW7\"" "a.py" = [] := by
  decide +kernel

end Insight

end RepoAtlas
