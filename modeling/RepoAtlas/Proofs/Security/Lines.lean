import RepoAtlas.Proofs.Security
import RepoAtlas.Proofs.Text.Lines

/-!
# Suspicious lines, line by line

`Insight.scan_lines`: the insights of two texts joined by a line feed are those of the first and then
those of the second, with the lines of the first counted in. Insights come in the order of their
lines, those of one line in the order of their kinds and none twice. A comment is reported for
credentials only.
-/

namespace RepoAtlas

namespace Threat

/-- What is wrong with a line is listed in a fixed order, each at most once. -/
theorem ofLine_sublist (line : Text) : (ofLine line).Sublist [secret, evaluation, injection] := by
  cases hempty : (Text.trim line).isEmpty <;> cases hsecret : hasSecret line <;>
    cases hcomment : Metrics.isComment (Text.trim line) <;> cases heval : evaluates line <;>
    cases hinject : injects line <;> simp [ofLine, hempty, hsecret, hcomment, heval, hinject]

theorem ofLine_of_comment {line : Text} (h : Metrics.isComment (Text.trim line) = true) :
    ∀ threat ∈ ofLine line, threat = secret := by
  intro threat hthreat
  simp only [ofLine, h, if_true] at hthreat
  split at hthreat
  · cases hthreat
  · split at hthreat
    · exact List.mem_singleton.mp hthreat
    · cases hthreat

/-- The name of a threat in reports. -/
def kind : Threat → Text
  | secret => "hardcoded-secret"
  | evaluation => "unsafe-eval"
  | injection => "sql-injection-risk"

theorem ofLine_nil : ofLine [] = [] := rfl

end Threat

namespace Insight

open Threat

/-- An insight of a text that stands behind so many lines. -/
def shifted (count : Nat) (insight : Insight) : Insight :=
  { insight with line := insight.line.map (· + count) }

theorem shifted_insight (threat : Threat) (file : Path) (number count : Nat) :
    (threat.insight file number).shifted count = threat.insight file (number + count) := by
  cases threat <;> rfl

/-- The insights of lines that are counted from a number on. -/
def ofLines (file : Path) (first : Nat) (lines : List Text) : List Insight :=
  (lines.zipIdx first).flatMap fun numbered =>
    (ofLine numbered.1).map fun threat => threat.insight file numbered.2

theorem scan_eq (content : Text) (file : Path) :
    scan content file = ofLines file 1 (Text.lines content) := rfl

variable {file : Path}

theorem ofLines_cons (first : Nat) (line : Text) (lines : List Text) :
    ofLines file first (line :: lines) =
      (ofLine line).map (·.insight file first) ++ ofLines file (first + 1) lines := by
  simp [ofLines, List.zipIdx_cons]

theorem ofLines_append (first : Nat) (front back : List Text) :
    ofLines file first (front ++ back) =
      ofLines file first front ++ ofLines file (first + front.length) back := by
  simp [ofLines, List.zipIdx_append]

theorem ofLines_shift (first count : Nat) (lines : List Text) :
    ofLines file (first + count) lines = (ofLines file first lines).map (shifted count) := by
  induction lines generalizing first with
  | nil => rfl
  | cons line lines ih =>
    have hnext : first + count + 1 = first + 1 + count := by omega
    simp [ofLines_cons, shifted_insight, hnext, ih]

/-- An empty line has no insight, so that a line feed at the end makes no difference. -/
theorem scan_concat_newline (a : Text) : scan (a ++ ['\n']) file = scan a file := by
  rw [scan_eq, scan_eq]
  rcases Text.lines_concat_newline a with h | h
  · rw [h]
  · rw [h, ofLines_append, ofLines_cons, ofLine_nil]
    exact List.append_nil _

theorem scan_append (a b : Text) : scan (a ++ '\n' :: b) file =
    scan a file ++ (scan b file).map (shifted (Text.lines (a ++ ['\n'])).length) := by
  rw [← scan_concat_newline a, scan_eq, scan_eq, scan_eq, Text.lines_append, ofLines_append,
    ofLines_shift]

/-- The kinds of insights, in the order in which a line is searched for them. -/
def kinds : List Text := ["hardcoded-secret", "unsafe-eval", "sql-injection-risk"]

/-- On an earlier line, or on the same line and of an earlier kind. -/
def Before (a b : Insight) : Prop := ∃ m n : Nat, a.line = some (m : Int) ∧ b.line = some (n : Int) ∧
  (m < n ∨ m = n ∧ kinds.idxOf a.kind < kinds.idxOf b.kind)

theorem kind_insight (threat : Threat) (number : Nat) :
    (threat.insight file number).kind = threat.kind := by
  cases threat <;> rfl

theorem kind_mem_kinds (threat : Threat) (number : Nat) :
    (threat.insight file number).kind ∈ kinds := by
  rw [kind_insight]
  cases threat with
  | secret => exact .head _
  | evaluation => exact .tail _ (.head _)
  | injection => exact .tail _ (.tail _ (.head _))

/-- The insights of one line stand in the order of their kinds. -/
theorem pairwise_line (line : Text) (number : Nat) :
    ((ofLine line).map (·.insight file number)).Pairwise Before := by
  have hkinds : [secret, evaluation, injection].Pairwise fun s t =>
      kinds.idxOf (s.insight file number).kind < kinds.idxOf (t.insight file number).kind := by
    simp only [kind_insight]
    decide +kernel
  refine List.pairwise_map.mpr ((hkinds.sublist (ofLine_sublist line)).imp fun {s t} h => ?_)
  exact ⟨number, number, Threat.line_insight .., Threat.line_insight .., .inr ⟨rfl, h⟩⟩

theorem line_ge_of_mem_ofLines {first : Nat} {lines : List Text} {insight : Insight}
    (h : insight ∈ ofLines file first lines) :
    ∃ n : Nat, insight.line = some (n : Int) ∧ first ≤ n := by
  induction lines generalizing first with
  | nil => cases h
  | cons line lines ih =>
    rw [ofLines_cons, List.mem_append] at h
    rcases h with h | h
    · obtain ⟨threat, -, rfl⟩ := List.mem_map.mp h
      exact ⟨first, Threat.line_insight .., Nat.le_refl first⟩
    · obtain ⟨n, hn, hle⟩ := ih h
      exact ⟨n, hn, Nat.le_of_succ_le hle⟩

theorem pairwise_ofLines (first : Nat) (lines : List Text) :
    (ofLines file first lines).Pairwise Before := by
  induction lines generalizing first with
  | nil => exact .nil
  | cons line lines ih =>
    rw [ofLines_cons, List.pairwise_append]
    refine ⟨pairwise_line line first, ih (first + 1), fun a ha b hb => ?_⟩
    obtain ⟨threat, -, rfl⟩ := List.mem_map.mp ha
    obtain ⟨n, hn, hle⟩ := line_ge_of_mem_ofLines hb
    exact ⟨first, n, Threat.line_insight .., hn, .inl hle⟩

/-- What stands behind a line feed adds its insights to those in front of it, under the numbers that
its lines have now. The insights of a text are ordered by line and then by kind, with at most one of
each kind for a line. Each is about one of the lines, and about a credential if that is a comment. -/
theorem scan_lines (file : Path) :
    (∀ a b : Text, scan (a ++ '\n' :: b) file =
      scan a file ++ (scan b file).map (shifted (Text.lines (a ++ ['\n'])).length)) ∧
    ∀ content : Text, (scan content file).Pairwise Before ∧
      ∀ insight ∈ scan content file, insight.kind ∈ kinds ∧
        ∃ (n : Nat) (line : Text), insight.line = some (n : Int) ∧ 1 ≤ n ∧
          n ≤ (Text.lines content).length ∧ (Text.lines content)[n - 1]? = some line ∧
          ((∃ mark ∈ Metrics.commentMarks, mark <+: Text.trim line) →
            insight.kind = "hardcoded-secret") := by
  refine ⟨scan_append, fun content => ⟨pairwise_ofLines 1 _, fun insight hinsight => ?_⟩⟩
  obtain ⟨i, line, hline, threat, hthreat, rfl⟩ := mem_scan_iff.mp hinsight
  refine ⟨kind_mem_kinds .., i + 1, line, Threat.line_insight .., Nat.succ_pos i, ?_, hline, ?_⟩
  · exact (List.getElem?_eq_some_iff.mp hline).1
  · rintro ⟨mark, hmark, hstart⟩
    have hcomment : Metrics.isComment (Text.trim line) = true :=
      List.any_eq_true.mpr ⟨mark, hmark, Text.startsWith_iff.mpr hstart⟩
    rw [ofLine_of_comment hcomment threat hthreat]
    rfl

/-- The first text ends in a carriage return, which makes one end of a line with the line feed. -/
theorem scan_lines_sample :
    scan "# token = 'q8Zr2LmN0pW7'\r\neval(x)".toList "a.py" =
        [secret.insight "a.py" 1, evaluation.insight "a.py" 2] ∧
      (scan "# token = 'q8Zr2LmN0pW7'\r\neval(x)".toList "a.py").Pairwise Before := by
  obtain ⟨happend, hcontent⟩ := scan_lines "a.py".toList
  have htext : "# token = 'q8Zr2LmN0pW7'\r\neval(x)".toList =
      "# token = 'q8Zr2LmN0pW7'\r".toList ++ '\n' :: "eval(x)".toList := by
    decide +kernel
  have hparts : scan "# token = 'q8Zr2LmN0pW7'\r".toList "a.py" = [secret.insight "a.py" 1] ∧
      scan "eval(x)".toList "a.py" = [evaluation.insight "a.py" 1] ∧
      (Text.lines ("# token = 'q8Zr2LmN0pW7'\r".toList ++ ['\n'])).length = 1 := by
    decide +kernel
  refine ⟨?_, (hcontent _).1⟩
  rw [htext, happend, hparts.1, hparts.2.1, hparts.2.2, List.map_singleton, shifted_insight]
  rfl

end Insight

end RepoAtlas
