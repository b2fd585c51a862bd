import RepoAtlas.Graph.Basic
import RepoAtlas.Number.Rounding
import RepoAtlas.Pattern.Build
import RepoAtlas.Text.Lines

/-!
# Code metrics

Lines that are not blank, the number of decision points, and the share of comment lines.
-/

namespace RepoAtlas.Metrics

open Pattern

def word (w : String) : Pattern := inOrder [wordEdge, lit w.toList, wordEdge]

/-- What counts as a decision. -/
def decisions : List Pattern := [
  word "if", word "elif", word "for", word "while", word "case", word "catch", word "except",
  lit "&&".toList, lit "||".toList, word "and", word "or",
  inOrder [one Text.isBlank, "?", one Text.isBlank], word "match", word "when"]

def commentMarks : List Text :=
  ["//".toList, "#".toList, "/*".toList, "*".toList, "--".toList, "<!--".toList,
    "\"\"\"".toList, "'''".toList]

/-- Whether a line, already trimmed, begins like a comment. -/
def isComment (line : Text) : Bool := commentMarks.any fun mark => Text.startsWith mark line

/-- The lines with something on them, trimmed. -/
def codeLines (content : Text) : List Text :=
  ((Text.lines content).map Text.trim).filter (!·.isEmpty)

def commentCount (content : Text) : Nat := (codeLines content).countP isComment

def decisionCount (content : Text) : Nat :=
  (decisions.map fun p => (p.findAll content).length).foldr (· + ·) 0

/-- The share of comments is rounded to four places. -/
def ofText (content : Text) : Metrics where
  lines := (codeLines content).length
  complexity := 1 + decisionCount content
  commentRatio :=
    .decimal ⟨Number.roundPlaces (commentCount content) (codeLines content).length 4, -4⟩

end RepoAtlas.Metrics
