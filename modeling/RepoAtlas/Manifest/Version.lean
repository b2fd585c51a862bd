import RepoAtlas.Text.Blank

/-!
# Versions

Version requirements as manifests write them, cut down to the version they name, and the record of
the version of each framework. The first version recorded for a framework stays.
-/

namespace RepoAtlas

namespace Version

/-- Marks in front of a version, such as in `^1.2` or `>= v3`. -/
def isRangeMark (c : Char) : Bool :=
  c == '^' || c == '~' || c == '>' || c == '<' || c == '=' || c == '!' || c == 'v' || Text.isBlank c

/-- A requirement without the marks in front of it. -/
def clean (requirement : Text) : Text := Text.trim ((Text.trim requirement).dropWhile isRangeMark)

/-- The first version in a list divided by commas. -/
def first (requirement : Text) : Text :=
  (((Text.splitOn ',' requirement).map clean).find? (!·.isEmpty)).getD []

end Version

/-- A framework found in a manifest, with its version if one is given. -/
structure Finding where
  framework : Text
  version : Option Text := none
  deriving DecidableEq, Repr

/-- The version of each framework, in the order in which they became known. -/
abbrev Versions := List (Text × Text)

namespace Versions

def get? (versions : Versions) (framework : Text) : Option Text := versions.lookup framework

/-- Notes the version of a finding unless there is one already. -/
def note (versions : Versions) (finding : Finding) : Versions :=
  match finding.version, versions.get? finding.framework with
  | some version, none => versions ++ [(finding.framework, version)]
  | _, _ => versions

def noteAll (versions : Versions) (findings : List Finding) : Versions :=
  findings.foldl note versions

end Versions

/-- The frameworks found, each once, in order of first appearance. -/
def Finding.frameworks (findings : List Finding) : List Text :=
  (findings.map (·.framework)).eraseDups

end RepoAtlas
