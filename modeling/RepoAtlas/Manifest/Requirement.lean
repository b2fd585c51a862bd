import RepoAtlas.Text.Case
import RepoAtlas.Text.Blank

/-!
# Requirements

A requirement is a package name, optional extras in brackets, a version requirement, and an
environment marker after a semicolon.
-/

namespace RepoAtlas

structure Requirement where
  name : Text
  version : Text
  deriving DecidableEq, Repr

namespace Requirement

def isNameChar (c : Char) : Bool := c.isAlphanum || c == '.' || c == '_' || c == '-'

/-- Extras in brackets that close on the same line are left out. -/
def skipExtras (t : Text) : Text :=
  match t with
  | '[' :: rest =>
    if (rest.takeWhile (· != '\n')).contains ']' then (rest.dropWhile (· != ']')).drop 1 else t
  | _ => t

/-- Reads a requirement. A text that starts with no letter or digit is a name as a whole. -/
def parse (t : Text) : Requirement :=
  let s := Text.trim (Text.upTo ";" (Text.trim t))
  match s with
  | c :: _ =>
    if c.isAlphanum then
      let version := (skipExtras (s.dropWhile isNameChar)).dropWhile Text.isBlank
      ⟨s.takeWhile isNameChar, Text.trim (version.takeWhile (· != '\n'))⟩
    else ⟨s, []⟩
  | [] => ⟨[], []⟩

def isSeparator (c : Char) : Bool := c == '-' || c == '_' || c == '.'

/-- A hyphen for each run of separators. -/
def joinRuns : (inRun : Bool) → Text → Text
  | _, [] => []
  | inRun, c :: t =>
    if isSeparator c then if inRun then joinRuns true t else '-' :: joinRuns true t
    else c :: joinRuns false t

/-- The form in which package names are compared. -/
def normalName (name : Text) : Text := Text.lower (joinRuns false name)

end Requirement

end RepoAtlas
