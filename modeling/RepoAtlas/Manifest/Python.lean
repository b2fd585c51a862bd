import RepoAtlas.Manifest.Package
import RepoAtlas.Script.Statement
import RepoAtlas.Text.Lines

/-!
# Manifests of Python projects

Requirements come as lines of a text, as lists in documents, and as a list in a call of the setup
script, which is read and never run.
-/

namespace RepoAtlas.Manifest.Python

open Document Package

/-- Records the known frameworks among the dependencies. -/
def recordKnown (deps : Dependencies) : Recording (List Text) :=
  record (deps.findings Framework.python Requirement.normalName)

/-- A line of a requirements file without its comment; `none` for comments, options and blanks. -/
def requirementLine? (line : Text) : Option Text :=
  let line := Text.trim line
  match line with
  | [] => none
  | c :: _ => if c == '#' || c == '-' then none else some (Text.trim (Text.upTo " #" line))

def requirements (content : Text) : Recording (List Text) :=
  recordKnown (.ofRequirements ((Text.lines content).filterMap requirementLine?))

/-- The requirements of the project and of its extras. -/
def projectLines (t : Table) : Except ManifestError (List Text) := do
  let project ← subtable t "project"
  let lines := texts (← itemsAt project "dependencies")
  let extras ← subtable project "optional-dependencies"
  let extraLines ← extras.mapM fun (_, v) => items v
  return lines ++ texts extraLines.flatten

/-- The dependency tables of a dependency manager: main, development and groups. -/
def poetryTables (t : Table) : Except ManifestError (List Dependencies) := do
  let poetry ← subtable (← subtable t "tool") "poetry"
  let groups ← subtable poetry "group"
  let grouped := groups.map fun (_, v) => match v with
    | .table group => Dependencies.ofValue (Table.get? group "dependencies")
    | _ => []
  return Dependencies.ofValue (poetry.get? "dependencies") ::
    Dependencies.ofValue (poetry.get? "dev-dependencies") :: grouped

def pyproject (content : Text) : Recording (List Text) := do
  let some t ← tomlTable content | return []
  let lines ← projectLines t
  let tables ← poetryTables t
  recordKnown (tables.foldl Dependencies.putAll (.ofRequirements lines))

/-- A star asks for no version. -/
def pipfile (content : Text) : Recording (List Text) := do
  let some t ← tomlTable content | return []
  let deps := sectionsOf t ["packages".toList, "dev-packages".toList]
  recordKnown (deps.map fun (p, v) => (p, if v == ['*'] then [] else v))

/-- The requirements that a node of a script gives, if it calls the setup function. -/
def setupLines : Script.Tree → List Text
  | .call callee _ keywords =>
    match callee.calleeName? with
    | none => []
    | some name =>
      if name == "setup".toList || name == "setuptools.setup".toList then
        match Script.Tree.argument? "install_requires" keywords with
        | some value => value.strings
        | none => []
      else []
  | _ => []

def setupScript (content : Text) : Recording (List Text) :=
  match Script.parse content with
  | .ok tree => recordKnown (.ofRequirements (tree.walk.flatMap setupLines))
  | .error .malformed => return []
  | .error .tooDeep => throw .tooDeep
  | .error .exhausted => throw .exhausted

/-- The lines of a value without blanks and comments. -/
def valueLines (value : Text) : List Text :=
  ((Text.lines value).map Text.trim).filter fun line => !line.isEmpty && !Text.startsWith "#" line

def setupConfig (content : Text) : Recording (List Text) :=
  match Ini.parse? content with
  | none => return []
  | some settings => match settings.get? "options" "install_requires" with
    | .error e => throw (.reference e)
    | .ok none => return []
    | .ok (some value) => recordKnown (.ofRequirements (valueLines value))

end RepoAtlas.Manifest.Python
