import RepoAtlas.Manifest.Basic

/-!
# Versions of runtimes

Some manifests say which version of the language's own runtime a project needs.
-/

namespace RepoAtlas.Runtime

open Pattern Document Manifest

/-- A runtime and the version that a manifest asks for. -/
structure Demand where
  runtime : Text
  version : Text
  deriving DecidableEq, Repr

/-- The text that a path of keys leads to through tables. -/
def textAt? : (path : List Text) → Table → Option Text
  | [], _ => none
  | [key], t => match t.get? key with
    | some (.text v) => some v
    | _ => none
  | key :: path, t => match t.get? key with
    | some (.table inner) => textAt? path inner
    | _ => none

/-- Whether a path of keys meets a value that is there and is no table, before its last key. -/
def blocked : (path : List Text) → Table → Bool
  | [], _ => false
  | [_], _ => false
  | key :: path, t => match t.get? key with
    | some (.table inner) => blocked path inner
    | some _ => true
    | none => false

def goDirective : Pattern :=
  inOrder [lineStart, "go", blank, capture "version" (seq (one Text.isDecimal) (many (wordOr ".")))]

/-- `ruby` as the first word of a line. -/
def rubyDirective : Pattern :=
  inOrder [lineStart, whole fun c => notNewline c && Text.isBlank c, "ruby", blank, quoteMark,
    capture "version" (many1 (noneOf "'\"")), quoteMark]

def javaProperty : Pattern :=
  inOrder ["<", oneOf ["java.version",
      inOrder ["maven.compiler.", oneOf ["source", "release"]]], ">", blank0,
    capture "version" (many1 fun c => c != '<' && !Text.isBlank c)]

/-- The `sdk` entry below `environment`. -/
def sdkEntry : Pattern :=
  inOrder [lineStart, "environment:", blank0, "\n",
    starLazy (inOrder [one isSpaceOrTab, many notNewline, "\n"]), gap, "sdk:", blank0, opt quoteMark,
    capture "version" (many1 (noneOf "'\"\n"))]

def captured (p : Pattern) (content : Text) : Option Text :=
  (p.search? content).map fun m => m.get "version"

/-- The version that a Python project asks for: its own, or that of its dependency manager. -/
def pythonVersion? (t : Table) : Option Text :=
  let own : List Text := ["project".toList, "requires-python".toList]
  if blocked own t then none
  else match textAt? own t with
    | some v => some v
    | none => textAt? ["tool".toList, "poetry".toList, "dependencies".toList, "python".toList] t

/-- The runtime version that a root manifest asks for. -/
def detect (filename content : Text) : Except ManifestError (Option Demand) := do
  let demand (runtime : String) (version : Option Text) : Option Demand :=
    version.map fun v => ⟨runtime.toList, v⟩
  if filename == "package.json".toList then
    let t := (← Package.jsonTable content).getD []
    return demand "node" ((textAt? ["engines".toList, "node".toList] t).map Version.clean)
  else if filename == "pyproject.toml".toList then
    let t := (← Package.tomlTable content).getD []
    return demand "python" ((pythonVersion? t).map Version.first)
  else if filename == "go.mod".toList then
    return demand "go" (captured goDirective content)
  else if filename == "Cargo.toml".toList then
    let t := (← Package.tomlTable content).getD []
    return demand "rust" ((textAt? ["package".toList, "rust-version".toList] t).map Version.clean)
  else if filename == "pom.xml".toList then
    return demand "java" (captured javaProperty content)
  else if filename == "Gemfile".toList then
    return demand "ruby" ((captured rubyDirective content).map Version.clean)
  else if filename == "composer.json".toList then
    let t := (← Package.jsonTable content).getD []
    return demand "php" ((textAt? ["require".toList, "php".toList] t).map fun v =>
      Version.first (Text.replaceChar '|' ',' v))
  else if filename == "pubspec.yaml".toList then
    return demand "dart" ((captured sdkEntry content).map fun v =>
      Version.first (Text.replaceChar ' ' ',' v))
  else return none

end RepoAtlas.Runtime
