import RepoAtlas.Manifest.Version
import RepoAtlas.Manifest.Requirement
import RepoAtlas.Document.Value

/-!
# Dependencies

The packages that a manifest names, with their version requirements, and the frameworks that are
known by their packages.
-/

namespace RepoAtlas

/-- Packages with their version requirements; each package once, at its first place. -/
abbrev Dependencies := List (Text × Text)

/-- Packages that stand for a framework, in the order in which they are looked for. -/
abbrev KnownPackages := List (Text × Text)

namespace Dependencies

/-- Sets the requirement of a package, in place or at the end. -/
def put (deps : Dependencies) (package version : Text) : Dependencies :=
  match deps with
  | [] => [(package, version)]
  | (p, v) :: rest => if p == package then (p, version) :: rest else (p, v) :: put rest package version

def putAll (deps more : Dependencies) : Dependencies :=
  more.foldl (fun deps (package, version) => deps.put package version) deps

def ofList (entries : Dependencies) : Dependencies := putAll [] entries

/-- The version requirement that an entry of a dependency table gives. -/
def requirementOf : Value → Text
  | .text t => t
  | .table entries => match Table.get? entries "version" with
    | some (.text t) => t
    | _ => []
  | _ => []

/-- The dependencies in a table; anything else has none. -/
def ofValue : Option Value → Dependencies
  | some (.table entries) => entries.map fun (package, v) => (package, requirementOf v)
  | _ => []

/-- The dependencies in lines of requirements. -/
def ofRequirements (lines : List Text) : Dependencies :=
  ofList (((lines.map Requirement.parse).filter (!·.name.isEmpty)).map fun r => (r.name, r.version))

/-- The requirement of a package, names being compared in normal form; the last one counts. -/
def requirement? (normal : Text → Text) (deps : Dependencies) (package : Text) : Option Text :=
  (deps.reverse.find? fun (p, _) => normal p == normal package).map (·.2)

/-- The known frameworks among the dependencies. -/
def findings (known : KnownPackages) (normal : Text → Text) (deps : Dependencies) : List Finding :=
  known.filterMap fun (package, framework) =>
    (deps.requirement? normal package).map fun requirement =>
      let version := Version.first requirement
      { framework, version := if version.isEmpty then none else some version }

end Dependencies

end RepoAtlas
