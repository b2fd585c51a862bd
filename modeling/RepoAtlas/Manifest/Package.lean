import RepoAtlas.Document.Json
import RepoAtlas.Document.Toml
import RepoAtlas.Manifest.Framework
import RepoAtlas.Manifest.Recording

/-!
# Manifests with dependency tables

Manifests written as JSON or TOML documents with tables of packages.
-/

namespace RepoAtlas.Manifest.Package

open Document

/-- A JSON document with a table at the top. -/
def jsonTable (content : Text) : Except ManifestError (Option Table) := do
  match ← orAbsent (Json.parse content) with
  | some (.table entries) => return some entries
  | _ => return none

def tomlTable (content : Text) : Except ManifestError (Option Table) := orAbsent (Toml.parse content)

/-- The dependencies of several sections; a later section overrides an earlier one. -/
def sectionsOf (t : Table) (sections : List Text) : Dependencies :=
  sections.foldl (fun deps key => deps.putAll (Dependencies.ofValue (t.get? key))) []

def packageJson (content : Text) : Recording (List Text) := do
  let some t ← jsonTable content | return []
  let deps := sectionsOf t
    ["peerDependencies".toList, "devDependencies".toList, "dependencies".toList]
  record (deps.findings Framework.node id)

def composer (content : Text) : Recording (List Text) := do
  let some t ← jsonTable content | return []
  let deps := sectionsOf t ["require-dev".toList, "require".toList]
  record (deps.findings Framework.php id)

def cargo (content : Text) : Recording (List Text) := do
  let some t ← tomlTable content | return []
  let deps := sectionsOf t
    ["dependencies".toList, "dev-dependencies".toList, "build-dependencies".toList]
  let workspace ← subtable t "workspace"
  let deps := deps.putAll (Dependencies.ofValue (workspace.get? "dependencies"))
  record (deps.findings Framework.rust id)

/-- The package that an entry of a dependency list names. -/
def listedPackage? : Value → Option Text
  | .text t => some t
  | .table entries => match Table.get? entries "name" with
    | some (.text t) => some t
    | _ => none
  | _ => none

/-- Packages are known by the part of their names in front of a hyphen. -/
def vcpkg (content : Text) : Recording (List Text) := do
  let some t ← jsonTable content | return []
  let packages := (← itemsAt t "dependencies").filterMap listedPackage?
  let deps := Dependencies.ofList (packages.map fun p => (Text.upTo "-" p, []))
  record (deps.findings Framework.vcpkg id)

end RepoAtlas.Manifest.Package
