import RepoAtlas.Manifest.Listed
import RepoAtlas.Manifest.Marked
import RepoAtlas.Manifest.Python
import RepoAtlas.Text.Glob

/-!
# Manifests

A manifest is recognised by its file name and read for frameworks and their versions. Content of
an unexpected shape has no frameworks; only a faulty reference in a settings file and a script
that takes too much room are reported.
-/

namespace RepoAtlas

/-- The kinds of manifests. -/
inductive Manifest where
  | packageJson | requirements | pyproject | pipfile | setupScript | setupConfig | goMod | cargo
  | pom | gradle | sbt | gemfile | composer | pubspec | csproj | cmake | vcpkg | swiftPackage
  deriving DecidableEq, Repr

namespace Manifest

/-- File names, possibly with wildcards, and the kinds of manifests they name. -/
def names : List (Text × Manifest) := [
  ("package.json".toList, packageJson),
  ("requirements.txt".toList, requirements),
  ("requirements*.txt".toList, requirements),
  ("pyproject.toml".toList, pyproject),
  ("Pipfile".toList, pipfile),
  ("setup.py".toList, setupScript),
  ("setup.cfg".toList, setupConfig),
  ("go.mod".toList, goMod),
  ("Cargo.toml".toList, cargo),
  ("pom.xml".toList, pom),
  ("build.gradle".toList, gradle),
  ("build.gradle.kts".toList, gradle),
  ("build.sbt".toList, sbt),
  ("Gemfile".toList, gemfile),
  ("composer.json".toList, composer),
  ("pubspec.yaml".toList, pubspec),
  ("*.csproj".toList, csproj),
  ("packages.config".toList, csproj),
  ("CMakeLists.txt".toList, cmake),
  ("vcpkg.json".toList, vcpkg),
  ("Package.swift".toList, swiftPackage)]

def hasWildcard (pattern : Text) : Bool := pattern.contains '*'

/-- The kind of a manifest: by its exact name, else by the first pattern that it fits. -/
def find? (filename : Text) : Option Manifest :=
  match names.lookup filename with
  | some kind => some kind
  | none => (names.find? fun (pattern, _) => hasWildcard pattern && pattern.fits filename).map (·.2)

/-- Reads a manifest of a kind, and gives the frameworks it names. -/
def reader : Manifest → (content : Text) → Recording (List Text)
  | packageJson => Package.packageJson
  | requirements => Python.requirements
  | pyproject => Python.pyproject
  | pipfile => Python.pipfile
  | setupScript => Python.setupScript
  | setupConfig => Python.setupConfig
  | goMod => Listed.goMod
  | cargo => Package.cargo
  | pom => Marked.pom
  | gradle => Marked.gradle
  | sbt => Marked.sbt
  | gemfile => Listed.gemfile
  | composer => Package.composer
  | pubspec => Listed.pubspec
  | csproj => Listed.csproj
  | cmake => Marked.cmake
  | vcpkg => Package.vcpkg
  | swiftPackage => Marked.swiftPackage

/-- Reads a file as a manifest. A file that is none, or has a fault that is tolerated, names no
frameworks. -/
def read (filename content : Text) : Recording (List Text) :=
  match find? filename with
  | none => return []
  | some kind => tryCatch (kind.reader content) fun e => if e.isTolerated then return [] else throw e

end Manifest

end RepoAtlas
