import RepoAtlas.Manifest.Framework
import RepoAtlas.Manifest.Recording
import RepoAtlas.Pattern.Build

/-!
# Manifests searched for markers

Build files without a plain list of dependencies. A framework is found when its marker occurs
anywhere, and its version is looked for near the marker.
-/

namespace RepoAtlas.Manifest.Marked

open Pattern

/-- A pattern around a marker with the version as its capture. -/
abbrev VersionPattern := Text → Pattern

/-- The frameworks whose markers occur, with the first version that a pattern finds. -/
def marked (markers : KnownPackages) (patterns : List VersionPattern) (content : Text) :
    List Finding :=
  markers.filterMap fun (marker, framework) =>
    if Text.occursIn marker content then
      let found := patterns.findSome? fun pattern => (pattern marker).search? content
      some { framework, version := found.map fun m => Version.clean (m.get "version") }
    else none

def isIdChar : Char → Bool := wordOr ".-"

/-- A version that starts with a digit. -/
def numbered (p : Char → Bool) : Pattern := capture "version" (seq (one Text.isDecimal) (many p))

def quotedVersion : Pattern :=
  inOrder [quoteMark, capture "version" (many1 (noneOf "'\"")), quoteMark]

/-! ## Maven -/

/-- A version element, up to its text. -/
def versionElement : Pattern :=
  inOrder [blank0, "<version>", blank0,
    capture "version" (many1 fun c => c != '<' && !Text.isBlank c)]

def mavenArtifact : VersionPattern := fun marker =>
  inOrder [lit marker, many isIdChar, "</artifactId>", versionElement]

def mavenGroup : VersionPattern := fun marker =>
  inOrder [lit marker, many isIdChar, "</groupId>", blank0, "<artifactId>", many (noneOf "<"),
    "</artifactId>", versionElement]

def pom (content : Text) : Recording (List Text) :=
  record (marked Framework.jvm [mavenArtifact, mavenGroup] content)

/-! ## Gradle -/

def gradleModule : VersionPattern := fun marker =>
  inOrder [lit marker, many isIdChar, ":", many1 isIdChar, ":", numbered isIdChar]

def gradleGroup : VersionPattern := fun marker =>
  inOrder [lit marker, many isIdChar, ":", numbered isIdChar]

def gradlePlugin : VersionPattern := fun marker =>
  inOrder [lit marker, many isIdChar, quoteMark, opt ")", blank, "version", blank, quotedVersion]

def gradle (content : Text) : Recording (List Text) :=
  record (marked Framework.jvm [gradleModule, gradleGroup, gradlePlugin] content)

/-! ## sbt -/

def sbtModule : VersionPattern := fun marker =>
  inOrder [quoteMark, lit marker, quoteMark, blank0, "%", opt "%", blank0, quotedVersion]

def sbt (content : Text) : Recording (List Text) :=
  record (marked Framework.scala [sbtModule] content)

/-! ## CMake -/

def findPackage : VersionPattern := fun marker =>
  inOrder ["find_package", blank0, "(", blank0, lit marker, blank, numbered (wordOr ".")]

def cmake (content : Text) : Recording (List Text) :=
  record (marked Framework.cmake [findPackage] content)

/-! ## Swift packages -/

def swiftDependency : VersionPattern := fun marker =>
  inOrder [lit marker, many (noneOf "\""), "\"", blank0, ",", blank0, "from:", blank0, "\"",
    capture "version" (many1 (noneOf "\"")), "\""]

def swiftPackage (content : Text) : Recording (List Text) :=
  record (marked Framework.swift [swiftDependency] content)

end RepoAtlas.Manifest.Marked
