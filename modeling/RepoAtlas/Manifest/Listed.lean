import RepoAtlas.Manifest.Framework
import RepoAtlas.Manifest.Recording
import RepoAtlas.Pattern.Build
import RepoAtlas.Text.Lines

/-!
# Manifests read line by line

Formats in which each dependency has a line or an element of its own.
-/

namespace RepoAtlas.Manifest.Listed

open Pattern

/-- A text between quotes, under the given name. -/
def quotedAs (name : String) (inside : Pattern) : Pattern :=
  inOrder [quoteMark, capture name inside, quoteMark]

def unquoted : Pattern := many1 (noneOf "'\"")

/-! ## Go modules -/

/-- `require module version`, or the rest of it inside a block. -/
def requireLine : Pattern :=
  inOrder [blank0, opt (inOrder ["require", blank]),
    capture "module" (many1 (wordOr "./~-")), blank, capture "version" (seq "v" (many1 (wordOr ".+-")))]

/-- Whether a block is open, and the dependencies so far. -/
structure ModuleLines where
  inBlock : Bool := false
  deps : Dependencies := []

def ModuleLines.add (s : ModuleLines) (raw : Text) : ModuleLines :=
  let line := Text.trim (Text.upTo "//" raw)
  if line.isEmpty then s
  else if Text.startsWith "require (" line then { s with inBlock := true }
  else if s.inBlock && line == [')'] then { s with inBlock := false }
  else if s.inBlock || Text.startsWith "require " line then
    match requireLine.match? line with
    | some m => { s with deps := s.deps.put (m.get "module") (m.get "version") }
    | none => s
  else s

def majorVersion : Pattern := inOrder ["/v", many1 Text.isDecimal, textEnd]

/-- A module path without a major version at its end. -/
def basePath (module : Text) : Text := majorVersion.upTo module

/-- The known framework that a module belongs to. -/
def moduleFinding? (module version : Text) : Option Finding :=
  (Framework.go.lookup (basePath module)).map fun framework =>
    { framework, version := some (Version.clean version) }

def goMod (content : Text) : Recording (List Text) :=
  let deps := ((Text.lines content).foldl ModuleLines.add {}).deps
  record (deps.filterMap fun (module, version) => moduleFinding? module version)

/-! ## Gemfiles -/

def gemLine : Pattern :=
  inOrder [blank0, "gem", blank, quotedAs "gem" (many1 (wordOr ".-")),
    opt (inOrder [blank0, ",", blank0, quotedAs "version" unquoted])]

def gemfile (content : Text) : Recording (List Text) :=
  let gems := (Text.lines content).filterMap fun line =>
    (gemLine.match? line).map fun m => (m.get "gem", m.get "version")
  record ((Dependencies.ofList gems).findings Framework.ruby id)

/-! ## Pubspecs -/

/-- An entry indented by two spaces. -/
def pubspecLine : Pattern :=
  inOrder ["  ", capture "package" (many1 (wordOr "-")), ":", blank0, capture "value" (many notNewline),
    textEnd]

def startsVersion (t : Text) : Bool :=
  match t with
  | c :: _ => anyOf "^~<>=" c || Text.isDecimal c
  | [] => false

/-- The section that is open, and the dependencies so far. -/
structure PubspecLines where
  heading : Option Text := none
  deps : Dependencies := []

def PubspecLines.add (s : PubspecLines) (line : Text) : PubspecLines :=
  if (Text.trim line).isEmpty || Text.startsWith "#" (Text.trimLeft line) then s
  else if !Text.startsWith " " line then { s with heading := some (Text.trim (Text.upTo ":" line)) }
  else if s.heading == some "dependencies".toList || s.heading == some "dev_dependencies".toList then
    match pubspecLine.match? line with
    | some m =>
      let value := Text.dropBoth isSingleOrDouble (Text.trim (m.get "value"))
      { s with deps := s.deps.put (m.get "package") (if startsVersion value then value else []) }
    | none => s
  else s

def pubspec (content : Text) : Recording (List Text) :=
  let deps := ((Text.lines content).foldl PubspecLines.add {}).deps
  record (deps.findings Framework.dart id)

/-! ## .NET projects -/

def packageReference : Pattern :=
  inOrder ["<PackageReference", blank, "Include=", quotedAs "package" (many1 (wordOr ".-")),
    opt (inOrder [blank, "Version=", quotedAs "version" unquoted])]

def packageElement : Pattern :=
  inOrder ["<package", blank, "id=", quotedAs "package" (many1 (wordOr ".-")), blank, "version=",
    quotedAs "version" unquoted]

/-- Packages are known by the first parts of their names. -/
def belongsTo (known package : Text) : Bool :=
  package == known || Text.startsWith (known ++ ['.']) package

def csproj (content : Text) : Recording (List Text) :=
  let found (p : Pattern) := (p.findAll content).map fun m => (m.get "package", m.get "version")
  let deps := Dependencies.ofList (found packageReference ++ found packageElement)
  let web : Text := "Microsoft.AspNetCore"
  let deps :=
    if Text.occursIn "Microsoft.NET.Sdk.Web" content && (deps.lookup web).isNone then deps ++ [(web, [])]
    else deps
  let grouped := Framework.dotNet.filterMap fun (known, _) =>
    (deps.find? fun d => belongsTo known d.1).map fun d => (known, d.2)
  record (Dependencies.findings Framework.dotNet id grouped)

end RepoAtlas.Manifest.Listed
