import RepoAtlas.Language.Form
import RepoAtlas.Text.Case

/-!
# Import statements, language by language
-/

namespace RepoAtlas.ImportForm

open Pattern

/-! ## JavaScript and its relatives -/

namespace Script

def clauseChar (c : Char) : Bool := wordOr "$*\x7b\x7d," c || Text.isBlank c

/-- `import a, { b as c } from 'path'`, also with `type`. -/
def importFrom : Pattern :=
  line ["import", blank, opt (inOrder ["type", blank]),
    capture "names" (few1To Text.isBlank clauseChar), blank, "from", blank, quotedPath]

/-- `import 'path'`. -/
def sideEffect : Pattern := line ["import", blank, quotedPath]

/-- `export { a } from 'path'` and `export * from 'path'`. -/
def reExport : Pattern :=
  line ["export", blank, opt (inOrder ["type", blank]),
    capture "names" (oneOf [
      inOrder ["*", opt (inOrder [blank, "as", blank, many1 Text.isWord])],
      inOrder ["\x7b", many (noneOf "\x7d"), "\x7d"]]),
    blank, "from", blank, quotedPath]

/-- `require('path')`, anywhere. -/
def requireCall : Pattern :=
  inOrder [wordEdge, "require", blank0, "(", blank0, quotedPath, blank0, ")"]

def nameSpace : Pattern := inOrder ["*", blank, "as", blank, capture "name" (many1 (wordOr "$"))]

def braces : Pattern := inOrder ["\x7b", capture "inside" (many (noneOf "\x7d")), "\x7d"]

/-- The name bound by a part of a clause outside braces. -/
def outerName (part : Text) : Text :=
  match nameSpace.match? part with
  | some m => m.get "name"
  | none => part

/-- The name imported by an entry in braces: not its alias, and without `type`. -/
def innerName (entry : Text) : Text :=
  let entry := Text.trim entry
  let entry := match Text.after? "type " entry with
    | some rest => Text.trim rest
    | none => entry
  Text.trim (beforeAlias entry)

def names (m : Match) : List Text :=
  let clause := Text.trim (m.get "names")
  let outer (head : Text) : List Text :=
    ((Text.splitOn ',' head).map Text.trim).filterMap fun part =>
      if part.isEmpty then none else some (outerName part)
  match braces.search? clause with
  | none => outer clause
  | some b =>
    outer (clause.take b.first.position) ++
      (Text.splitOn ',' (b.get "inside")).filterMap fun entry => nonEmpty? (innerName entry)

def forms : List ImportForm :=
  [importFrom, sideEffect, reExport, requireCall].map fun pattern =>
    { pattern, target := plainTarget, names }

end Script

/-! ## Python -/

namespace Python

def moduleAlias : Pattern := opt (inOrder [gap, "as", gap, many1 Text.isWord])

def fromImport : Pattern :=
  line ["from", gap,
    path (oneOf [inOrder [many1 (· == '.'), many dotted], many1 dotted]), gap, "import", gap,
    capture "names" (oneOf [inOrder ["(", many (noneOf ")"), ")"], many1 (noneOf "\n#;")])]

def plainImport : Pattern :=
  line ["import", gap,
    path (inOrder [many1 dotted, moduleAlias,
      star (inOrder [gap0, ",", gap0, many1 dotted, moduleAlias])])]

/-- `from . import a, b` names the modules beside the file. -/
def fromTarget (m : Match) : Except ReadFault (Option Text) :=
  let p := pathOf m
  let siblings := (listedNames m).filter (· != ['*'])
  if p.all (· == '.') && !siblings.isEmpty then
    .ok (nonEmpty? (List.intercalate ['\n'] (siblings.map (p ++ ·))))
  else .ok (nonEmpty? p)

/-- Several modules make a block of lines. -/
def importTarget (m : Match) : Except ReadFault (Option Text) :=
  let p := pathOf m
  if p.contains ',' then
    .ok (nonEmpty? (List.intercalate ['\n'] ((Text.splitOn ',' p).map Text.trim)))
  else .ok (nonEmpty? (Text.trim (beforeAlias p)))

def forms : List ImportForm :=
  [{ pattern := fromImport, target := fromTarget, names := listedNames },
   { pattern := plainImport, target := importTarget }]

end Python

/-! ## Go -/

namespace Go

def single : Pattern :=
  line ["import", gap, opt (inOrder [many1 dotted, gap]), doubleQuotedPath]

def group : Pattern := line ["import", gap0, "(", capture "block" (many (noneOf ")")), ")"]

/-- A block over several lines as it is; of one line, its entry. -/
def groupTarget (m : Match) : Except ReadFault (Option Text) :=
  let block := m.get "block"
  .ok (if (Text.trim block).contains '\n' then some block else blockEntry? block)

def forms : List ImportForm :=
  [{ pattern := single, target := plainTarget }, { pattern := group, target := groupTarget }]

end Go

/-! ## Rust -/

namespace Rust

def visibility : Pattern :=
  opt (inOrder ["pub", opt (inOrder ["(", many1 (wordOr ":"), ")"]), gap])

def use : Pattern :=
  line [visibility, "use", gap, path (few1 (wordOr ":")),
    opt (oneOf [inOrder ["::\x7b", capture "names" (many (noneOf "\x7d")), "\x7d"], "::*"]),
    opt (inOrder [gap, "as", gap, many1 Text.isWord]), gap0, ";"]

def module : Pattern :=
  line [visibility, "mod", gap, path (many1 Text.isWord), gap0, ";"]

def useNames (m : Match) : List Text :=
  let names := m.get "names"
  if names.isEmpty then lastSegment m else splitNames names

def forms : List ImportForm :=
  [{ pattern := use, target := plainTarget, names := useNames },
   { pattern := module, target := plainTarget }]

end Rust

/-! ## Java, Kotlin and Scala -/

namespace Jvm

def java : Pattern :=
  line ["import", gap, opt (inOrder ["static", gap]), path (few1 dotted), opt ".*", gap0, ";"]

def kotlin : Pattern :=
  line ["import", gap, path (few1 dotted), opt ".*",
    opt (inOrder [gap, "as", gap, many1 Text.isWord]), gap0, opt ";", gap0, lineEnd]

def scala : Pattern :=
  line ["import", gap, path (few1 dotted),
    opt (oneOf [inOrder [".\x7b", capture "names" (many (noneOf "\x7d")), "\x7d"], "._", ".*"]),
    gap0, lineEnd]

/-- Listed names as they are, else the last segment if it looks like a class. -/
def names (m : Match) : List Text :=
  let listed := m.get "names"
  if listed.isEmpty then (lastSegment m).filter fun n => n.head?.any Text.isUpper
  else (Text.splitOn ',' listed).filterMap fun n =>
    if (Text.trim n).isEmpty then none else some (Text.trim (Text.upTo "=>" n))

def form (pattern : Pattern) : ImportForm := { pattern, target := plainTarget, names }

end Jvm

/-! ## C and C# -/

def cInclude : ImportForm where
  pattern := line ["#", gap0, oneOf ["include", "import"], gap0, doubleQuotedPath]
  target := plainTarget

def usingDirective : ImportForm where
  pattern := line [opt (inOrder ["global", gap]), "using", gap, opt (inOrder ["static", gap]),
    path (many1 dotted), gap0, ";"]
  target := plainTarget

/-! ## Ruby -/

namespace Ruby

def required (word : String) : Pattern :=
  line [lit word.toList, gap0, opt "(", gap0, quotedPath]

/-- Relative to the file even without a leading dot. -/
def relativeTarget (m : Match) : Except ReadFault (Option Text) :=
  .ok ((nonEmpty? (pathOf m)).map fun p => if Text.startsWith "." p then p else '.' :: '/' :: p)

def forms : List ImportForm :=
  [{ pattern := required "require_relative", target := relativeTarget },
   { pattern := required "require", target := plainTarget }]

end Ruby

/-! ## PHP -/

namespace Php

def use : Pattern :=
  line ["use", gap, opt (oneOf [inOrder ["function", gap], inOrder ["const", gap]]),
    path (many1 (wordOr "\\")), opt (inOrder [gap, "as", gap, many1 Text.isWord]), gap0, ";"]

def «include» : Pattern :=
  inOrder [wordEdge, oneOf ["require", "include"], opt "_once", gap0, opt "(", gap0,
    opt (capture "dir" (inOrder ["__DIR__", gap0, ".", gap0])), quotedPath]

def useTarget (m : Match) : Except ReadFault (Option Text) :=
  .ok (nonEmpty? (Text.dropBoth (· == '\\') (pathOf m)))

/-- A path behind `__DIR__` starts at the folder of the file. -/
def includeTarget (m : Match) : Except ReadFault (Option Text) :=
  .ok ((nonEmpty? (pathOf m)).map fun p =>
    if (m.get "dir").isEmpty then p
    else if Text.startsWith "/" p then '.' :: p
    else '.' :: '/' :: p)

def forms : List ImportForm :=
  [{ pattern := use, target := useTarget, names := lastSegment },
   { pattern := «include», target := includeTarget, names := lastSegment }]

end Php

/-! ## Swift -/

def swiftImport : ImportForm where
  pattern := line [opt (inOrder ["@testable", gap]), "import", gap,
    opt (inOrder [oneOf ["class", "struct", "enum", "protocol", "func", "var", "let", "typealias"],
      gap]),
    path (many1 dotted)]
  target := plainTarget

/-! ## Dart -/

namespace Dart

def directive : Pattern :=
  line [oneOf ["import", "export", "part"], gap, quotedPath,
    opt (inOrder [gap, "as", gap, many1 Text.isWord]),
    opt (inOrder [gap, "show", gap, capture "names" (many1 (wordOr ", \t"))])]

/-- Libraries of the language are left out; a package is taken for this project, whose files lie
in `lib`; any other path is relative to the file. -/
def target (m : Match) : Except ReadFault (Option Text) :=
  let p := pathOf m
  .ok (if p.isEmpty || Text.startsWith "dart:" p then none
    else match Text.after? "package:" p with
      | some package => match Text.cut? "/" package with
        | some (_, c :: rest) => some ("/lib/".toList ++ c :: rest)
        | _ => none
      | none =>
        if Text.startsWith "." p || Text.startsWith "/" p then some p else some ('.' :: '/' :: p))

def form : ImportForm := { pattern := directive, target, names := listedNames }

end Dart

end RepoAtlas.ImportForm
