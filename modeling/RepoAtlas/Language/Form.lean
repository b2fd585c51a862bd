import RepoAtlas.Pattern.Build

/-!
# Forms of import statements

A language has one or more forms of import statements. A form is a pattern together with what a
match of it says: the import target, and the names that are imported. A target may be a block of
several lines, one target a line.
-/

namespace RepoAtlas

open Pattern

/-- Why a match could not be read. -/
inductive ReadFault where
  | unreadable
  deriving DecidableEq, Repr

structure ImportForm where
  pattern : Pattern
  /-- The target of a match, if it has one. -/
  target : Match → Except ReadFault (Option Text)
  names : Match → List Text := fun _ => []

namespace ImportForm

/-- ` as ` between white space, which divides a name from its alias. -/
def aliasMark : Pattern := inOrder [blank, "as", blank]

def beforeAlias (t : Text) : Text := aliasMark.upTo t

def isQuote (c : Char) : Bool := c == '"' || c == '\'' || c == '\x60'

def quotedText : Pattern :=
  inOrder [one isQuote, capture "text" (many1 fun c => !isQuote c), one isQuote]

def nonEmpty? (t : Text) : Option Text := if t.isEmpty then none else some t

/-- The target on one line of a block, without comment, quotes, alias and punctuation. -/
def blockEntry? (line : Text) : Option Text :=
  let entry := Text.trim (Text.upTo "#" (Text.upTo "//" line))
  if entry.isEmpty then none
  else match quotedText.search? entry with
    | some m => nonEmpty? (Text.trim (m.get "text"))
    | none =>
      let entry := Text.trim (beforeAlias entry)
      nonEmpty? (Text.trim (Text.dropBoth (anyOf ",;()") entry))

/-- The names in a list such as `a, b as c, (d)`. -/
def splitNames (t : Text) : List Text :=
  let plain := Text.replaceChar ')' ' ' (Text.replaceChar '(' ' ' t)
  (Text.splitOn ',' plain).filterMap fun part =>
    nonEmpty? (Text.trim (beforeAlias (Text.trim part)))

/-- The trimmed text of the capture `path`. -/
def pathOf (m : Match) : Text := Text.trim (m.get "path")

def plainTarget (m : Match) : Except ReadFault (Option Text) := .ok (nonEmpty? (pathOf m))

def listedNames (m : Match) : List Text := splitNames (m.get "names")

/-- What follows the last separator of a path, if anything does. -/
def lastSegment (m : Match) : List Text :=
  let last := ((pathOf m).reverse.takeWhile (noneOf "./\\:")).reverse
  if last.isEmpty then [] else [last]

def unquoted : Pattern := many1 (noneOf "'\"")

/-- A path between quotes. -/
def quotedPath : Pattern := inOrder [quoteMark, capture "path" unquoted, quoteMark]

def doubleQuotedPath : Pattern := inOrder ["\"", capture "path" (many1 (noneOf "\"")), "\""]

def dotted : Char → Bool := wordOr "."

def path (p : Pattern) : Pattern := capture "path" p

/-- A line that starts, after spaces and tabs, with the given pieces. -/
def line (pieces : List Pattern) : Pattern := inOrder (lineStart :: gap0 :: pieces)

end ImportForm

end RepoAtlas
