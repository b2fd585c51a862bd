import RepoAtlas.Metrics

/-!
# Suspicious lines

Each line is searched on its own for credentials, evaluation of code and queries put together from
pieces. Comments are searched for credentials only.
-/

namespace RepoAtlas

inductive Threat where
  | secret | evaluation | injection
  deriving DecidableEq, Repr

namespace Threat

open Pattern

def insight (threat : Threat) (file : Path) (line : Nat) : Insight :=
  match threat with
  | secret =>
    { kind := "hardcoded-secret", file, line := some line, severity := "critical"
      message := "Possible hardcoded credential assigned to a secret-like name" }
  | evaluation =>
    { kind := "unsafe-eval", file, line := some line, severity := "warning"
      message := "Dynamic code evaluation (eval/exec/new Function)" }
  | injection =>
    { kind := "sql-injection-risk", file, line := some line, severity := "warning"
      message := "Query built with string interpolation or concatenation" }

/-! ## Credentials -/

def dash : Pattern := opt (one (anyOf "_-"))

/-- The first letters of the words that name a credential. -/
def startsSecret (c : Char) : Bool := ['a', 's', 't', 'p'].any (sameLetter · c)

/-- Words that name a credential. -/
def secretWord : Pattern := inOrder [here (Cursor.facing startsSecret), oneOf [
  inOrder [anyCase "api".toList, dash, anyCase "key".toList],
  anyCase "secret".toList,
  anyCase "token".toList,
  inOrder [anyCase "passw".toList, opt (anyCase "or".toList), anyCase "d".toList],
  anyCase "pwd".toList,
  inOrder [anyCase "private".toList, dash, anyCase "key".toList],
  inOrder [anyCase "access".toList, dash, anyCase "key".toList]]]

def typeName : Pattern := many1 (wordOr "<>[].")

/-- A type between a name and what is assigned to it. -/
def annotation : Pattern :=
  inOrder [":", blank0, typeName, star (inOrder [blank0, "|", blank0, typeName]), blank0]

def isQuote (c : Char) : Bool := isSingleOrDouble c || c == '\x60'

/-- At least so many characters of a class, as many as possible. -/
def atLeast (n : Nat) (p : Char → Bool) : Pattern :=
  inOrder (List.replicate n (one p) ++ [many p])

/-- What may follow the name in an assignment. -/
def startsAssignment (c : Char) : Bool :=
  isSingleOrDouble c || c == ':' || c == '=' || Text.isBlank c

/-- A name with a secret word, and a quoted value assigned to it. -/
def secretPattern : Pattern :=
  inOrder [wordEdge, many (wordOr "-"), secretWord, whole (wordOr "-"),
    here (Cursor.facing startsAssignment), opt quoteMark, blank0, opt annotation,
    oneOf [":=", "=", ":"], blank0, one isQuote,
    capture "value" (atLeast 8 fun c => !isQuote c && !Text.isBlank c), one isQuote]

def placeholderMarks : List Text :=
  ["example".toList, "placeholder".toList, "changeme".toList, "change_me".toList, "xxx".toList,
    "your_".toList, "your-".toList, "<your".toList, "test".toList, "dummy".toList,
    "sample".toList, "fake".toList]

def isPlaceholder (value : Text) : Bool :=
  placeholderMarks.any fun mark => Text.occursIn mark (Text.lower value)

def hasSecret (line : Text) : Bool :=
  match secretPattern.search? line with
  | some m => !isPlaceholder (m.get "value")
  | none => false

/-! ## Evaluation of code -/

def evaluationPatterns : List Pattern := [
  inOrder [notBehind (wordOr "."), "eval", blank0, "("],
  inOrder [wordEdge, "new", blank, "Function", blank0, "("],
  inOrder [notBehind (wordOr "."), "exec", blank0, "("]]

def evaluates (line : Text) : Bool := evaluationPatterns.any (·.occursIn line)

/-! ## Queries put together from pieces -/

/-- The call of a query function, with the rest of the line as its arguments. -/
def queryCall : Pattern :=
  inOrder [wordEdge,
    oneOf (["query", "execute", "executemany", "raw", "exec_sql", "rawQuery"].map fun w =>
      anyCase w.toList),
    blank0, "(", capture "arguments" (many notNewline)]

def piecePatterns : List Pattern := [
  lit "$\x7b".toList,
  inOrder [notBehind Text.isWord, "f", quoteMark],
  inOrder [one isQuote, blank0, "+"],
  inOrder ["+", blank0, one isQuote],
  inOrder [quoteMark, blank0, "%", blank0, one (wordOr "(")],
  inOrder [quoteMark, ".format("]]

def injects (line : Text) : Bool :=
  match queryCall.search? line with
  | some m => piecePatterns.any (·.occursIn (m.get "arguments"))
  | none => false

/-! ## Scan -/

/-- What is wrong with a line. -/
def ofLine (line : Text) : List Threat :=
  let stripped := Text.trim line
  if stripped.isEmpty then []
  else
    let secrets := if hasSecret line then [secret] else []
    if Metrics.isComment stripped then secrets
    else secrets ++ (if evaluates line then [evaluation] else []) ++
      (if injects line then [injection] else [])

end Threat

/-- The insights of a text, line by line; lines are counted from one. -/
def Insight.scan (content : Text) (file : Path) : List Insight :=
  ((Text.lines content).zipIdx 1).flatMap fun (line, number) =>
    (Threat.ofLine line).map fun threat => threat.insight file number

end RepoAtlas
