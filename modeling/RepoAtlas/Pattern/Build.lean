import RepoAtlas.Pattern.Basic

/-!
# Building patterns

The vocabulary in which the patterns of this library are written: literal texts, sequences and
alternatives as lists, classes of characters and conditions on the place.
-/

namespace RepoAtlas.Pattern

instance : Coe String Pattern := ⟨fun s => lit s.toList⟩

/-- One pattern after the other. -/
def inOrder : List Pattern → Pattern
  | [] => empty
  | [p] => p
  | p :: ps => seq p (inOrder ps)

/-- The first alternative that lets the whole match succeed. -/
def oneOf : List Pattern → Pattern
  | [] => one fun _ => false
  | [p] => p
  | p :: ps => alt p (oneOf ps)

/-- The pattern if possible. -/
def opt (p : Pattern) : Pattern := alt p empty

/-- At least one character of a class, as many as possible. -/
def many1 (p : Char → Bool) : Pattern := seq (one p) (many p)

/-- At least one character of the class `p`, as few as possible, up to one of the class `stop`. -/
def few1To (stop p : Char → Bool) : Pattern := seq (one p) (few p stop)

/-- At least one character of a class, as few as possible. -/
def few1 (p : Char → Bool) : Pattern := few1To (fun _ => true) p

/-! Classes of characters -/

def isSpaceOrTab (c : Char) : Bool := c == ' ' || c == '\t'

def isSingleOrDouble (c : Char) : Bool := c == '\'' || c == '"'

/-- A word character or one of the given ones. -/
def wordOr (extra : Text) (c : Char) : Bool := Text.isWord c || extra.contains c

def noneOf (excluded : Text) (c : Char) : Bool := !excluded.contains c

def anyOf (chars : Text) (c : Char) : Bool := chars.contains c

def notNewline (c : Char) : Bool := c != '\n'

/-! Common pieces -/

/-- Spaces and tabs, possibly none. -/
def gap0 : Pattern := many isSpaceOrTab

/-- At least one space or tab. -/
def gap : Pattern := many1 isSpaceOrTab

/-- White space, possibly none. -/
def blank0 : Pattern := many Text.isBlank

/-- At least one white-space character. -/
def blank : Pattern := many1 Text.isBlank

def quoteMark : Pattern := one isSingleOrDouble

/-! Conditions on the place -/

def textStart : Pattern := here fun c => c.before.isEmpty

def lineStart : Pattern := here fun c => c.before.isEmpty || c.behind (· == '\n')

def lineEnd : Pattern := here fun c => c.ahead.isEmpty || c.facing (· == '\n')

/-- The end of the text, or the place before a line feed that ends it. -/
def textEnd : Pattern := here fun c => match c.ahead with
  | [] => true
  | ['\n'] => true
  | _ => false

/-- Between a word character and something else. -/
def wordEdge : Pattern := here fun c => c.behind Text.isWord != c.facing Text.isWord

def notBehind (p : Char → Bool) : Pattern := here fun c => !c.behind p

/-! Letters in either case -/

/-- Letters that count as the same when case is ignored: beside the two cases of an ASCII letter,
the dotted and dotless i, the Kelvin sign and the long s. -/
def sameLetter (x c : Char) : Bool :=
  Char.toLower x == Char.toLower c ||
  match Char.toLower x with
  | 'i' => c.toNat == 0x130 || c.toNat == 0x131
  | 'k' => c.toNat == 0x212a
  | 's' => c.toNat == 0x17f
  | _ => false

/-- An ASCII text in any mixture of cases. -/
def anyCase : Text → Pattern
  | [] => empty
  | c :: t => seq (one (sameLetter c)) (anyCase t)

end RepoAtlas.Pattern
