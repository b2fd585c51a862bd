import RepoAtlas.Text.Basic

/-!
# Name patterns with wildcards

`*` stands for any text, `?` for any character, and `[...]` for one of the characters or ranges in
it, or with `!` in front for any other character. An opening bracket without a closing one is
itself.
-/

namespace RepoAtlas.Glob

/-- An entry between brackets. -/
inductive Entry where
  | char (c : Char)
  | range (first last : Char)

inductive Piece where
  | char (c : Char)
  | anyText
  | anyChar
  | oneOf (negated : Bool) (entries : List Entry)

def Entry.holds (c : Char) : Entry → Bool
  | .char x => x == c
  | .range first last => first ≤ c && c ≤ last

/-- A range that runs backwards holds nothing. -/
def Entry.isVoid : Entry → Bool
  | .char _ => false
  | .range first last => last < first

/-- The entries of a text between brackets; a hyphen at either end or after a range is itself. -/
def entries : Text → List Entry
  | [] => []
  | a :: '-' :: b :: t => .range a b :: entries t
  | a :: t => .char a :: entries t

/-- The class that a text between brackets denotes. Ranges that run backwards are dropped first,
and a `!` that then comes first negates. -/
def bracketPiece (inside : Text) : Piece :=
  match inside with
  | '!' :: inside => .oneOf true ((entries inside).filter (!·.isVoid))
  | _ => match (entries inside).filter (!·.isVoid) with
    | .char '!' :: es => .oneOf true es
    | .range '!' last :: es => .oneOf true (.char '-' :: .char last :: es)
    | es => .oneOf false es

/-- What stands between brackets and what follows them. A closing bracket in the first place, or
behind a `!` there, is itself. -/
def bracket? (t : Text) : Option (Text × Text) :=
  let (mark, t) := match t with
    | '!' :: t => (['!'], t)
    | t => ([], t)
  let (first, t) := match t with
    | ']' :: t => ([']'], t)
    | t => ([], t)
  match t.span (· != ']') with
  | (inside, _ :: rest) => some (mark ++ first ++ inside, rest)
  | (_, []) => none

/-- The pieces of a pattern; `fuel` bounds their number. -/
def pieces : (fuel : Nat) → Text → List Piece
  | 0, _ => []
  | _, [] => []
  | fuel + 1, c :: t =>
    if c == '*' then .anyText :: pieces fuel t
    else if c == '?' then .anyChar :: pieces fuel t
    else if c == '[' then match bracket? t with
      | some (inside, rest) => bracketPiece inside :: pieces fuel rest
      | none => .char c :: pieces fuel t
    else .char c :: pieces fuel t

/-- Whether any end of a text, the whole of it included, satisfies `p`. -/
def someEnd (p : Text → Bool) : Text → Bool
  | [] => p []
  | c :: t => p (c :: t) || someEnd p t

def accepts : List Piece → Text → Bool
  | [], t => t.isEmpty
  | .anyText :: ps, t => someEnd (accepts ps) t
  | _ :: _, [] => false
  | .char x :: ps, c :: t => x == c && accepts ps t
  | .anyChar :: ps, _ :: t => accepts ps t
  | .oneOf negated entries :: ps, c :: t =>
    (entries.any fun e => e.holds c) != negated && accepts ps t

end RepoAtlas.Glob

namespace RepoAtlas

/-- Whether a name as a whole fits a pattern. -/
def Text.fits (pattern name : Text) : Bool :=
  Glob.accepts (Glob.pieces pattern.length pattern) name

end RepoAtlas
