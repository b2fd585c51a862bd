import RepoAtlas.Script.Literal
import RepoAtlas.Script.Tree

/-!
# Expressions in scripts

The grammar of expressions, read from a list of tokens. Each function reads one construct from
the front and gives back its tree and the tokens that are left, or nothing when the construct does
not stand there. The recursion of the grammar goes through a `Reader`, the functions for whole
expressions one level of nesting further down; a reader of some depth is built from the one below.
-/

namespace RepoAtlas.Script

abbrev Tokens := List Token

abbrev Parse (α : Type) := Tokens → Option (α × Tokens)

/-- The functions that a construct calls for what is nested in it. -/
structure Reader where
  /-- A bound on the length of every sequence. -/
  width : Nat
  expression : Parse Tree
  /-- An expression without a choice by `if` at the outside. -/
  condition : Parse Tree
  /-- An operand of a comparison. -/
  operand : Parse Tree
  /-- An operand with signs in front of it. -/
  signed : Parse Tree
  /-- An operand that may be called or have members. -/
  primary : Parse Tree

def operator (sign : String) : Tokens → Option Tokens
  | .op s :: ts => if s == sign then some ts else none
  | _ => none

def keyword (word : String) : Tokens → Option Tokens
  | .keyword w :: ts => if w == word then some ts else none
  | _ => none

def startsWithOp (sign : String) (ts : Tokens) : Bool := (operator sign ts).isSome

/-- Items divided by commas, at least one; the flag says whether a comma ends them. -/
def commaSeparated (p : Parse Tree) : (fuel : Nat) → (read : List Tree) → Tokens →
    Option (List Tree × Bool × Tokens)
  | 0, _, _ => none
  | fuel + 1, read, ts => match p ts with
    | none => if read.isEmpty then none else some (read.reverse, true, ts)
    | some (x, ts) => match operator "," ts with
      | none => some ((x :: read).reverse, false, ts)
      | some ts => commaSeparated p fuel (x :: read) ts

/-- One item as itself, several or one with a comma as a tuple. -/
def oneOrTuple (p : Parse Tree) (fuel : Nat) : Parse Tree := fun ts => do
  let (items, comma, ts) ← commaSeparated p fuel [] ts
  match items, comma with
  | [x], false => some (x, ts)
  | items, _ => some (.tuple items, ts)

/-- Operands joined by signs of one precedence, from left to right. -/
def leftChain (operand : Parse Tree) (signs : List String) (fuel : Nat) : Parse Tree := fun ts => do
  let (x, ts) ← operand ts
  go fuel x ts
where
  go : Nat → Tree → Parse Tree
    | 0, x, ts => some (x, ts)
    | fuel + 1, x, ts => match ts with
      | .op s :: rest =>
        if signs.contains s then
          match operand rest with
          | some (y, ts) => go fuel (.node [x, y]) ts
          | none => some (x, ts)
        else some (x, ts)
      | _ => some (x, ts)

/-- Operands kept side by side, with what divides them. -/
def sideBySide (divider : Tokens → Option Tokens) (operand : Parse Tree) (fuel : Nat) :
    Parse Tree := fun ts => do
  let (x, ts) ← operand ts
  let (xs, ts) := go fuel [x] ts
  match xs with
  | [x] => some (x, ts)
  | xs => some (.node xs.reverse, ts)
where
  go : Nat → List Tree → Tokens → List Tree × Tokens
    | 0, xs, ts => (xs, ts)
    | fuel + 1, xs, ts => match divider ts with
      | none => (xs, ts)
      | some rest => match operand rest with
        | some (y, ts) => go fuel (y :: xs) ts
        | none => (xs, ts)

namespace Reader

/-- `name := value`, or an expression that no `:=` follows. -/
def named (r : Reader) : Parse Tree
  | .name id :: .op ":=" :: ts => do
    let (v, ts) ← r.expression ts
    some (.node [.name (plainName id), v], ts)
  | ts => do
    let (e, ts) ← r.expression ts
    if startsWithOp ":=" ts then none else some (e, ts)

/-! ## Targets -/

end Reader

namespace Tree

mutual

/-- Whether a tree may be assigned to, as a whole or part by part. -/
def isTarget : Tree → Bool
  | name _ => true
  | member _ _ => true
  | item _ _ => true
  | group inner => inner.isTarget
  | tuple items => areTargets items
  | list items => areTargets items
  | _ => false

def areTargets : List Tree → Bool
  | [] => true
  | starred inner :: ts => inner.isTarget && areTargets ts
  | t :: ts => t.isTarget && areTargets ts

end

/-- As `isTarget`, also for a single starred one. -/
def isStarTarget : Tree → Bool
  | starred inner => inner.isTarget
  | t => t.isTarget

/-- A name, a member or an item. -/
def isSingleTarget : Tree → Bool
  | name _ => true
  | member _ _ => true
  | item _ _ => true
  | group inner => inner.isSingleTarget
  | _ => false

mutual

/-- Whether a tree may be deleted. -/
def isDeletable : Tree → Bool
  | name _ => true
  | member _ _ => true
  | item _ _ => true
  | group inner => inner.isDeletable
  | tuple items => areDeletable items
  | list items => areDeletable items
  | _ => false

def areDeletable : List Tree → Bool
  | [] => true
  | t :: ts => t.isDeletable && areDeletable ts

end

end Tree

namespace Reader

/-! ## Strings with embedded expressions -/

def isSpaceChar (c : Char) : Bool := c == ' ' || c == '\t' || c == '\n' || c == '\x0c'

/-- Cuts an embedded expression off at the character that ends it. The quote that is open, if
any, comes with whether it is a triple one. -/
def embeddedEnd (quote : Option (Char × Bool)) (opened : List Char) (read : Text) :
    Text → Option (Text × Text)
  | [] => none
  | c :: t =>
    if c == '\\' then none
    else match quote with
      | some (q, triple) =>
        if c != q then embeddedEnd quote opened (c :: read) t
        else if !triple then embeddedEnd none opened (c :: read) t
        else match t with
          | a :: b :: rest =>
            if a == q && b == q then embeddedEnd none opened (b :: a :: c :: read) rest
            else embeddedEnd quote opened (c :: read) (a :: b :: rest)
          | t => embeddedEnd quote opened (c :: read) t
      | none =>
        if c == '\'' || c == '"' then
          match t with
          | a :: b :: rest =>
            if a == c && b == c then
              embeddedEnd (some (c, true)) opened (b :: a :: c :: read) rest
            else embeddedEnd (some (c, false)) opened (c :: read) (a :: b :: rest)
          | t => embeddedEnd (some (c, false)) opened (c :: read) t
        else if c == '(' || c == '[' || c == '\x7b' then
          if maxBrackets ≤ opened.length then none
          else embeddedEnd none (c :: opened) (c :: read) t
        else if c == '#' then none
        else if opened.isEmpty &&
            (c == '!' || c == ':' || c == '\x7d' || c == '=' || c == '<' || c == '>') then
          match t with
          | '=' :: rest =>
            if c == '!' || c == '=' || c == '<' || c == '>' then
              embeddedEnd none opened ('=' :: c :: read) rest
            else some (read.reverse, c :: '=' :: rest)
          | t =>
            if c == '<' || c == '>' then embeddedEnd none opened (c :: read) t
            else some (read.reverse, c :: t)
        else if c == ')' || c == ']' || c == '\x7d' then
          match opened with
          | o :: opened =>
            if (o == '(' && c == ')') || (o == '[' && c == ']') || (o == '\x7b' && c == '\x7d') then
              embeddedEnd none opened (c :: read) t
            else none
          | [] => none
        else embeddedEnd none opened (c :: read) t

/-- A brace in a text that is read for embedded expressions, with what follows it. Outside of
format descriptions doubled braces stand for single ones; the flag says that the text goes on
after one. -/
def braceAt (inner : Bool) (read : Text) (c : Char) (t : Text) : Option (Text × Bool × Text) :=
  if inner then some (read.reverse, false, c :: t)
  else match t with
    | d :: rest =>
      if d == c then some ((c :: read).reverse, true, rest)
      else if c == '\x7d' then none
      else some (read.reverse, false, c :: t)
    | [] => if c == '\x7d' then none else some (read.reverse, false, c :: t)

/-- The plain text up to the next embedded expression, with what follows. The name of a character
may hold anything but a closing brace; `named` says that the text starts within one. -/
def plainPart (raw inner : Bool) : (named : Bool) → (read : Text) → Text →
    Option (Text × Bool × Text)
  | _, read, [] => some (read.reverse, false, [])
  | true, read, c :: t => plainPart raw inner (c != '\x7d') (c :: read) t
  | false, read, c :: t =>
    if !raw && c == '\\' then
      match t with
      | [] => some ((c :: read).reverse, false, [])
      | 'N' :: '\x7b' :: t => plainPart raw inner true ('\x7b' :: 'N' :: c :: read) t
      | 'N' :: x :: t => plainPart raw inner false (x :: 'N' :: c :: read) t
      | d :: t =>
        if d == '\x7b' || d == '\x7d' then braceAt inner (c :: read) d t
        else plainPart raw inner false (d :: c :: read) t
    else if c == '\x7b' || c == '\x7d' then braceAt inner read c t
    else plainPart raw inner false (c :: read) t

/-- The conversion and format after an embedded expression up to its closing brace. -/
def conversion (t : Text) : Option Text :=
  match t with
  | '!' :: c :: t =>
    if c == 's' || c == 'r' || c == 'a' then
      match t with
      | d :: _ => if d == '\x7d' || d == ':' then some t else none
      | [] => none
    else none
  | '!' :: [] => none
  | t => some t

/-- The trees of the expressions embedded in a text. `level` counts how far the text lies inside
format descriptions; below the first of these none may hold an expression. -/
def embedded (expressions : Parse Tree) (raw : Bool) :
    (fuel level : Nat) → Text → Option (List Tree × Text)
  | 0, _, _ => none
  | fuel + 1, level, t => do
    let (plain, goesOn, t) ← plainPart raw (level != 0) false [] t
    if !raw && (unescape? plain).isNone then none
    if goesOn then embedded expressions raw fuel level t
    else match t with
      | '\x7b' :: t =>
        if 2 ≤ level then none
        else
          let (source, t) ← embeddedEnd none [] [] t
          if source.all isSpaceChar then none
          let ts ← tokens? ('(' :: source ++ [')'])
          let (x, _) ← expressions ts
          let t := match t with
            | '=' :: t => t.dropWhile fun c => isSpaceChar c || c == '\r' || c == '\x0b'
            | t => t
          let t ← conversion t
          let (format, t) ← match t with
            | ':' :: t => do
              let (parts, t) ← embedded expressions raw fuel (level + 1) t
              some ([Tree.node parts], t)
            | t => some ([], t)
          match t with
          | '\x7d' :: t =>
            let (more, t) ← embedded expressions raw fuel level t
            some (.node (x :: format) :: more, t)
          | _ => none
      | t => if level != 0 && t.head? != some '\x7d' then none else some ([], t)

/-- Adjacent strings are one: bytes, a text, or a text with embedded expressions. -/
def joined (expressions : Parse Tree) (parts : List Quotation) : Option Tree :=
  if parts.any (·.isBytes) then
    if parts.all fun q =>
        q.isBytes && (if q.isRaw then q.body.all (·.toNat < 128) else bytesReadable q.body) then
      some (.node [])
    else none
  else if parts.any (·.isFormat) then do
    let trees ← parts.mapM fun q =>
      if q.isFormat then do
        let (trees, rest) ← embedded expressions q.isRaw (2 * q.body.length + 2) 0 q.body
        if rest.isEmpty then some trees else none
      else if q.isRaw || (unescape? q.body).isSome then some []
      else none
    some (.node trees.flatten)
  else do
    let texts ← parts.mapM fun q => if q.isRaw then some q.body else unescape? q.body
    some (.text texts.flatten)

/-- The strings at the front. -/
def takeQuotations : Tokens → List Quotation × Tokens
  | .quotation q :: ts =>
    let (qs, ts) := takeQuotations ts
    (q :: qs, ts)
  | ts => ([], ts)

/-! ## Operands -/

/-- A starred operand. -/
def starredOf (operand : Parse Tree) (ts : Tokens) : Option (Tree × Tokens) := do
  let ts ← operator "*" ts
  let (x, ts) ← operand ts
  some (.starred x, ts)

/-- Something that may be assigned to, starred or not. -/
def starTarget (r : Reader) : Parse Tree := fun ts => do
  let (x, ts) ← (starredOf r.primary ts).orElse fun _ => r.primary ts
  if x.isStarTarget then some (x, ts) else none

/-- One `for` clause of a comprehension. -/
def forClause (r : Reader) : Parse Tree := fun ts => do
  let ts := (keyword "async" ts).getD ts
  let ts ← keyword "for" ts
  let (targets, ts) ← oneOrTuple r.starTarget r.width ts
  let ts ← keyword "in" ts
  let (source, ts) ← r.condition ts
  let rec conditions : Nat → List Tree → Tokens → List Tree × Tokens
    | 0, read, ts => (read.reverse, ts)
    | fuel + 1, read, ts => match keyword "if" ts with
      | none => (read.reverse, ts)
      | some rest => match r.condition rest with
        | none => (read.reverse, ts)
        | some (c, ts) => conditions fuel (c :: read) ts
  let (tests, ts) := conditions r.width [] ts
  some (.node (targets :: source :: tests), ts)

def startsClause : Tokens → Bool
  | .keyword "for" :: _ => true
  | .keyword "async" :: .keyword "for" :: _ => true
  | _ => false

/-- One or more clauses. -/
def forClauses (clause : Parse Tree) : (fuel : Nat) → (read : List Tree) → Tokens →
    Option (List Tree × Tokens)
  | 0, _, _ => none
  | fuel + 1, read, ts =>
    if startsClause ts then do
      let (c, ts) ← clause ts
      forClauses clause fuel (c :: read) ts
    else if read.isEmpty then none
    else some (read.reverse, ts)

/-- The clauses of a comprehension, at least one. -/
def clauses (r : Reader) : Tokens → Option (List Tree × Tokens) :=
  forClauses r.forClause r.width []

/-- A starred item or a named expression. -/
def starNamed (r : Reader) : Parse Tree := fun ts =>
  (starredOf r.operand ts).orElse fun _ => r.named ts

def starExpression (r : Reader) : Parse Tree := fun ts =>
  (starredOf r.operand ts).orElse fun _ => r.expression ts

def starExpressions (r : Reader) : Parse Tree :=
  oneOrTuple r.starExpression r.width

def isStarred : Tree → Bool
  | .starred _ => true
  | _ => false

/-- `yield`, after that word. -/
def yielded (r : Reader) : Parse Tree := fun ts =>
  match keyword "from" ts with
  | some ts => do
    let (x, ts) ← r.expression ts
    some (.node [x], ts)
  | none => match r.starExpressions ts with
    | some (x, ts) => some (.node [x], ts)
    | none => some (.node [], ts)

/-- Items up to a closing bracket, the first of which was read already. -/
def itemsAfter (r : Reader) (first : Tree) (close : String) :
    Tokens → Option (List Tree × Tokens) := fun ts =>
  match operator close ts with
  | some ts => some ([first], ts)
  | none => do
    let ts ← operator "," ts
    match operator close ts with
    | some ts => some ([first], ts)
    | none => do
      let (items, _, ts) ← commaSeparated r.starNamed r.width [] ts
      let ts ← operator close ts
      some (first :: items, ts)

/-- After an opening parenthesis: a group, a tuple or a generator. -/
def parenthesised (r : Reader) : Parse Tree := fun ts =>
  match ts with
  | .op ")" :: ts => some (.tuple [], ts)
  | .keyword "yield" :: ts => do
    let (x, ts) ← r.yielded ts
    let ts ← operator ")" ts
    some (.group x, ts)
  | ts => do
    let (first, ts) ← r.starNamed ts
    match ts with
    | .op ")" :: ts => if isStarred first then none else some (.group first, ts)
    | .op "," :: _ => do
      let (items, ts) ← r.itemsAfter first ")" ts
      some (.tuple items, ts)
    | ts =>
      if isStarred first then none
      else do
        let (clauses, ts) ← r.clauses ts
        let ts ← operator ")" ts
        some (.node (first :: clauses), ts)

/-- After an opening square bracket: a list or a list comprehension. -/
def bracketed (r : Reader) : Parse Tree := fun ts =>
  match ts with
  | .op "]" :: ts => some (.list [], ts)
  | ts => do
    let (first, ts) ← r.starNamed ts
    if startsClause ts then
      if isStarred first then none
      else
        let (clauses, ts) ← r.clauses ts
        let ts ← operator "]" ts
        some (.node (first :: clauses), ts)
    else
      let (items, ts) ← r.itemsAfter first "]" ts
      some (.list items, ts)

/-- Entries of a table up to its closing brace: keys and values. -/
def tableEntries (r : Reader) : (fuel : Nat) → (keys values : List Tree) →
    Tokens → Option ((List Tree × List Tree) × Tokens)
  | 0, _, _, _ => none
  | fuel + 1, keys, values, ts =>
    let next (keys values : List Tree) (ts : Tokens) :
        Option ((List Tree × List Tree) × Tokens) := match ts with
      | .op "," :: ts => tableEntries r fuel keys values ts
      | .op "\x7d" :: ts => some ((keys.reverse, values.reverse), ts)
      | _ => none
    match ts with
    | .op "\x7d" :: ts => some ((keys.reverse, values.reverse), ts)
    | .op "**" :: ts => do
      let (v, ts) ← r.operand ts
      next keys (v :: values) ts
    | ts => do
      let (k, ts) ← r.expression ts
      let ts ← operator ":" ts
      let (v, ts) ← r.expression ts
      next (k :: keys) (v :: values) ts

/-- After an opening brace: a table, a set or one of their comprehensions. -/
def braced (r : Reader) : Parse Tree := fun ts =>
  let set (first : Tree) (ts : Tokens) : Option (Tree × Tokens) :=
    if startsClause ts then
      if isStarred first then none
      else do
        let (clauses, ts) ← r.clauses ts
        let ts ← operator "\x7d" ts
        some (.node (first :: clauses), ts)
    else do
      let (items, ts) ← r.itemsAfter first "\x7d" ts
      some (.node items, ts)
  match ts with
  | .op "\x7d" :: ts => some (.node [], ts)
  | .op "**" :: _ => do
    let ((keys, values), ts) ← r.tableEntries r.width [] [] ts
    some (.node (keys ++ values), ts)
  | .op "*" :: _ => do
    let (first, ts) ← r.starNamed ts
    set first ts
  | .name _ :: .op ":=" :: _ => do
    let (first, ts) ← r.named ts
    set first ts
  | ts => do
    let (first, ts) ← r.expression ts
    match operator ":" ts with
    | none => set first ts
    | some ts => do
      let (v, ts) ← r.expression ts
      if startsClause ts then
        let (clauses, ts) ← r.clauses ts
        let ts ← operator "\x7d" ts
        some (.node (first :: v :: clauses), ts)
      else match ts with
        | .op "\x7d" :: ts => some (.node [first, v], ts)
        | .op "," :: ts => do
          let ((keys, values), ts) ← r.tableEntries r.width [] [] ts
          some (.node (first :: keys ++ v :: values), ts)
        | _ => none

def atom (r : Reader) : Parse Tree := fun ts =>
  match ts with
  | .name id :: ts => some (.name (plainName id), ts)
  | .keyword w :: ts =>
    if w == "True" || w == "False" || w == "None" then some (.node [], ts) else none
  | .number kind :: ts => if kind == .unreadable then none else some (.node [], ts)
  | .quotation _ :: _ =>
    let (parts, ts) := takeQuotations ts
    (joined r.starExpressions parts).map (·, ts)
  | .op "(" :: ts => r.parenthesised ts
  | .op "[" :: ts => r.bracketed ts
  | .op "\x7b" :: ts => r.braced ts
  | .op "..." :: ts => some (.node [], ts)
  | _ => none

/-! ## Calls and items -/

/-- How far the arguments of a call have come: plain ones may only precede named ones, and
starred ones may not follow the entries of a table. -/
inductive ArgumentPhase where
  | plain
  | named
  | spread
  deriving DecidableEq

/-- Arguments up to the closing parenthesis; with `bare`, a generator may be the only one. -/
def arguments (r : Reader) (bare : Bool) : (fuel : Nat) → ArgumentPhase →
    (args keywords : List Tree) → Tokens → Option ((List Tree × List Tree) × Tokens)
  | 0, _, _, _, _ => none
  | fuel + 1, phase, args, keywords, ts =>
    let next (phase : ArgumentPhase) (args keywords : List Tree) (ts : Tokens) :
        Option ((List Tree × List Tree) × Tokens) := match ts with
      | .op "," :: ts => arguments r bare fuel phase args keywords ts
      | .op ")" :: ts => some ((args.reverse, keywords.reverse), ts)
      | _ => none
    match ts with
    | .op ")" :: ts => some ((args.reverse, keywords.reverse), ts)
    | .op "*" :: ts =>
      if phase = .spread then none
      else do
        let (x, ts) ← r.expression ts
        next phase (.starred x :: args) keywords ts
    | .op "**" :: ts => do
      let (x, ts) ← r.expression ts
      next .spread args (.keyword none x :: keywords) ts
    | .name id :: .op "=" :: ts => do
      let (x, ts) ← r.expression ts
      next (if phase = .spread then .spread else .named) args
        (.keyword (some (plainName id)) x :: keywords) ts
    | ts =>
      if phase = .plain then do
        let (x, ts) ← r.named ts
        if bare && args.isEmpty && startsClause ts then
          let (clauses, ts) ← r.clauses ts
          let ts ← operator ")" ts
          some (([.node (x :: clauses)], []), ts)
        else next phase (x :: args) keywords ts
      else none

/-- Arguments of a class heading, among which no bare generator may stand. -/
def classArguments (r : Reader) (ts : Tokens) :
    Option ((List Tree × List Tree) × Tokens) :=
  r.arguments false r.width .plain [] [] ts

/-- A slice, a starred item or a named expression between square brackets. -/
def sliceItem (r : Reader) : Parse Tree := fun ts =>
  let part (ts : Tokens) : List Tree × Tokens := match r.expression ts with
    | some (x, ts) => ([x], ts)
    | none => ([], ts)
  let afterColon (first : List Tree) (ts : Tokens) : Tree × Tokens :=
    let (second, ts) := part ts
    match operator ":" ts with
    | none => (.node (first ++ second), ts)
    | some ts =>
      let (third, ts) := part ts
      (.node (first ++ second ++ third), ts)
  match ts with
  | .op "*" :: _ => starredOf r.expression ts
  | .op ":" :: ts => some (afterColon [] ts)
  | .name _ :: .op ":=" :: _ => r.named ts
  | ts => do
    let (x, ts) ← r.expression ts
    match operator ":" ts with
    | some ts => some (afterColon [x] ts)
    | none => if startsWithOp ":=" ts then none else some (x, ts)

/-- The index after an opening square bracket, with the closing one. -/
def index (r : Reader) : Parse Tree := fun ts => do
  let (items, comma, ts) ← commaSeparated r.sliceItem r.width [] ts
  let ts ← operator "]" ts
  match items, comma with
  | [x], false => some (if isStarred x then .tuple [x] else x, ts)
  | items, _ => some (.tuple items, ts)

/-- Members, calls and items after an operand. -/
def trailers (r : Reader) : (fuel : Nat) → Tree → Parse Tree
  | 0, x, ts => some (x, ts)
  | fuel + 1, x, ts => match ts with
    | .op "." :: .name id :: ts => trailers r fuel (.member x (plainName id)) ts
    | .op "(" :: rest => match r.arguments true r.width .plain [] [] rest with
      | some ((args, keywords), ts) => trailers r fuel (.call x args keywords) ts
      | none => some (x, ts)
    | .op "[" :: rest => match r.index rest with
      | some (i, ts) => trailers r fuel (.item x i) ts
      | none => some (x, ts)
    | ts => some (x, ts)

def withTrailers (r : Reader) : Parse Tree := fun ts => do
  let (x, ts) ← r.atom ts
  r.trailers r.width x ts

/-! ## Operators -/

def awaited (r : Reader) : Parse Tree := fun ts =>
  match keyword "await" ts with
  | some ts => do
    let (x, ts) ← r.withTrailers ts
    some (.node [x], ts)
  | none => r.withTrailers ts

def power (r : Reader) : Parse Tree := fun ts => do
  let (x, ts) ← r.awaited ts
  match operator "**" ts with
  | none => some (x, ts)
  | some rest => match r.signed rest with
    | some (y, ts) => some (.node [x, y], ts)
    | none => some (x, ts)

/-- Signs in front of an operand. -/
def factor (r : Reader) : Parse Tree := fun ts =>
  match ts with
  | .op s :: rest =>
    if s == "+" || s == "-" || s == "~" then do
      let (x, ts) ← r.signed rest
      some (.node [x], ts)
    else r.power ts
  | ts => r.power ts

/-- Arithmetic and bitwise operators, from the tightest to the loosest. -/
def arithmetic (r : Reader) : Parse Tree :=
  let product := leftChain (r.factor) ["*", "/", "//", "%", "@"] r.width
  let sum := leftChain product ["+", "-"] r.width
  let shift := leftChain sum ["<<", ">>"] r.width
  let both := leftChain shift ["&"] r.width
  let either := leftChain both ["^"] r.width
  leftChain either ["|"] r.width

/-- A comparison sign at the front. -/
def comparisonSign : Tokens → Option Tokens
  | .op s :: ts => if ["==", "!=", "<=", "<", ">=", ">"].contains s then some ts else none
  | .keyword "in" :: ts => some ts
  | .keyword "not" :: .keyword "in" :: ts => some ts
  | .keyword "is" :: .keyword "not" :: ts => some ts
  | .keyword "is" :: ts => some ts
  | _ => none

/-- Negations in front of a comparison. -/
def negated (operand : Parse Tree) : (fuel : Nat) → Parse Tree
  | 0, _ => none
  | fuel + 1, ts => match keyword "not" ts with
    | some ts => do
      let (x, ts) ← negated operand fuel ts
      some (.node [x], ts)
    | none => operand ts

/-- Comparisons joined by negation, conjunction and disjunction. -/
def disjunction (r : Reader) : Parse Tree :=
  let comparison := sideBySide comparisonSign r.arithmetic r.width
  let conjunction := sideBySide (keyword "and") (negated comparison r.width) r.width
  sideBySide (keyword "or") conjunction r.width

/-! ## Parameters and whole expressions -/

/-- The parameters of a function read so far; each list has its last item first. -/
structure Parameters where
  positional : List Tree := []
  rest : List Tree := []
  named : List Tree := []
  namedDefaults : List Tree := []
  table : List Tree := []
  defaults : List Tree := []
  slash : Bool := false

/-- All parts in the order of a walk. -/
def Parameters.tree (p : Parameters) : Tree :=
  .node (p.positional.reverse ++ p.rest ++ p.named.reverse ++ p.namedDefaults.reverse ++ p.table ++
    p.defaults.reverse)

/-- Parameters up to a closing sign; `annotated` says whether types may stand beside them, and
`afterStar` whether only named ones may follow. -/
def parameters (r : Reader) (annotated : Bool) (close : String) : (fuel : Nat) →
    (afterStar : Bool) → Parameters → Tokens → Option (Tree × Tokens)
  | 0, _, _, _ => none
  | fuel + 1, afterStar, p, ts =>
    let next (afterStar : Bool) (p : Parameters) (ts : Tokens) : Option (Tree × Tokens) :=
      match operator close ts with
      | some ts => some (p.tree, ts)
      | none => do
        let ts ← operator "," ts
        parameters r annotated close fuel afterStar p ts
    let annotation (type : Parse Tree) (ts : Tokens) : Option (Tree × Tokens) :=
      if annotated then
        match operator ":" ts with
        | some ts => do
          let (x, ts) ← type ts
          some (.node [x], ts)
        | none => some (.node [], ts)
      else some (.node [], ts)
    match operator close ts with
    | some ts => some (p.tree, ts)
    | none => match ts with
      | .op "/" :: ts =>
        if p.slash || afterStar || p.positional.isEmpty then none
        else next afterStar { p with slash := true } ts
      | .op "*" :: .op "," :: .name id :: ts =>
        if afterStar then none
        else parameters r annotated close fuel true p (.name id :: ts)
      | .op "*" :: .name _ :: ts => do
        if afterStar then none
        let (x, ts) ← annotation r.starExpression ts
        next true { p with rest := [x] } ts
      | .op "**" :: .name _ :: ts => do
        let (x, ts) ← annotation r.expression ts
        let ts := (operator "," ts).getD ts
        let ts ← operator close ts
        some ({ p with table := [x] }.tree, ts)
      | .name _ :: ts => do
        let (x, ts) ← annotation r.expression ts
        match operator "=" ts with
        | some ts => do
          let (v, ts) ← r.expression ts
          if afterStar then
            next true { p with named := x :: p.named, namedDefaults := v :: p.namedDefaults } ts
          else
            next false { p with positional := x :: p.positional, defaults := v :: p.defaults } ts
        | none =>
          if afterStar then next true { p with named := x :: p.named } ts
          else if p.defaults.isEmpty then
            next false { p with positional := x :: p.positional } ts
          else none
      | _ => none

/-- A function without a name, or a condition with an optional choice by `if`. -/
def choice (r : Reader) : Parse Tree := fun ts =>
  match keyword "lambda" ts with
  | some ts => do
    let (parameters, ts) ← r.parameters false ":" r.width false {} ts
    let (body, ts) ← r.expression ts
    some (.node [parameters, body], ts)
  | none => do
    let (x, ts) ← r.disjunction ts
    let chosen : Option (Tree × Tokens) := do
      let ts ← keyword "if" ts
      let (test, ts) ← r.condition ts
      let ts ← keyword "else" ts
      let (other, ts) ← r.expression ts
      some (.node [test, x, other], ts)
    some (chosen.getD (x, ts))

/-- The reader for constructs nested at most `depth` deep. -/
def ofDepth (width : Nat) : (depth : Nat) → Reader
  | 0 => ⟨width, fun _ => none, fun _ => none, fun _ => none, fun _ => none, fun _ => none⟩
  | depth + 1 =>
    { width
      expression := fun ts => (ofDepth width depth).choice ts
      condition := fun ts => (ofDepth width depth).disjunction ts
      operand := fun ts => (ofDepth width depth).arithmetic ts
      signed := fun ts => (ofDepth width depth).factor ts
      primary := fun ts => (ofDepth width depth).withTrailers ts }

end Reader

end RepoAtlas.Script
