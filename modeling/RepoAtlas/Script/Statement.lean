import RepoAtlas.Script.Depth
import RepoAtlas.Script.Expression

/-!
# Statements in scripts

The grammar of statements and of whole scripts, on top of the grammar of expressions. Blocks nest,
and so do the patterns of `match`; both recursions are bounded by a depth.
-/

namespace RepoAtlas.Script

/-! ## Patterns of `match` -/

/-- A name that captures something: not the wildcard, and no start of a longer construct. -/
def captureName : Tokens → Option Tokens
  | .name id :: ts =>
    if id == ['_'] then none
    else match ts with
      | .op s :: _ => if s == "." || s == "(" || s == "=" then none else some ts
      | _ => some ts
  | _ => none

/-- A name with members of members. -/
def dottedName : Tokens → Option (Nat × Tokens)
  | .name _ :: .op "." :: .name id :: ts =>
    (dottedName (.name id :: ts)).map fun (n, ts) => (n + 1, ts)
  | .name _ :: ts => some (0, ts)
  | _ => none

/-- The tree of a name with so many members of members. -/
def membersTree : Nat → Tree
  | 0 => .node []
  | members + 1 => .node [membersTree members]

/-- A number with an optional minus sign; the flag says whether it is imaginary. -/
def signedNumber : Tokens → Option (Bool × Tokens)
  | .op "-" :: .number kind :: ts
  | .number kind :: ts => if kind == .unreadable then none else some (kind == .imaginary, ts)
  | _ => none

/-- A number, or a real and an imaginary one added. -/
def numberPattern (ts : Tokens) : Option Tokens := do
  let (imaginary, ts) ← signedNumber ts
  match ts with
  | .op s :: rest =>
    if s == "+" || s == "-" then
      match rest with
      | .number .imaginary :: ts => if imaginary then none else some ts
      | _ => none
    else some ts
  | _ => some ts

/-- Items of a pattern divided by commas up to a closing sign, possibly none. -/
def patternItems (item : Parse Tree) (close : String) : (fuel : Nat) → (read : List Tree) →
    Tokens → Option (List Tree × Tokens)
  | 0, _, _ => none
  | fuel + 1, read, ts => match operator close ts with
    | some ts => some (read.reverse, ts)
    | none => do
      let (x, ts) ← item ts
      match operator close ts with
      | some ts => some ((x :: read).reverse, ts)
      | none => do
        let ts ← operator "," ts
        patternItems item close fuel (x :: read) ts

/-- A starred name or wildcard, or a pattern. -/
def starPattern (pattern : Parse Tree) : Parse Tree := fun ts =>
  match operator "*" ts with
  | some (.name ['_'] :: ts) => some (.starred (.node []), ts)
  | some ts => (captureName ts).map (.starred (.node []), ·)
  | none => pattern ts

/-- Arguments of a class pattern: plain ones, then named ones. -/
def classPattern (pattern : Parse Tree) : (fuel : Nat) → (named : Bool) → (read : List Tree) →
    Tokens → Option (List Tree × Tokens)
  | 0, _, _, _ => none
  | fuel + 1, named, read, ts => match ts with
    | .op ")" :: ts => some (read.reverse, ts)
    | ts => do
      let (isNamed, ts) := match ts with
        | .name _ :: .op "=" :: ts => (true, ts)
        | ts => (false, ts)
      if named && !isNamed then none
      let (x, ts) ← pattern ts
      match ts with
      | .op ")" :: ts => some ((x :: read).reverse, ts)
      | .op "," :: ts => classPattern pattern fuel isNamed (x :: read) ts
      | _ => none

/-- Entries of a mapping pattern up to its closing brace; `literal` reads keys that are no
names. -/
def mappingPattern (pattern literal : Parse Tree) : (fuel : Nat) → (read : List Tree) → Tokens →
    Option (List Tree × Tokens)
  | 0, _, _ => none
  | fuel + 1, read, ts => match ts with
    | .op "\x7d" :: ts => some (read.reverse, ts)
    | .op "**" :: ts => do
      let ts ← captureName ts
      let ts := (operator "," ts).getD ts
      let ts ← operator "\x7d" ts
      some (read.reverse, ts)
    | ts => do
      let (key, ts) ← (literal ts).orElse fun _ => match dottedName ts with
        | some (members + 1, ts) => some (membersTree (members + 1), ts)
        | _ => none
      let ts ← operator ":" ts
      let (x, ts) ← pattern ts
      match ts with
      | .op "\x7d" :: ts => some ((x :: key :: read).reverse, ts)
      | .op "," :: ts => mappingPattern pattern literal fuel (x :: key :: read) ts
      | _ => none

/-- A literal in a pattern: a number, strings or a constant. -/
def literalPattern (r : Reader) : Parse Tree := fun ts =>
  match ts with
  | .quotation _ :: _ => r.atom ts
  | .keyword w :: rest =>
    if w == "None" || w == "True" || w == "False" then some (.node [], rest) else none
  | ts => (numberPattern ts).map (.node [], ·)

def closedPattern (r : Reader) (pattern : Parse Tree) : Parse Tree := fun ts =>
  match literalPattern r ts with
  | some x => some x
  | none => match captureName ts with
    | some ts => some (.node [], ts)
    | none => match ts with
      | .name ['_'] :: ts => some (.node [], ts)
      | .name _ :: _ => do
        let (members, ts) ← dottedName ts
        match ts with
        | .op "(" :: ts => do
          let (items, ts) ← classPattern pattern r.width false [] ts
          some (.node (membersTree members :: items), ts)
        | .op "=" :: _ => none
        | ts => if members = 0 then none else some (membersTree members, ts)
      | .op "(" :: .op ")" :: ts => some (.node [], ts)
      | .op "(" :: ts => do
        let (first, ts) ← starPattern pattern ts
        match ts with
        | .op ")" :: ts => if Reader.isStarred first then none else some (first, ts)
        | .op "," :: ts => do
          let (items, ts) ← patternItems (starPattern pattern) ")" r.width [] ts
          some (.node (first :: items), ts)
        | _ => none
      | .op "[" :: ts => do
        let (items, ts) ← patternItems (starPattern pattern) "]" r.width [] ts
        some (.node items, ts)
      | .op "\x7b" :: ts => do
        let (items, ts) ← mappingPattern pattern (literalPattern r) r.width [] ts
        some (.node items, ts)
      | _ => none

/-- Alternatives with an optional name for what matched. -/
def asPattern (r : Reader) (pattern : Parse Tree) : Parse Tree := fun ts => do
  let (x, ts) ← sideBySide (operator "|") (closedPattern r pattern) r.width ts
  match keyword "as" ts with
  | none => some (x, ts)
  | some rest => match captureName rest with
    | some ts => some (.node [x], ts)
    | none => some (x, ts)

def patternOfDepth (r : Reader) : (depth : Nat) → Parse Tree
  | 0 => fun _ => none
  | depth + 1 => asPattern r fun ts => patternOfDepth r depth ts

/-- The pattern of a `case`: a sequence without brackets, or one pattern. -/
def casePattern (r : Reader) : Parse Tree := fun ts => do
  let item := starPattern (patternOfDepth r r.width)
  let (items, comma, ts) ← commaSeparated item r.width [] ts
  match items, comma with
  | [x], false => if Reader.isStarred x then none else some (x, ts)
  | items, _ => some (.node items, ts)

/-! ## Simple statements -/

/-- A name with dots, which leaves no tree. -/
def moduleName (ts : Tokens) : Option Tokens := (dottedName ts).map (·.2)

/-- An optional new name. -/
def renamed (ts : Tokens) : Option Tokens :=
  match keyword "as" ts with
  | none => some ts
  | some (.name _ :: ts) => some ts
  | some _ => none

/-- Things divided by commas, none of which ends in a comma. -/
def listed (p : Tokens → Option Tokens) : (fuel : Nat) → Tokens → Option Tokens
  | 0, _ => none
  | fuel + 1, ts => do
    let ts ← p ts
    match operator "," ts with
    | none => some ts
    | some ts => listed p fuel ts

def plainNameToken : Tokens → Option Tokens
  | .name _ :: ts => some ts
  | _ => none

/-- The names of an import in parentheses, which may end in a comma. -/
def enclosedNames (p : Tokens → Option Tokens) : (fuel : Nat) → Tokens → Option Tokens
  | 0, _ => none
  | fuel + 1, ts => do
    let ts ← p ts
    match ts with
    | .op ")" :: ts => some ts
    | .op "," :: .op ")" :: ts => some ts
    | .op "," :: ts => enclosedNames p fuel ts
    | _ => none

def skipDots : Tokens → Tokens × Bool
  | .op s :: ts => if s == "." || s == "..." then ((skipDots ts).1, true) else (.op s :: ts, false)
  | ts => (ts, false)

/-- `from`, after that word. -/
def fromImport (width : Nat) (ts : Tokens) : Option Tokens := do
  let (ts, dots) := skipDots ts
  let ts ← match moduleName ts with
    | some ts => some ts
    | none => if dots then some ts else none
  let ts ← keyword "import" ts
  let item : Tokens → Option Tokens := fun ts => plainNameToken ts >>= renamed
  match ts with
  | .op "*" :: ts => some ts
  | .op "(" :: ts => enclosedNames item width ts
  | ts => listed item width ts

def augmentedSigns : List String :=
  ["+=", "-=", "*=", "@=", "/=", "%=", "&=", "|=", "^=", "<<=", ">>=", "**=", "//="]

/-- The right side of an assignment. -/
def assigned (r : Reader) : Parse Tree := fun ts =>
  match keyword "yield" ts with
  | some ts => r.yielded ts
  | none => r.starExpressions ts

/-- Values divided by equals signs, all but the last of which are assigned to. -/
def assignments (r : Reader) : (fuel : Nat) → (targets : List Tree) → Parse Tree
  | 0, _, _ => none
  | fuel + 1, targets, ts => do
    let isYield := (keyword "yield" ts).isSome
    let (x, ts) ← assigned r ts
    match operator "=" ts with
    | none => some (.node (targets.reverse ++ [x]), ts)
    | some ts =>
      if isYield || !x.isStarTarget then none else assignments r fuel (x :: targets) ts

/-- An expression, or an assignment of one of three kinds. -/
def expressionStatement (r : Reader) : Parse Tree := fun ts => do
  let (x, rest) ← r.starExpressions ts
  match rest with
  | .op ":" :: ts =>
    if x.isSingleTarget then do
      let (type, ts) ← r.expression ts
      match operator "=" ts with
      | none => some (.node [x, type], ts)
      | some ts => do
        let (v, ts) ← assigned r ts
        some (.node [x, type, v], ts)
    else none
  | .op s :: ts =>
    if s == "=" then
      if x.isStarTarget then assignments r r.width [x] ts else none
    else if augmentedSigns.contains s then
      if x.isSingleTarget then do
        let (v, ts) ← assigned r ts
        some (.node [x, v], ts)
      else none
    else some (.node [x], rest)
  | rest => some (.node [x], rest)

def deletion (r : Reader) : Parse Tree := fun ts => do
  let item : Parse Tree := fun ts => do
    let (x, ts) ← r.withTrailers ts
    if x.isDeletable then some (x, ts) else none
  let (items, _, ts) ← commaSeparated item r.width [] ts
  match ts with
  | .op ";" :: _ => some (.node items, ts)
  | .newline :: _ => some (.node items, ts)
  | _ => none

def simpleStatement (r : Reader) : Parse Tree := fun ts =>
  let leaf (ts : Option Tokens) : Option (Tree × Tokens) := ts.map (.node [], ·)
  match ts with
  | .keyword w :: rest => match w with
    | "pass" | "break" | "continue" => some (.node [], rest)
    | "return" => match r.starExpressions rest with
      | some (x, ts) => some (.node [x], ts)
      | none => some (.node [], rest)
    | "raise" => match r.expression rest with
      | none => some (.node [], rest)
      | some (x, ts) => match keyword "from" ts with
        | none => some (.node [x], ts)
        | some ts => do
          let (cause, ts) ← r.expression ts
          some (.node [x, cause], ts)
    | "global" | "nonlocal" => leaf (listed plainNameToken r.width rest)
    | "import" => leaf (listed (fun ts => moduleName ts >>= renamed) r.width rest)
    | "from" => leaf (fromImport r.width rest)
    | "del" => deletion r rest
    | "assert" => do
      let (x, ts) ← r.expression rest
      match operator "," ts with
      | none => some (.node [x], ts)
      | some ts => do
        let (message, ts) ← r.expression ts
        some (.node [x, message], ts)
    | "yield" => do
      let (x, ts) ← r.yielded rest
      some (.node [x], ts)
    | _ => expressionStatement r ts
  | ts => expressionStatement r ts

/-- Simple statements on one line, with the end of the line. -/
def simpleStatements (r : Reader) : (fuel : Nat) → (read : List Tree) → Tokens →
    Option (List Tree × Tokens)
  | 0, _, _ => none
  | fuel + 1, read, ts => do
    let (x, ts) ← simpleStatement r ts
    match ts with
    | .newline :: ts => some ((x :: read).reverse, ts)
    | .op ";" :: .newline :: ts => some ((x :: read).reverse, ts)
    | .op ";" :: ts => simpleStatements r fuel (x :: read) ts
    | _ => none

/-! ## Compound statements -/

abbrev Block := Tokens → Option (List Tree × Tokens)

/-- A colon and the block after it. -/
def colonBlock (block : Block) : Block := fun ts => operator ":" ts >>= block

/-- An optional block after a word. -/
def optionalBlock (block : Block) (word : String) : Block := fun ts =>
  match keyword word ts with
  | none => some ([], ts)
  | some ts => colonBlock block ts

/-- After `if` or `elif`: a test, a block and what else there is. -/
def conditional (r : Reader) (block : Block) : (fuel : Nat) → Parse Tree
  | 0, _ => none
  | fuel + 1, ts => do
    let (test, ts) ← r.named ts
    let (body, ts) ← colonBlock block ts
    match keyword "elif" ts with
    | some ts => do
      let (other, ts) ← conditional r block fuel ts
      some (.node (test :: body ++ [other]), ts)
    | none => do
      let (others, ts) ← optionalBlock block "else" ts
      some (.node (test :: body ++ others), ts)

def whileLoop (r : Reader) (block : Block) : Parse Tree := fun ts => do
  let (test, ts) ← r.named ts
  let (body, ts) ← colonBlock block ts
  let (others, ts) ← optionalBlock block "else" ts
  some (.node (test :: body ++ others), ts)

def forLoop (r : Reader) (block : Block) : Parse Tree := fun ts => do
  let (target, ts) ← oneOrTuple r.starTarget r.width ts
  let ts ← keyword "in" ts
  let (source, ts) ← r.starExpressions ts
  let (body, ts) ← colonBlock block ts
  let (others, ts) ← optionalBlock block "else" ts
  some (.node (target :: source :: body ++ others), ts)

/-- One resource of a `with`, whose name a comma, a parenthesis or a colon has to follow. -/
def withItem (r : Reader) : Parse Tree := fun ts => do
  let (x, ts) ← r.expression ts
  let bound : Option (Tree × Tokens) := do
    let ts ← keyword "as" ts
    let (target, ts) ← r.starTarget ts
    match ts with
    | .op s :: _ => if s == "," || s == ")" || s == ":" then some (target, ts) else none
    | _ => none
  match bound with
  | some (target, ts) => some (.node [x, target], ts)
  | none => some (.node [x], ts)

/-- The resources of a `with`, in parentheses or not, with the colon after them. -/
def withItems (r : Reader) : Tokens → Option (List Tree × Tokens) := fun ts =>
  let enclosed : Option (List Tree × Tokens) := do
    let ts ← operator "(" ts
    let (items, _, ts) ← commaSeparated (withItem r) r.width [] ts
    let ts ← operator ")" ts
    let ts ← operator ":" ts
    some (items, ts)
  enclosed.orElse fun _ => do
    let (items, comma, ts) ← commaSeparated (withItem r) r.width [] ts
    if comma then none
    let ts ← operator ":" ts
    some (items, ts)

def withBlock (r : Reader) (block : Block) : Parse Tree := fun ts => do
  let (items, ts) ← withItems r ts
  let (body, ts) ← block ts
  some (.node (items ++ body), ts)

/-- Handlers of a `try`, all of them with a star or all without. -/
def handlers (r : Reader) (block : Block) (star : Bool) : (fuel : Nat) → (read : List Tree) →
    Tokens → Option (List Tree × Tokens)
  | 0, _, _ => none
  | fuel + 1, read, ts => match keyword "except" ts with
    | none => some (read.reverse, ts)
    | some ts => do
      let isStar := startsWithOp "*" ts
      if isStar != star then none
      let ts := (operator "*" ts).getD ts
      match ts with
      | .op ":" :: rest => do
        if star then none
        let (body, ts) ← block rest
        handlers r block star fuel (.node body :: read) ts
      | ts => do
        let (type, ts) ← r.expression ts
        let ts ← renamed ts
        let (body, ts) ← colonBlock block ts
        handlers r block star fuel (.node (type :: body) :: read) ts

def tryBlock (r : Reader) (block : Block) : Parse Tree := fun ts => do
  let (body, ts) ← colonBlock block ts
  let star := match ts with
    | .keyword "except" :: .op "*" :: _ => true
    | _ => false
  let (caught, ts) ← handlers r block star r.width [] ts
  let (others, ts) ← if caught.isEmpty then some ([], ts) else optionalBlock block "else" ts
  let hasFinally := (keyword "finally" ts).isSome
  if caught.isEmpty && !hasFinally then none
  let (last, ts) ← optionalBlock block "finally" ts
  some (.node (body ++ caught ++ others ++ last), ts)

/-- A function after `def`, with the decorators in front of it. -/
def functionDefinition (r : Reader) (block : Block) (decorators : List Tree) : Parse Tree
  | .name _ :: .op "(" :: ts => do
    let (parameters, ts) ← r.parameters true ")" r.width false {} ts
    let (result, ts) ← match operator "->" ts with
      | none => some ([], ts)
      | some ts => do
        let (x, ts) ← r.expression ts
        some ([x], ts)
    let (body, ts) ← colonBlock block ts
    some (.node (parameters :: body ++ decorators ++ result), ts)
  | _ => none

/-- A class after `class`. -/
def classDefinition (r : Reader) (block : Block) (decorators : List Tree) : Parse Tree
  | .name _ :: ts => do
    let ((bases, keywords), ts) ← match operator "(" ts with
      | none => some (([], []), ts)
      | some ts => r.classArguments ts
    let (body, ts) ← colonBlock block ts
    some (.node (bases ++ keywords ++ body ++ decorators), ts)
  | _ => none

/-- Decorators, each on a line of its own. -/
def takeDecorators (r : Reader) : (fuel : Nat) → (read : List Tree) → Tokens →
    Option (List Tree × Tokens)
  | 0, _, _ => none
  | fuel + 1, read, ts => match operator "@" ts with
    | none => some (read.reverse, ts)
    | some ts => do
      let (x, ts) ← r.named ts
      match ts with
      | .newline :: ts => takeDecorators r fuel (x :: read) ts
      | _ => none

def decorated (r : Reader) (block : Block) : Parse Tree := fun ts => do
  let (decorators, ts) ← takeDecorators r r.width [] ts
  match ts with
  | .keyword "def" :: ts => functionDefinition r block decorators ts
  | .keyword "async" :: .keyword "def" :: ts => functionDefinition r block decorators ts
  | .keyword "class" :: ts => classDefinition r block decorators ts
  | _ => none

/-- The cases of a `match`, at least one, up to the end of their indentation. -/
def matchCases (r : Reader) (block : Block) : (fuel : Nat) → (read : List Tree) → Tokens →
    Option (List Tree × Tokens)
  | 0, _, _ => none
  | fuel + 1, read, ts => match ts with
    | .dedent :: ts => if read.isEmpty then none else some (read.reverse, ts)
    | .name id :: ts =>
      if id == "case".toList then do
        let (pattern, ts) ← casePattern r ts
        let (guarded, ts) ← match keyword "if" ts with
          | none => some ([], ts)
          | some ts => do
            let (x, ts) ← r.named ts
            some ([x], ts)
        let (body, ts) ← colonBlock block ts
        matchCases r block fuel (.node (pattern :: guarded ++ body) :: read) ts
      else none
    | _ => none

/-- `match`, after that word. -/
def matchBlock (r : Reader) (block : Block) : Parse Tree := fun ts => do
  let (subject, ts) ← do
    let (items, comma, ts) ← commaSeparated r.starNamed r.width [] ts
    match items, comma with
    | [x], false => if Reader.isStarred x then none else some (x, ts)
    | items, _ => some (Tree.tuple items, ts)
  match ts with
  | .op ":" :: .newline :: .indent :: ts => do
    let (cases, ts) ← matchCases r block r.width [] ts
    some (.node (subject :: cases), ts)
  | _ => none

/-- One statement, or the simple statements of a line. -/
def statement (r : Reader) (block : Block) : Block := fun ts =>
  let one (p : Option (Tree × Tokens)) : Option (List Tree × Tokens) :=
    p.map fun (x, ts) => ([x], ts)
  let simple := fun (_ : Unit) => simpleStatements r r.width [] ts
  match ts with
  | .keyword w :: rest => match w with
    | "if" => one (conditional r block r.width rest)
    | "while" => one (whileLoop r block rest)
    | "for" => one (forLoop r block rest)
    | "with" => one (withBlock r block rest)
    | "try" => one (tryBlock r block rest)
    | "def" => one (functionDefinition r block [] rest)
    | "class" => one (classDefinition r block [] rest)
    | "async" => match rest with
      | .keyword "def" :: rest => one (functionDefinition r block [] rest)
      | .keyword "with" :: rest => one (withBlock r block rest)
      | .keyword "for" :: rest => one (forLoop r block rest)
      | _ => none
    | _ => simple ()
  | .op "@" :: _ => one (decorated r block ts)
  | .name id :: rest =>
    if id == "match".toList then
      match matchBlock r block rest with
      | some (x, ts) => some ([x], ts)
      | none => simple ()
    else simple ()
  | _ => simple ()

/-- Statements up to the end of their indentation or of the script. -/
def statements (r : Reader) (block : Block) : (fuel : Nat) → (read : List (List Tree)) → Block
  | 0, _, _ => none
  | fuel + 1, read, ts => match ts with
    | .dedent :: _ => some (read.reverse.flatten, ts)
    | .stop :: _ => some (read.reverse.flatten, ts)
    | ts => match statement r block ts with
      | none => none
      | some (xs, ts) => statements r block fuel (xs :: read) ts

/-- Simple statements on the same line, or statements indented on the lines below. -/
def blockOfDepth (r : Reader) : (depth : Nat) → Block
  | 0, _ => none
  | depth + 1, ts => match ts with
    | .newline :: .indent :: ts => do
      let (xs, ts) ← statements r (fun ts => blockOfDepth r depth ts) r.width [] ts
      match ts with
      | .dedent :: ts => if xs.isEmpty then none else some (xs, ts)
      | _ => none
    | ts => simpleStatements r r.width [] ts

/-- Why a text cannot be read as a script. -/
inductive ScriptError where
  | malformed
  /-- Constructs are nested too deep for its tree. -/
  | tooDeep
  /-- Reading it takes more room than there is. -/
  | exhausted
  deriving DecidableEq, Repr

/-- The statements of a whole script; `none` when it is no script. -/
def parseTokens? (width : Nat) (ts : Tokens) : Option Tree := do
  let r := Reader.ofDepth width width
  let (xs, ts) ← statements r (blockOfDepth r width) width [] ts
  match ts with
  | [.stop] => some (.node xs)
  | _ => none

/-- The tree of a whole script. -/
def parse (t : Text) : Except ScriptError Tree :=
  match tokens? t with
  | none => .error .malformed
  | some ts =>
    if exhaustsRoom ts then .error .exhausted
    else match parseTokens? (t.length + 2) ts with
      | none => .error .malformed
      | some tree => if tree.deeperThan maxDepth then .error .tooDeep else .ok tree

end RepoAtlas.Script
