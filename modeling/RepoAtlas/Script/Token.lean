import RepoAtlas.Script.Name

/-!
# Tokens of scripts

Scripts are cut into tokens before their grammar is looked at. Indentation becomes tokens of its
own, line ends inside brackets and after a backslash vanish, and comments are dropped. A text that
cannot be cut into tokens is no script.
-/

namespace RepoAtlas.Script

/-- A string between quotes as it is written, with the letters in front of it told apart. -/
structure Quotation where
  isRaw : Bool := false
  isBytes : Bool := false
  isFormat : Bool := false
  body : Text
  deriving DecidableEq, Repr

inductive NumberKind where
  | real
  | imaginary
  /-- A decimal integer with too many digits to be read. -/
  | unreadable
  deriving DecidableEq, Repr

inductive Token where
  | name (t : Text)
  | keyword (word : String)
  | number (kind : NumberKind)
  | quotation (q : Quotation)
  | op (sign : String)
  | newline
  | indent
  | dedent
  | stop
  deriving DecidableEq, Repr

def keywords : List String :=
  ["False", "None", "True", "and", "as", "assert", "async", "await", "break", "class", "continue",
   "def", "del", "elif", "else", "except", "finally", "for", "from", "global", "if", "import",
   "in", "is", "lambda", "nonlocal", "not", "or", "pass", "raise", "return", "try", "while",
   "with", "yield"]

def wordToken (t : Text) : Token :=
  let word := String.ofList t
  if keywords.contains word then .keyword word else .name t

/-! ## Numbers -/

/-- Further digits of a decimal number; an underscore stands between two digits. -/
def decimalTail : Text → Option Text
  | [] => some []
  | ['_'] => none
  | '_' :: c :: t => if c.isDigit then decimalTail t else none
  | c :: t => if c.isDigit then decimalTail t else some (c :: t)

/-- Words that may follow a number without a space. -/
def numberFollowers : List Text := ["and", "else", "for", "if", "in", "is", "or", "not"]

/-- A number may not run into a name. -/
def numberEnd (t : Text) : Option Text :=
  match t with
  | [] => some t
  | c :: _ =>
    if numberFollowers.any (Text.startsWith · t) then some t
    else if isNameChar c then none
    else some t

/-- Digits in another base, at least one, with single underscores in front of or between them. -/
def basedDigits (p : Char → Bool) : (started : Bool) → Text → Option Text
  | started, [] => if started then some [] else none
  | _, ['_'] => none
  | _, '_' :: c :: t => if p c then basedDigits p true t else none
  | started, c :: t =>
    if p c then basedDigits p true t else if started then some (c :: t) else none

/-- Zeros at the start of a decimal number. -/
def zeros : Text → Option Text
  | ['_'] => none
  | '_' :: c :: t =>
    if c == '0' then zeros t else if c.isDigit then some (c :: t) else none
  | '0' :: t => zeros t
  | t => some t

/-- What may follow the digits of a number: an exponent and the mark of an imaginary number. -/
def afterDigits (t : Text) : Option (NumberKind × Text) :=
  let mark (t : Text) : Option (NumberKind × Text) := match t with
    | 'j' :: t | 'J' :: t => (numberEnd t).map (.imaginary, ·)
    | t => (numberEnd t).map (.real, ·)
  match t with
  | [] => some (.real, [])
  | e :: rest =>
    if e == 'e' || e == 'E' then
      match rest with
      | [] => (numberEnd t).map (.real, ·)
      | c :: digits =>
        if c == '+' || c == '-' then
          match digits with
          | [] => none
          | d :: digits => if d.isDigit then decimalTail digits >>= mark else none
        else if c.isDigit then decimalTail digits >>= mark
        else (numberEnd t).map (.real, ·)
    else mark t

/-- What follows the point of a number. -/
def afterPoint (t : Text) : Option (NumberKind × Text) :=
  match t with
  | c :: rest => if c.isDigit then decimalTail rest >>= afterDigits else afterDigits t
  | [] => some (.real, [])

/-- The longest decimal integer that is read. -/
def maxIntegerDigits : Nat := 4300

/-- A number that starts with a digit. -/
def number? (t : Text) : Option (NumberKind × Text) :=
  let tail (isInteger : Bool) (rest : Text) : Option (NumberKind × Text) := match rest with
    | '.' :: rest => afterPoint rest
    | c :: _ =>
      if c == 'e' || c == 'E' || c == 'j' || c == 'J' then afterDigits rest
      else if isInteger then (numberEnd rest).map (.real, ·)
      else none
    | [] => if isInteger then some (.real, []) else none
  let based (p : Char → Bool) (rest : Text) : Option (NumberKind × Text) :=
    (basedDigits p false rest >>= numberEnd).map (.real, ·)
  match t with
  | '0' :: 'x' :: rest | '0' :: 'X' :: rest =>
    based (fun c => c.isDigit || ('a' ≤ c.toLower && c.toLower ≤ 'f')) rest
  | '0' :: 'o' :: rest | '0' :: 'O' :: rest => based (fun c => '0' ≤ c && c ≤ '7') rest
  | '0' :: 'b' :: rest | '0' :: 'B' :: rest => based (fun c => c == '0' || c == '1') rest
  | '0' :: rest => do
    match ← zeros rest with
    | c :: more =>
      if c.isDigit then decimalTail more >>= tail false
      else tail true (c :: more)
    | [] => tail true []
  | _ :: rest => do
    let after ← decimalTail rest
    let (kind, after') ← tail true after
    let digits := (t.takeWhile fun c => c.isDigit || c == '_').filter Char.isDigit
    if maxIntegerDigits < digits.length && kind == .real && after'.length == after.length then
      some (.unreadable, after')
    else some (kind, after')
  | [] => none

/-! ## Strings -/

/-- The rest of a string in single quotes; `read` holds its characters, last one first. -/
def lineBody (quote : Char) (read : Text) : Text → Option (Text × Text)
  | [] => none
  | '\\' :: c :: t => lineBody quote (c :: '\\' :: read) t
  | c :: t =>
    if c == quote then some (read.reverse, t)
    else if c == '\n' then none
    else lineBody quote (c :: read) t

/-- The rest of a string in triple quotes. -/
def longBody (quote : Char) (read : Text) : Text → Option (Text × Text)
  | [] => none
  | '\\' :: c :: t => longBody quote (c :: '\\' :: read) t
  | c :: t =>
    if c == quote then
      match t with
      | a :: b :: rest =>
        if a == quote && b == quote then some (read.reverse, rest)
        else longBody quote (c :: read) t
      | _ => none
    else longBody quote (c :: read) t

/-- A string after its opening quote. -/
def quotationBody (quote : Char) (t : Text) : Option (Text × Text) :=
  match t with
  | a :: b :: rest =>
    if a == quote then
      if b == quote then longBody quote [] rest else some ([], b :: rest)
    else lineBody quote [] t
  | _ => lineBody quote [] t

/-- Letters that may stand in front of a string, in either case and any order. -/
def quotationMarks : List (String × Quotation) :=
  [("", { body := [] }), ("u", { body := [] }), ("r", { isRaw := true, body := [] }),
   ("b", { isBytes := true, body := [] }), ("f", { isFormat := true, body := [] }),
   ("br", { isBytes := true, isRaw := true, body := [] }),
   ("rb", { isBytes := true, isRaw := true, body := [] }),
   ("fr", { isFormat := true, isRaw := true, body := [] }),
   ("rf", { isFormat := true, isRaw := true, body := [] })]

/-- A string with the letters in front of it. -/
def quotation? (t : Text) : Option (Option (Quotation × Text)) :=
  let letters := t.takeWhile Char.isAlpha
  if 2 < letters.length then none
  else match t.drop letters.length with
    | q :: rest =>
      if q == '\'' || q == '"' then
        (quotationMarks.lookup (String.ofList (letters.map Char.toLower))).map fun marks =>
          (quotationBody q rest).map fun (body, rest) => ({ marks with body }, rest)
      else none
    | [] => none

/-! ## Signs -/

/-- Signs of several characters, longer ones first, then single characters. -/
def signs : List String :=
  ["**=", "//=", ">>=", "<<=", "...", "!=", "%=", "&=", "**", "*=", "+=", "-=", "->", "//", "/=",
   ":=", "<<", "<=", "<>", "==", ">=", ">>", "@=", "^=", "|=", "%", "&", "(", ")", "*", "+", ",",
   "-", ".", "/", ":", ";", "<", "=", ">", "@", "[", "]", "^", "\x7b", "|", "\x7d", "~"]

def sign? (t : Text) : Option (String × Text) :=
  signs.findSome? fun s => (Text.after? s.toList t).map (s, ·)

/-- How deep brackets may be nested. -/
def maxBrackets : Nat := 200

/-- The open brackets after a sign, innermost first; `none` for one too many or a wrong one. -/
def brackets? (sign : String) (opened : List String) : Option (List String) :=
  let close (left : String) : Option (List String) := match opened with
    | s :: rest => if s == left then some rest else none
    | [] => none
  if sign == "(" || sign == "[" || sign == "\x7b" then
    if maxBrackets ≤ opened.length then none else some (sign :: opened)
  else if sign == ")" then close "("
  else if sign == "]" then close "["
  else if sign == "\x7d" then close "\x7b"
  else some opened

/-! ## Lines and indentation -/

/-- Indentation measured with tab stops every eight columns, and with every tab one column. Both
have to agree on which of two lines is indented deeper. -/
structure Indent where
  wide : Nat
  narrow : Nat
  deriving DecidableEq

/-- Measures the indentation of a line. A backslash goes on in the next line; the first one that
follows white space fixes the measure. -/
def measure (at_ : Indent) (fixed : Nat) : Text → Option (Indent × Text)
  | ' ' :: t => measure ⟨at_.wide + 1, at_.narrow + 1⟩ fixed t
  | '\t' :: t => measure ⟨(at_.wide / 8 + 1) * 8, at_.narrow + 1⟩ fixed t
  | '\x0c' :: t => measure ⟨0, 0⟩ fixed t
  | '\\' :: '\n' :: t =>
    if t.isEmpty then none else measure at_ (if fixed = 0 then at_.wide else fixed) t
  | '\\' :: _ => none
  | t => some (if fixed = 0 then at_ else ⟨fixed, fixed⟩, t)

/-- How many levels of indentation there may be. -/
def maxIndents : Nat := 100

/-- Leaves levels of indentation until one fits. -/
def leave (at_ : Indent) : (levels : List Indent) → (left : List Token) →
    Option (List Token × List Indent)
  | [], _ => none
  | level :: levels, left =>
    if at_.wide < level.wide then leave at_ levels (.dedent :: left)
    else if at_ = level then some (left, level :: levels)
    else none

/-- The tokens for a change of indentation and the levels after it. -/
def indentation (at_ : Indent) (levels : List Indent) : Option (List Token × List Indent) :=
  match levels with
  | [] => none
  | level :: _ =>
    if level.wide < at_.wide then
      if maxIndents ≤ levels.length || at_.narrow ≤ level.narrow then none
      else some ([.indent], at_ :: levels)
    else leave at_ levels []

structure Lexer where
  opened : List String := []
  levels : List Indent := [⟨0, 0⟩]
  /-- Tokens found so far, last one first. -/
  found : List Token := []

/-- Cuts the rest of a text into tokens; `lineStart` says that a line starts here. -/
def scan : (fuel : Nat) → (lineStart : Bool) → Lexer → Text → Option (List Token)
  | 0, _, _, _ => none
  | fuel + 1, true, s, t => do
    let (at_, t) ← measure ⟨0, 0⟩ 0 t
    match t with
    | '#' :: t => match t.dropWhile (· != '\n') with
      | _ :: t => scan fuel true s t
      | [] => scan fuel true s []
    | '\n' :: t => scan fuel true s t
    | t =>
      if s.opened.isEmpty then
        let (tokens, levels) ← indentation at_ s.levels
        scan fuel false { s with levels, found := tokens ++ s.found } t
      else scan fuel false s t
  | fuel + 1, false, s, t => match t with
    | [] => if s.opened.isEmpty then some (.stop :: s.found).reverse else none
    | c :: rest =>
      if c == ' ' || c == '\t' || c == '\x0c' then scan fuel false s rest
      else if c == '#' then scan fuel false s (rest.dropWhile (· != '\n'))
      else if c == '\n' then
        scan fuel true (if s.opened.isEmpty then { s with found := .newline :: s.found } else s) rest
      else if c == '\\' then match rest with
        | '\n' :: x :: rest => scan fuel false s (x :: rest)
        | _ => none
      else match quotation? t with
        | some none => none
        | some (some (q, t)) => scan fuel false { s with found := .quotation q :: s.found } t
        | none =>
          if c.isDigit || (c == '.' && rest.head?.any Char.isDigit) then do
            let (kind, t) ← if c == '.' then afterPoint rest else number? t
            scan fuel false { s with found := .number kind :: s.found } t
          else if isNameChar c then
            let (word, t) := t.span isNameChar
            if isName word then scan fuel false { s with found := wordToken word :: s.found } t
            else none
          else do
            let (sign, t) ← sign? t
            let opened ← brackets? sign s.opened
            scan fuel false { s with opened, found := .op sign :: s.found } t

/-- Every line end is a line feed, and the last line has one; `read` holds what was read, last
character first. -/
def normalLines (read : Text) : Text → Text
  | [] => match read with
    | [] => []
    | '\n' :: _ => read.reverse
    | _ => ('\n' :: read).reverse
  | '\r' :: '\n' :: t => normalLines ('\n' :: read) t
  | '\r' :: t => normalLines ('\n' :: read) t
  | c :: t => normalLines (c :: read) t

/-- The tokens of a script; `none` when it holds something that is no token. -/
def tokens? (t : Text) : Option (List Token) :=
  if t.contains '\x00' then none
  else
    let t := normalLines [] t
    scan (2 * t.length + 4) true {} t

end RepoAtlas.Script
