import RepoAtlas.Document.Json

/-!
# TOML

A reader for TOML 1.0 documents. A document is read statement by statement into one table, and
beside it the reader keeps which tables were declared and which values are closed, because a
table may be declared once and a value written inline may not be extended.
-/

namespace RepoAtlas.Toml

open SyntaxError

abbrev Result (α : Type) := Except SyntaxError (α × Text)

/-- The parts of a dotted key. -/
abbrev Key := List Text

def depthLimit : Nat := 300

def isSpace (c : Char) : Bool := c == ' ' || c == '\t'

def isSpaceOrNewline (c : Char) : Bool := isSpace c || c == '\n'

def skip (t : Text) : Text := t.dropWhile isSpace

/-- Control characters, which neither comments nor strings may hold; a tab is allowed. -/
def isForbidden (c : Char) : Bool := (c.toNat < 32 && c != '\t') || c.toNat == 127

def isForbiddenInLines (c : Char) : Bool := isForbidden c && c != '\n'

/-- Steps over a comment, up to the end of its line. -/
def skipComment : Text → Except SyntaxError Text
  | '#' :: t =>
    let (comment, rest) := t.span (· != '\n')
    if comment.any isForbidden then .error malformed else .ok rest
  | t => .ok t

/-- Steps over white space, line ends and comments; `inComment` says that a comment has begun. -/
def skipLinesFrom : (inComment : Bool) → Text → Except SyntaxError Text
  | _, [] => .ok []
  | true, c :: t =>
    if c == '\n' then skipLinesFrom false t
    else if isForbidden c then .error malformed
    else skipLinesFrom true t
  | false, c :: t =>
    if isSpaceOrNewline c then skipLinesFrom false t
    else if c == '#' then skipLinesFrom true t
    else .ok (c :: t)

def skipLines (t : Text) : Except SyntaxError Text := skipLinesFrom false t

/-! ## Strings -/

/-- A text between apostrophes, after the first of them. -/
def literal (t : Text) : Result Text :=
  match t.span (· != '\'') with
  | (s, _ :: rest) => if s.any isForbidden then .error malformed else .ok (s, rest)
  | (_, []) => .error malformed

def hexNumber? : (count : Nat) → (n : Nat) → Text → Option (Nat × Text)
  | 0, n, t => some (n, t)
  | _ + 1, _, [] => none
  | count + 1, n, c :: t => match Json.hexValue? c with
    | some d => hexNumber? count (n * 16 + d) t
    | none => none

/-- A character by its number in hexadecimal digits. -/
def hexChar? (count : Nat) (t : Text) : Option (Char × Text) :=
  match hexNumber? count 0 t with
  | some (n, t) =>
    if n ≤ 0xd7ff || (0xe000 ≤ n && n ≤ 0x10ffff) then some (Char.ofNat n, t) else none
  | none => none

def simpleEscape? : Char → Option Char
  | 'b' => some '\x08'
  | 't' => some '\t'
  | 'n' => some '\n'
  | 'f' => some '\x0c'
  | 'r' => some '\r'
  | '"' => some '"'
  | '\\' => some '\\'
  | _ => none

/-- What follows a backslash. In a string over several lines a backslash at the end of a line
stands for nothing and takes the white space after it along. -/
def escape? (multiline : Bool) : Text → Option (Text × Text)
  | [] => none
  | c :: t =>
    if multiline && isSpaceOrNewline c then
      if c == '\n' then some ([], t.dropWhile isSpaceOrNewline)
      else match skip t with
        | '\n' :: t => some ([], t.dropWhile isSpaceOrNewline)
        | _ => none
    else if c == 'u' then (hexChar? 4 t).map fun (c, t) => ([c], t)
    else if c == 'U' then (hexChar? 8 t).map fun (c, t) => ([c], t)
    else (simpleEscape? c).map fun c => ([c], t)

/-- The text that the body of a string stands for; `read` holds its characters, last one first. -/
def unescape? (multiline : Bool) (read : Text) : (fuel : Nat) → Text → Option Text
  | 0, _ => none
  | _, [] => some read.reverse
  | fuel + 1, c :: t =>
    if c == '\\' then match escape? multiline t with
      | none => none
      | some (s, t) => unescape? multiline (s.reverse ++ read) fuel t
    else if (if multiline then isForbiddenInLines c else isForbidden c) then none
    else unescape? multiline (c :: read) fuel t

def unescaped (multiline : Bool) : Option (Text × Text) → Result Text
  | none => .error malformed
  | some (body, t) => match unescape? multiline [] (body.length + 1) body with
    | none => .error malformed
    | some s => .ok (s, t)

/-- A text between quotes, after the first of them. -/
def basicLine (t : Text) : Result Text := unescaped false (Json.stringBody [] t)

/-- The body of a string between triple quotes as it is written, and what follows them. -/
def linesBody (read : Text) : Text → Option (Text × Text)
  | [] => none
  | '\\' :: c :: t => linesBody (c :: '\\' :: read) t
  | '"' :: '"' :: '"' :: t => some (read.reverse, t)
  | c :: t => linesBody (c :: read) t

/-- Up to two more quotes right after the closing ones belong to the text. -/
def extraQuotes (quote : Char) (s t : Text) : Text × Text :=
  match t with
  | [] => (s, t)
  | a :: t' =>
    if a != quote then (s, t)
    else match t' with
      | [] => (s ++ [quote], t')
      | b :: t'' => if b == quote then (s ++ [quote, quote], t'') else (s ++ [quote], t')

/-- A line end right after the opening quotes is dropped. -/
def dropFirstNewline : Text → Text
  | '\n' :: t => t
  | t => t

def basicLines (t : Text) : Result Text :=
  (unescaped true (linesBody [] (dropFirstNewline t))).map fun (s, t) => extraQuotes '"' s t

def literalLines (t : Text) : Result Text :=
  match Text.cut? "'''" (dropFirstNewline t) with
  | none => .error malformed
  | some (s, t) =>
    if s.any isForbiddenInLines then .error malformed else .ok (extraQuotes '\'' s t)

/-! ## Keys -/

def isBareKey (c : Char) : Bool := c.isAlphanum || c == '-' || c == '_'

def keyPart : Text → Result Text
  | [] => .error malformed
  | c :: t =>
    if isBareKey c then .ok ((c :: t).span isBareKey)
    else if c == '\'' then literal t
    else if c == '"' then basicLine t
    else .error malformed

/-- Further parts of a key after the ones in `read`, last one first. -/
def keyParts (read : List Text) : (fuel : Nat) → Text → Result Key
  | 0, _ => .error malformed
  | fuel + 1, t => match keyPart t with
    | .error e => .error e
    | .ok (part, t) => match skip t with
      | '.' :: t => keyParts (part :: read) fuel (skip t)
      | t => .ok ((part :: read).reverse, t)

/-! ## Numbers, dates and times -/

/-- Further digits, each of which an underscore may precede. -/
def moreDigits (p : Char → Bool) : Text → Text × Text
  | [] => ([], [])
  | '_' :: c :: t =>
    if p c then
      let (digits, rest) := moreDigits p t
      (c :: digits, rest)
    else ([], '_' :: c :: t)
  | c :: t =>
    if p c then
      let (digits, rest) := moreDigits p t
      (c :: digits, rest)
    else ([], c :: t)

/-- At least one digit. -/
def digits? (p : Char → Bool) : Text → Option (Text × Text)
  | [] => none
  | c :: t =>
    if p c then
      let (digits, rest) := moreDigits p t
      some (c :: digits, rest)
    else none

def isOctal (c : Char) : Bool := 48 ≤ c.toNat && c.toNat ≤ 55

def isBinary (c : Char) : Bool := c == '0' || c == '1'

def baseValue (base : Nat) (digits : Text) : Nat :=
  digits.foldl (fun n c => n * base + (Json.hexValue? c).getD 0) 0

/-- An integer in another base. -/
def based? : Text → Option (Value × Text)
  | '0' :: mark :: t =>
    let read (base : Nat) (p : Char → Bool) : Option (Value × Text) :=
      (digits? p t).map fun (digits, rest) => (.int (baseValue base digits), rest)
    if mark == 'x' then read 16 fun c => (Json.hexValue? c).isSome
    else if mark == 'o' then read 8 isOctal
    else if mark == 'b' then read 2 isBinary
    else none
  | _ => none

def fraction (t : Text) : Text × Text :=
  match t with
  | '.' :: rest => (digits? Char.isDigit rest).getD ([], t)
  | _ => ([], t)

def exponent? (t : Text) : Option (Int × Text) :=
  match t with
  | [] => none
  | c :: rest =>
    if c == 'e' || c == 'E' then
      let (negative, rest) := match rest with
        | '-' :: rest => (true, rest)
        | '+' :: rest => (false, rest)
        | rest => (false, rest)
      (digits? Char.isDigit rest).map fun (digits, rest) =>
        let n : Int := baseValue 10 digits
        (if negative then -n else n, rest)
    else none

def integerPart? (t : Text) : Option (Text × Text) :=
  match t with
  | '0' :: rest => some (['0'], rest)
  | _ => digits? Char.isDigit t

/-- A decimal integer or a number with a fraction or an exponent. -/
def number (t : Text) : Result Value :=
  match based? t with
  | some r => .ok r
  | none =>
    let (negative, t) := match t with
      | '-' :: t => (true, t)
      | '+' :: t => (false, t)
      | t => (false, t)
    match integerPart? t with
    | none => .error malformed
    | some (digits, t) =>
      let (places, t) := fraction t
      let signed (n : Nat) : Int := if negative then -n else n
      let decimal (exponent : Int) : Value :=
        .ofDecimal negative ⟨signed (baseValue 10 (digits ++ places)), exponent - places.length⟩
      match exponent? t with
      | some (e, t) => .ok (decimal e, t)
      | none =>
        if !places.isEmpty then .ok (decimal 0, t)
        else if maxDigits < digits.length then .error (hugeInteger digits.length)
        else .ok (.int (signed (baseValue 10 digits)), t)

/-- A number of two digits in a range. -/
def twoDigits? (low high : Nat) : Text → Option (Nat × Text)
  | a :: b :: t =>
    if a.isDigit && b.isDigit then
      let n := Json.digitsValue [a, b]
      if low ≤ n && n ≤ high then some (n, t) else none
    else none
  | _ => none

/-- A time of day: hours, minutes, seconds and an optional fraction of a second. -/
def timeOfDay? (t : Text) : Option Text := do
  let (_, t) ← twoDigits? 0 23 t
  let t ← Text.after? ":" t
  let (_, t) ← twoDigits? 0 59 t
  let t ← Text.after? ":" t
  let (_, t) ← twoDigits? 0 59 t
  match t with
  | '.' :: rest => match rest.span Char.isDigit with
    | ([], _) => some t
    | (_, rest) => some rest
  | _ => some t

/-- The distance from universal time, if one is given. -/
def offset (t : Text) : Text :=
  match t with
  | [] => []
  | c :: rest =>
    if c == 'Z' || c == 'z' then rest
    else if c == '+' || c == '-' then
      let read : Option Text := do
        let (_, rest) ← twoDigits? 0 23 rest
        let rest ← Text.after? ":" rest
        let (_, rest) ← twoDigits? 0 59 rest
        return rest
      read.getD t
    else t

def isLeap (year : Nat) : Bool :=
  year % 4 == 0 && (year % 100 != 0 || year % 400 == 0)

def daysIn (year month : Nat) : Nat :=
  if month == 2 then (if isLeap year then 29 else 28)
  else if month == 4 || month == 6 || month == 9 || month == 11 then 30
  else 31

/-- A date in digits: year, month and day, not yet known to exist. -/
def date? : Text → Option ((Nat × Nat × Nat) × Text)
  | a :: b :: c :: d :: '-' :: t => do
    if !(a.isDigit && b.isDigit && c.isDigit && d.isDigit) then none
    let (month, t) ← twoDigits? 1 12 t
    let t ← Text.after? "-" t
    let (day, t) ← twoDigits? 1 31 t
    return ((Json.digitsValue [a, b, c, d], month, day), t)
  | _ => none

/-- A time of day and an offset, after the letter or space that joins them to a date. -/
def timeAfterDate (t : Text) : Text :=
  match t with
  | [] => []
  | c :: rest =>
    if c == 'T' || c == 't' || c == ' ' then
      match timeOfDay? rest with
      | some rest => offset rest
      | none => t
    else t

def specialWords : List (Text × SpecialNumber) :=
  [("inf", .infinite false), ("+inf", .infinite false), ("-inf", .infinite true),
   ("nan", .undefined), ("+nan", .undefined), ("-nan", .undefined)]

def special? (t : Text) : Option (Value × Text) :=
  specialWords.findSome? fun (word, x) => (Text.after? word t).map (.special x, ·)

/-- A value that is neither text nor a collection. -/
def scalar (t : Text) : Result Value :=
  match date? t with
  | some ((year, month, day), rest) =>
    if 1 ≤ year && day ≤ daysIn year month then .ok (.moment, timeAfterDate rest)
    else .error malformed
  | none => match timeOfDay? t with
    | some rest => .ok (.moment, rest)
    | none => match number t with
      | .error malformed => match special? t with
        | some r => .ok r
        | none => .error malformed
      | r => r

/-! ## Tables

While a document is read, lists hold their latest item first. -/

/-- Works on the table that a path leads to and makes the tables on the way that do not exist
yet. With `throughLists` the last item of a list of tables is entered. -/
def atPath (throughLists : Bool) (f : Table → Option Table) : Key → Table → Option Table
  | [], t => f t
  | k :: path, t => match t.get? k with
    | none => (atPath throughLists f path []).map fun inner => t.put k (.table inner)
    | some (.table inner) =>
      (atPath throughLists f path inner).map fun inner => t.put k (.table inner)
    | some (.list (.table inner :: items)) =>
      if throughLists then (atPath throughLists f path inner).map fun inner =>
        t.put k (.list (.table inner :: items))
      else none
    | some _ => none

/-- Adds an entry that is not there yet. -/
def addNew (k : Text) (v : Value) (t : Table) : Option Table :=
  match t.get? k with
  | some _ => none
  | none => some (t.put k v)

/-- Adds an empty table to a list of tables. -/
def addToList (k : Text) (t : Table) : Option Table :=
  match t.get? k with
  | none => some (t.put k (.list [.table []]))
  | some (.list items) => some (t.put k (.list (.table [] :: items)))
  | some _ => none

/-- A key as its path and its last part. -/
def splitKey (k : Key) : Key × Text := (k.dropLast, k.getLastD [])

def isCollection : Value → Bool
  | .list _ | .table _ => true
  | _ => false

/-- Whether a key lies at or below one of the closed keys. -/
def isClosed (closed : List Key) (k : Key) : Bool := closed.any (·.isPrefixOf k)

mutual

def value : (fuel depth : Nat) → Text → Result Value
  | 0, _, _ => .error malformed
  | fuel + 1, depth, t =>
    let ofText : Result Text → Result Value := fun r => r.map fun (s, t) => (.text s, t)
    match t with
    | '"' :: '"' :: '"' :: t => ofText (basicLines t)
    | '"' :: t => ofText (basicLine t)
    | '\'' :: '\'' :: '\'' :: t => ofText (literalLines t)
    | '\'' :: t => ofText (literal t)
    | 't' :: 'r' :: 'u' :: 'e' :: t => .ok (.bool true, t)
    | 'f' :: 'a' :: 'l' :: 's' :: 'e' :: t => .ok (.bool false, t)
    | '[' :: t =>
      if depthLimit ≤ depth then .error tooDeep
      else match skipLines t with
        | .error e => .error e
        | .ok (']' :: t) => .ok (.list [], t)
        | .ok t => items fuel (depth + 1) [] t
    | '\x7b' :: t =>
      if depthLimit ≤ depth then .error tooDeep
      else match skip t with
        | '\x7d' :: t => .ok (.table [], t)
        | t => entries fuel (depth + 1) [] [] t
    | t => scalar t

/-- Items of a list, after the ones in `read`. -/
def items : (fuel depth : Nat) → List Value → Text → Result Value
  | 0, _, _, _ => .error malformed
  | fuel + 1, depth, read, t => match value fuel depth t with
    | .error e => .error e
    | .ok (v, t) => match skipLines t with
      | .error e => .error e
      | .ok (']' :: t) => .ok (.list (v :: read), t)
      | .ok (',' :: t) => match skipLines t with
        | .error e => .error e
        | .ok (']' :: t) => .ok (.list (v :: read), t)
        | .ok t => items fuel depth (v :: read) t
      | .ok _ => .error malformed

/-- Entries of an inline table, with the keys that are closed in it. -/
def entries : (fuel depth : Nat) → Table → (closed : List Key) → Text → Result Value
  | 0, _, _, _, _ => .error malformed
  | fuel + 1, depth, read, closed, t => match keyValue fuel depth t with
    | .error e => .error e
    | .ok ((k, v), t) =>
      if isClosed closed k then .error malformed
      else
        let (path, last) := splitKey k
        match atPath false (addNew last v) path read with
        | none => .error malformed
        | some read => match skip t with
          | '\x7d' :: t => .ok (.table read, t)
          | ',' :: t =>
            entries fuel depth read (if isCollection v then k :: closed else closed) (skip t)
          | _ => .error malformed

def keyValue : (fuel depth : Nat) → Text → Result (Key × Value)
  | 0, _, _ => .error malformed
  | fuel + 1, depth, t => match keyParts [] fuel t with
    | .error e => .error e
    | .ok (k, '=' :: t) => match value fuel depth (skip t) with
      | .error e => .error e
      | .ok (v, t) => .ok ((k, v), t)
    | .ok _ => .error malformed

end

/-! ## Documents -/

/-- A document read so far. `declared` holds the tables that may not be declared again, `pending`
those that become so at the next heading, `closed` the values written inline. -/
structure Draft where
  data : Table := []
  heading : Key := []
  declared : List Key := []
  pending : List Key := []
  closed : List Key := []

namespace Draft

def settle (d : Draft) : Draft :=
  { d with declared := d.pending ++ d.declared, pending := [] }

/-- Opens `[key]`. -/
def openTable (d : Draft) (k : Key) : Option Draft :=
  if d.declared.contains k || isClosed d.closed k then none
  else (atPath true some k d.data).map fun data =>
    { d with data, heading := k, declared := k :: d.declared }

/-- Opens a new item of `[[key]]`, below which tables may be declared anew. -/
def openItem (d : Draft) (k : Key) : Option Draft :=
  if isClosed d.closed k then none
  else
    let (path, last) := splitKey k
    (atPath true (addToList last) path d.data).map fun data =>
      { d with
        data, heading := k
        declared := k :: d.declared.filter fun other => !k.isPrefixOf other
        closed := d.closed.filter fun other => !k.isPrefixOf other }

/-- The proper beginnings of a key, below a heading. -/
def containers (heading k : Key) : List Key :=
  (List.range (k.length - 1)).map fun i => heading ++ k.take (i + 1)

def add (d : Draft) (k : Key) (v : Value) : Option Draft :=
  let above := containers d.heading k
  let (path, last) := splitKey k
  if above.any d.declared.contains then none
  else if isClosed d.closed (d.heading ++ path) then none
  else (atPath true (addNew last v) (d.heading ++ path) d.data).map fun data =>
    { d with
      data
      pending := above ++ d.pending
      closed := if isCollection v then (d.heading ++ k) :: d.closed else d.closed }

end Draft

/-- A heading after its first bracket. -/
def heading (fuel : Nat) (d : Draft) (t : Text) : Result Draft :=
  let d := d.settle
  let (isItem, t) := match t with
    | '[' :: t => (true, t)
    | t => (false, t)
  match keyParts [] fuel (skip t) with
  | .error e => .error e
  | .ok (k, t) => match (if isItem then d.openItem k else d.openTable k) with
    | none => .error malformed
    | some d => match Text.after? (if isItem then "]]" else "]") t with
      | some t => .ok (d, t)
      | none => .error malformed

/-- One statement that starts at the first character, up to the end of its line. -/
def statement (fuel : Nat) (d : Draft) (t : Text) : Result Draft :=
  match t with
  | [] => .ok (d, [])
  | c :: rest =>
    if isBareKey c || c == '"' || c == '\'' then
      match keyValue fuel 0 t with
      | .error e => .error e
      | .ok ((k, v), t) => match d.add k v with
        | some d => .ok (d, t)
        | none => .error malformed
    else if c == '[' then heading fuel d rest
    else if c == '#' then .ok (d, t)
    else .error malformed

/-- All statements. One character of text is worth two units of fuel. -/
def statements : (fuel : Nat) → Draft → Text → Except SyntaxError Table
  | 0, d, _ => .ok d.data
  | fuel + 1, d, t => match skip t with
    | [] => .ok d.data
    | '\n' :: t => statements fuel d t
    | t => match statement fuel d t with
      | .error e => .error e
      | .ok (d, t) => match skipComment (skip t) with
        | .error e => .error e
        | .ok [] => .ok d.data
        | .ok ('\n' :: t) => statements fuel d t
        | .ok _ => .error malformed

mutual

/-- Brings the items of all lists in order. -/
def inOrder : Value → Value
  | .list items => .list (itemsInOrder [] items)
  | .table entries => .table (entriesInOrder entries)
  | v => v

def itemsInOrder (done : List Value) : List Value → List Value
  | [] => done
  | v :: rest => itemsInOrder (inOrder v :: done) rest

def entriesInOrder : List (Text × Value) → List (Text × Value)
  | [] => []
  | (key, v) :: rest => (key, inOrder v) :: entriesInOrder rest

end

/-- Line ends of two characters become line feeds. -/
def plainNewlines (read : Text) : Text → Text
  | [] => read.reverse
  | '\r' :: '\n' :: t => plainNewlines ('\n' :: read) t
  | c :: t => plainNewlines (c :: read) t

/-- Reads a whole document. -/
def parse (t : Text) : Except SyntaxError Table :=
  let t := plainNewlines [] t
  (statements (2 * t.length + 8) {} t).map entriesInOrder

end RepoAtlas.Toml
