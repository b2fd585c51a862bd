import RepoAtlas.Document.Value

/-!
# JSON

A reader for JSON texts. It also takes `NaN`, `Infinity` and `-Infinity`, keeps the last of
several entries with one key, and gives up on texts nested more than `depthLimit` deep. The first
fault in reading order decides the error.
-/

namespace RepoAtlas.Json

open SyntaxError

abbrev Result (α : Type) := Except SyntaxError (α × Text)

def depthLimit : Nat := 900

def isSpace (c : Char) : Bool := c == ' ' || c == '\t' || c == '\n' || c == '\r'

def skip (t : Text) : Text := t.dropWhile isSpace

def hexValue? (c : Char) : Option Nat :=
  let n := c.toNat
  if 48 ≤ n && n ≤ 57 then some (n - 48)
  else if 65 ≤ n && n ≤ 70 then some (n - 55)
  else if 97 ≤ n && n ≤ 102 then some (n - 87)
  else none

/-- The number written by four hexadecimal digits. -/
def hex4? : Text → Option (Nat × Text)
  | a :: b :: c :: d :: t => do
    let a ← hexValue? a
    let b ← hexValue? b
    let c ← hexValue? c
    let d ← hexValue? d
    return (((a * 16 + b) * 16 + c) * 16 + d, t)
  | _ => none

def simpleEscape? : Char → Option Char
  | '"' => some '"'
  | '\\' => some '\\'
  | '/' => some '/'
  | 'b' => some '\x08'
  | 'f' => some '\x0c'
  | 'n' => some '\n'
  | 'r' => some '\r'
  | 't' => some '\t'
  | _ => none

/-- The character of a `\u` escape whose first four digits gave `n`. A high surrogate joins a low
one that follows; an unpaired one stands for the replacement character. -/
def unitChar (n : Nat) (t : Text) : Char × Text :=
  if 0xd800 ≤ n && n ≤ 0xdbff then
    match t with
    | '\\' :: 'u' :: rest => match hex4? rest with
      | some (m, rest) =>
        if 0xdc00 ≤ m && m ≤ 0xdfff then
          (Char.ofNat (0x10000 + (n - 0xd800) * 0x400 + (m - 0xdc00)), rest)
        else ('�', t)
      | none => ('�', t)
    | _ => ('�', t)
  else if 0xdc00 ≤ n && n ≤ 0xdfff then ('�', t)
  else (Char.ofNat n, t)

/-- The body of a string as it is written, up to its closing quote, and what follows the quote;
`read` holds what was read, last character first. -/
def stringBody (read : Text) : Text → Option (Text × Text)
  | [] => none
  | '\\' :: c :: t => stringBody (c :: '\\' :: read) t
  | c :: t => if c == '"' then some (read.reverse, t) else stringBody (c :: read) t

/-- The text that the body of a string stands for. -/
def unescape? (read : Text) : (fuel : Nat) → Text → Option Text
  | 0, _ => none
  | _, [] => some read.reverse
  | fuel + 1, c :: t =>
    if c == '\\' then
      match t with
      | [] => none
      | 'u' :: t => match hex4? t with
        | none => none
        | some (n, t) =>
          let (c, t) := unitChar n t
          unescape? (c :: read) fuel t
      | c :: t => match simpleEscape? c with
        | none => none
        | some c => unescape? (c :: read) fuel t
    else if c.toNat < 32 then none
    else unescape? (c :: read) fuel t

/-- A string after its opening quote. -/
def string (t : Text) : Result Text :=
  match stringBody [] t with
  | none => .error malformed
  | some (body, t) => match unescape? [] (body.length + 1) body with
    | none => .error malformed
    | some s => .ok (s, t)

def digitsValue (digits : Text) : Nat :=
  digits.foldl (fun n c => n * 10 + (c.toNat - 48)) 0

/-- The integer part of a number without its sign: one zero, or digits that start with none. -/
def integerPart? : Text → Option (Text × Text)
  | [] => none
  | c :: t =>
    if c == '0' then some (['0'], t)
    else if c.isDigit then some ((c :: t).span Char.isDigit)
    else none

/-- The digits after a point, if there are any. -/
def fraction : Text → Text × Text
  | '.' :: t => match t.span Char.isDigit with
    | ([], _) => ([], '.' :: t)
    | (digits, rest) => (digits, rest)
  | t => ([], t)

/-- The value of an exponent, if there is one. -/
def exponent? : Text → Option (Int × Text)
  | c :: t =>
    if c == 'e' || c == 'E' then
      let (negative, t) := match t with
        | '-' :: t => (true, t)
        | '+' :: t => (false, t)
        | t => (false, t)
      match t.span Char.isDigit with
      | ([], _) => none
      | (digits, rest) =>
        let n : Int := digitsValue digits
        some (if negative then -n else n, rest)
    else none
  | [] => none

def number (t : Text) : Result Value :=
  let (negative, t) := match t with
    | '-' :: t => (true, t)
    | t => (false, t)
  match integerPart? t with
  | none => .error malformed
  | some (digits, t) =>
    let (places, t) := fraction t
    let signed (n : Nat) : Int := if negative then -n else n
    let decimal (exponent : Int) : Value :=
      .ofDecimal negative ⟨signed (digitsValue (digits ++ places)), exponent - places.length⟩
    match exponent? t with
    | some (e, t) => .ok (decimal e, t)
    | none =>
      if !places.isEmpty then .ok (decimal 0, t)
      else if maxDigits < digits.length then .error (hugeInteger digits.length)
      else .ok (.int (signed (digitsValue digits)), t)

def words : List (Text × Value) :=
  [("null", .null), ("true", .bool true), ("false", .bool false),
   ("NaN", .special .undefined), ("Infinity", .special (.infinite false)),
   ("-Infinity", .special (.infinite true))]

def word? (t : Text) : Option (Value × Text) :=
  words.findSome? fun (w, v) => (Text.after? w t).map (v, ·)

mutual

/-- A value that starts at the first character. -/
def value : (fuel depth : Nat) → Text → Result Value
  | 0, _, _ => .error malformed
  | fuel + 1, depth, t => match t with
    | '"' :: t => match string t with
      | .ok (s, t) => .ok (.text s, t)
      | .error e => .error e
    | '[' :: t =>
      if depthLimit ≤ depth then .error tooDeep
      else match skip t with
        | ']' :: t => .ok (.list [], t)
        | t => items fuel (depth + 1) [] t
    | '\x7b' :: t =>
      if depthLimit ≤ depth then .error tooDeep
      else match skip t with
        | '\x7d' :: t => .ok (.table [], t)
        | t => entries fuel (depth + 1) [] t
    | t => match word? t with
      | some (v, t) => .ok (v, t)
      | none => number t

/-- Items of a list; `read` holds the ones read so far, last one first. -/
def items : (fuel depth : Nat) → List Value → Text → Result Value
  | 0, _, _, _ => .error malformed
  | fuel + 1, depth, read, t => match value fuel depth t with
    | .error e => .error e
    | .ok (v, t) => match skip t with
      | ',' :: t => items fuel depth (v :: read) (skip t)
      | ']' :: t => .ok (.list (v :: read).reverse, t)
      | _ => .error malformed

/-- Entries of a table. -/
def entries : (fuel depth : Nat) → Table → Text → Result Value
  | 0, _, _, _ => .error malformed
  | fuel + 1, depth, read, t => match t with
    | '"' :: t => match string t with
      | .error e => .error e
      | .ok (key, t) => match skip t with
        | ':' :: t => match value fuel depth (skip t) with
          | .error e => .error e
          | .ok (v, t) => match skip t with
            | ',' :: t => entries fuel depth (read.put key v) (skip t)
            | '\x7d' :: t => .ok (.table (read.put key v), t)
            | _ => .error malformed
        | _ => .error malformed
    | _ => .error malformed

end

/-- Reads a whole text. -/
def parse (t : Text) : Except SyntaxError Value :=
  match value (2 * t.length + 2) 0 (skip t) with
  | .error e => .error e
  | .ok (v, rest) => if (skip rest).isEmpty then .ok v else .error malformed

end RepoAtlas.Json
