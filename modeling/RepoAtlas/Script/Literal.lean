import RepoAtlas.Document.Json
import RepoAtlas.Text.CharName
import RepoAtlas.Script.Token

/-!
# String literals

What the text between the quotes of a string stands for. An unknown escape stands for itself; a
known one that is incomplete makes the literal unreadable.
-/

namespace RepoAtlas.Script

def controlEscape? : Char → Option Char
  | '\\' => some '\\'
  | '\'' => some '\''
  | '"' => some '"'
  | 'a' => some '\x07'
  | 'b' => some '\x08'
  | 'f' => some '\x0c'
  | 'n' => some '\n'
  | 'r' => some '\r'
  | 't' => some '\t'
  | 'v' => some '\x0b'
  | _ => none

/-- A character by its number; a surrogate stands for the replacement character. -/
def charOf? (n : Nat) : Option Char :=
  if 0x10ffff < n then none
  else if 0xd800 ≤ n && n ≤ 0xdfff then some '�'
  else some (Char.ofNat n)

/-- Exactly `count` hexadecimal digits. -/
def hexDigits? : (count : Nat) → (n : Nat) → Text → Option (Nat × Text)
  | 0, n, t => some (n, t)
  | _ + 1, _, [] => none
  | count + 1, n, c :: t => match Json.hexValue? c with
    | some d => hexDigits? count (n * 16 + d) t
    | none => none

def isOctalDigit (c : Char) : Bool := '0' ≤ c && c ≤ '7'

/-- The character or characters of an escape after its backslash. A backslash with nothing after
it stands for itself. -/
def escape? (t : Text) : Option (Text × Text) :=
  let byHex (count : Nat) (t : Text) : Option (Text × Text) := do
    let (n, t) ← hexDigits? count 0 t
    let c ← charOf? n
    return ([c], t)
  match t with
  | [] => some (['\\'], [])
  | '\n' :: t => some ([], t)
  | 'x' :: t => byHex 2 t
  | 'u' :: t => byHex 4 t
  | 'U' :: t => byHex 8 t
  | 'N' :: t => match t with
    | '\x7b' :: t => do
      let (name, t) ← Text.cut? "\x7d" t
      let c ← CharName.char? name
      return ([c], t)
    | _ => none
  | c :: t =>
    if isOctalDigit c then
      let digits := ((c :: t).take 3).takeWhile isOctalDigit
      let n := digits.foldl (fun n d => n * 8 + (d.toNat - 48)) 0
      some ([Char.ofNat n], (c :: t).drop digits.length)
    else match controlEscape? c with
      | some x => some ([x], t)
      | none => some (['\\', c], t)

/-- The text a literal stands for; `read` holds what was read, last character first. -/
def unescapeFrom (read : Text) : (fuel : Nat) → Text → Option Text
  | 0, _ => none
  | _, [] => some read.reverse
  | fuel + 1, c :: t =>
    if c == '\\' then
      match escape? t with
      | some (s, t) => unescapeFrom (s.reverse ++ read) fuel t
      | none => none
    else unescapeFrom (c :: read) fuel t

def unescape? (t : Text) : Option Text := unescapeFrom [] (t.length + 1) t

/-- Whether the bytes that a literal stands for can be read. -/
def bytesReadable : Text → Bool
  | [] => true
  | '\\' :: 'x' :: a :: b :: t =>
    (Json.hexValue? a).isSome && (Json.hexValue? b).isSome && bytesReadable t
  | '\\' :: 'x' :: _ => false
  | '\\' :: c :: t => c.toNat < 128 && bytesReadable t
  | c :: t => c.toNat < 128 && bytesReadable t

end RepoAtlas.Script
