import RepoAtlas.Text.Basic

/-!
# Text encodings

Files are read as UTF-16 when they start with a byte order mark of it, else as UTF-8, with or
without a mark, and else byte by byte. The encoders are the other direction.
-/

namespace RepoAtlas.Encoding

abbrev Bytes := List UInt8

/-- What stands for a malformed unit. -/
def replacement : Char := Char.ofNat 0xFFFD

/-! ## UTF-8 -/

def isTail (b : UInt8) : Bool := 0x80 ≤ b && b ≤ 0xBF

/-- Whether a second byte can follow the first byte of three. -/
def isSecondOfThree (a b : UInt8) : Bool :=
  isTail b && (a != 0xE0 || 0xA0 ≤ b) && (a != 0xED || b ≤ 0x9F)

/-- Whether a second byte can follow the first byte of four. -/
def isSecondOfFour (a b : UInt8) : Bool :=
  isTail b && (a != 0xF0 || 0x90 ≤ b) && (a != 0xF4 || b ≤ 0x8F)

/-- The low six bits of a tail byte. -/
def tailBits (b : UInt8) : Nat := b.toNat % 64

/-- Reads UTF-8, with the characters read so far, the last one first. -/
def utf8From (read : Text) : Bytes → Option Text
  | [] => some read.reverse
  | a :: t =>
    if a < 0x80 then utf8From (Char.ofNat a.toNat :: read) t
    else match t with
      | [] => none
      | b :: t =>
        if 0xC2 ≤ a && a ≤ 0xDF then
          if isTail b then utf8From (Char.ofNat (a.toNat % 32 * 64 + tailBits b) :: read) t else none
        else match t with
          | [] => none
          | c :: t =>
            if 0xE0 ≤ a && a ≤ 0xEF then
              if isSecondOfThree a b && isTail c then
                utf8From (Char.ofNat ((a.toNat % 16 * 64 + tailBits b) * 64 + tailBits c) :: read) t
              else none
            else match t with
              | [] => none
              | d :: t =>
                if 0xF0 ≤ a && a ≤ 0xF4 && isSecondOfFour a b && isTail c && isTail d then
                  let code := ((a.toNat % 8 * 64 + tailBits b) * 64 + tailBits c) * 64 + tailBits d
                  utf8From (Char.ofNat code :: read) t
                else none

def utf8? (bytes : Bytes) : Option Text := utf8From [] bytes

def tailByte (n : Nat) : UInt8 := UInt8.ofNat (0x80 + n % 64)

def encodeChar (c : Char) : Bytes :=
  let n := c.toNat
  if n < 0x80 then [UInt8.ofNat n]
  else if n < 0x800 then [UInt8.ofNat (0xC0 + n / 64), tailByte n]
  else if n < 0x10000 then [UInt8.ofNat (0xE0 + n / 4096), tailByte (n / 64), tailByte n]
  else [UInt8.ofNat (0xF0 + n / 262144), tailByte (n / 4096), tailByte (n / 64), tailByte n]

def encodeUtf8 (t : Text) : Bytes := t.flatMap encodeChar

/-! ## UTF-16 -/

def isHigh (unit : Nat) : Bool := 0xD800 ≤ unit && unit < 0xDC00

def isLow (unit : Nat) : Bool := 0xDC00 ≤ unit && unit < 0xE000

/-- The value of two bytes. -/
def unit (littleEndian : Bool) (a b : UInt8) : Nat :=
  if littleEndian then a.toNat + 256 * b.toNat else 256 * a.toNat + b.toNat

/-- The units of a text, and whether a single byte is left over. -/
def units (littleEndian : Bool) : Bytes → List Nat × Bool
  | [] => ([], false)
  | [_] => ([], true)
  | a :: b :: t =>
    let (us, stray) := units littleEndian t
    (unit littleEndian a b :: us, stray)

/-- A high surrogate that waits for its partner, and the characters read so far, the last one
first. -/
structure Utf16State where
  high : Option Nat := none
  read : Text := []

/-- A unit that follows no high surrogate. -/
def Utf16State.start (read : Text) (u : Nat) : Utf16State :=
  if isHigh u then ⟨some u, read⟩
  else if isLow u then ⟨none, replacement :: read⟩
  else ⟨none, Char.ofNat u :: read⟩

def Utf16State.accept (s : Utf16State) (u : Nat) : Utf16State :=
  match s.high with
  | none => .start s.read u
  | some h =>
    if isLow u then ⟨none, Char.ofNat (0x10000 + (h - 0xD800) * 1024 + (u - 0xDC00)) :: s.read⟩
    else .start (replacement :: s.read) u

/-- Reads UTF-16. A surrogate without its partner is replaced; so is what is left at the end, be
it a byte, half a pair or both. -/
def utf16 (littleEndian : Bool) (bytes : Bytes) : Text :=
  let (us, stray) := units littleEndian bytes
  let s : Utf16State := us.foldl .accept {}
  (if s.high.isSome || stray then replacement :: s.read else s.read).reverse

def unitBytes (littleEndian : Bool) (u : Nat) : Bytes :=
  if littleEndian then [UInt8.ofNat (u % 256), UInt8.ofNat (u / 256)]
  else [UInt8.ofNat (u / 256), UInt8.ofNat (u % 256)]

def encodeUtf16 (littleEndian : Bool) (t : Text) : Bytes :=
  t.flatMap fun c =>
    let n := c.toNat
    if n < 0x10000 then unitBytes littleEndian n
    else unitBytes littleEndian (0xD800 + (n - 0x10000) / 1024) ++
      unitBytes littleEndian (0xDC00 + (n - 0x10000) % 1024)

/-! ## Files -/

/-- One character a byte. -/
def singleBytes (bytes : Bytes) : Text := bytes.map fun b => Char.ofNat b.toNat

def withoutMark : Bytes → Bytes
  | 0xEF :: 0xBB :: 0xBF :: t => t
  | bytes => bytes

/-- The text of a file. -/
def decode (bytes : Bytes) : Text :=
  match bytes with
  | 0xFF :: 0xFE :: t => utf16 true t
  | 0xFE :: 0xFF :: t => utf16 false t
  | _ => (utf8? (withoutMark bytes)).getD (singleBytes bytes)

end RepoAtlas.Encoding
