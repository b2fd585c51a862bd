/-!
# Texts

Everything this library reads is text, held as a list of characters so that each function on it
is a plain recursion. This module has the operations that need no character data: splitting,
cutting, searching and the order by code point.
-/

namespace RepoAtlas

abbrev Text := List Char

instance : Coe String Text := ⟨String.toList⟩

instance : Hashable Text where
  hash t := t.foldl (fun h c => mixHash h c.val.toUInt64) 7

namespace Text

def ofNat (n : Nat) : Text := Nat.toDigits 10 n

def ofInt : Int → Text
  | .ofNat n => ofNat n
  | .negSucc n => '-' :: ofNat (n + 1)

/-- The pieces between occurrences of a character; always at least one. -/
def splitOn (sep : Char) : Text → List Text
  | [] => [[]]
  | c :: t =>
    if c == sep then [] :: splitOn sep t
    else match splitOn sep t with
      | [] => [[c]]
      | piece :: pieces => (c :: piece) :: pieces

/-- What follows a given beginning. -/
def after? : (start t : Text) → Option Text
  | [], t => some t
  | _ :: _, [] => none
  | a :: start, c :: t => if a == c then after? start t else none

def startsWith (start t : Text) : Bool := (after? start t).isSome

def endsWith (ending t : Text) : Bool := startsWith ending.reverse t.reverse

/-- Cuts a text at the first occurrence of `sep`, which belongs to neither part. -/
def cut? (sep : Text) : Text → Option (Text × Text)
  | [] => if sep.isEmpty then some ([], []) else none
  | c :: t => match after? sep (c :: t) with
    | some rest => some ([], rest)
    | none => (cut? sep t).map fun (front, rest) => (c :: front, rest)

/-- The part in front of the first occurrence of `sep`, or all of it. -/
def upTo (sep t : Text) : Text :=
  match cut? sep t with
  | some (front, _) => front
  | none => t

def occursIn (part t : Text) : Bool := (cut? part t).isSome

/-- The part in front of the last occurrence of `sep` and the part after it. -/
def cutLast? (sep : Char) (t : Text) : Option (Text × Text) :=
  if t.contains sep then
    let back := t.reverse.takeWhile (· != sep)
    some (t.take (t.length - back.length - 1), back.reverse)
  else none

def replaceChar (old new : Char) (t : Text) : Text :=
  t.map fun c => if c == old then new else c

def dropBoth (p : Char → Bool) (t : Text) : Text :=
  ((t.dropWhile p).reverse.dropWhile p).reverse

/-- The order by code point. -/
def le (a b : Text) : Bool := !decide (b < a)

end Text

end RepoAtlas
