import RepoAtlas.Number.Binary
import RepoAtlas.Text.Basic

/-!
# Shortest decimals

A stored number is named by the decimal with the fewest digits that is stored as that number, of
several such by the nearest one. `Decimal.stored` replaces a decimal by that name, so that two
decimals are stored alike exactly if they become the same value.
-/

namespace RepoAtlas.Number

/-- The position of the first digit of a positive number of grains: it lies between
`10 ^ magnitude` and `10 ^ (magnitude + 1)`. -/
def magnitude (grains : Nat) : Int :=
  (Nat.toDigits 10 (grains * Nat.pow 10 324 / unit)).length - 325

/-- The neighbour of a number of grains in steps of `10 ^ exponent` that is stored as that number,
the nearer one if both are. -/
def neighbour? (grains : Nat) (exponent : Int) : Option Decimal :=
  let num := grains * Nat.pow 10 (-exponent).toNat
  let den := unit * Nat.pow 10 exponent.toNat
  let near := roundDiv num den
  let below := num / den
  let far := if near = below then below + 1 else below
  let hits (n : Nat) : Bool := Decimal.storedGrains? n exponent == some grains
  if hits near then some ⟨near, exponent⟩
  else if hits far then some ⟨far, exponent⟩
  else none

/-- The first neighbour in ever finer steps. -/
def shortestFrom (grains : Nat) (exponent : Int) : (digits : Nat) → Decimal
  | 0 => ⟨0, 0⟩
  | digits + 1 => (neighbour? grains exponent).getD (shortestFrom grains (exponent - 1) digits)

/-- The shortest decimal of a positive number of grains; 17 digits always suffice. -/
def shortest (grains : Nat) : Decimal := shortestFrom grains (magnitude grains) 17

end RepoAtlas.Number

namespace RepoAtlas.Decimal

open Number

/-- The same value with at least one place after the point. -/
def pointed (d : Decimal) : Decimal :=
  if d.exponent < 0 then d else ⟨d.coefficient * Nat.pow 10 (d.exponent.toNat + 1), -1⟩

/-- Whether a decimal of at most 15 digits, far from the ends of the range, is written: two such
decimals are never stored alike. -/
def isPlain (d : Decimal) : Bool :=
  decide (d.coefficient.natAbs < Nat.pow 10 15) && decide (-290 ≤ d.exponent) &&
    decide (d.exponent ≤ 290)

/-- A decimal as the shortest one that is stored alike; `none` out of range. -/
def stored? (d : Decimal) : Option Decimal :=
  if d.isPlain then some d.pointed
  else (storedGrains? d.coefficient.natAbs d.exponent).map fun grains =>
    let s := if grains = 0 then ⟨0, 0⟩ else shortest grains
    (⟨if d.coefficient < 0 then -s.coefficient else s.coefficient, s.exponent⟩ : Decimal).pointed

/-- A decimal in digits: positional from `0.0001` up to sixteen digits before the point, with an
exponent of at least two digits beyond. -/
def text (d : Decimal) : Text :=
  let all := Nat.toDigits 10 d.coefficient.natAbs
  let digits := (all.reverse.dropWhile (· == '0')).reverse
  let sign : Text := if d.coefficient < 0 then ['-'] else []
  let place : Int := all.length + d.exponent - 1
  let zeros (n : Int) : Text := List.replicate n.toNat '0'
  if digits.isEmpty then sign ++ "0.0".toList
  else if -4 ≤ place && place < 16 then
    if place < 0 then sign ++ "0.".toList ++ zeros (-place - 1) ++ digits
    else
      let digits := digits ++ zeros (place + 1 - digits.length)
      let (whole, part) := digits.splitAt (place.toNat + 1)
      sign ++ whole ++ '.' :: (if part.isEmpty then ['0'] else part)
  else
    let power := Nat.toDigits 10 place.natAbs
    let mantissa := match digits with
      | [] => []
      | [d] => [d]
      | d :: rest => d :: '.' :: rest
    sign ++ mantissa ++ 'e' :: (if place < 0 then '-' else '+') :: zeros (2 - power.length) ++ power

end RepoAtlas.Decimal
