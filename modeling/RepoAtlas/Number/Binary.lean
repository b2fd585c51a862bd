import RepoAtlas.Number.Decimal
import RepoAtlas.Number.Rounding

/-!
# Binary precision

Numbers with a fraction are stored with 53 binary digits. The finest step between two stored
numbers, a grain, is `2 ^ -1074`, and every stored number is a whole count of grains, so that a
natural number holds it exactly. Numbers from `2 ^ 1024` on are out of range.
-/

namespace RepoAtlas.Number

def precision : Nat := 53

/-- The grains of one. -/
def unit : Nat := Nat.pow 2 1074

/-- The first whole number out of range. -/
def bound : Nat := Nat.pow 2 1024

/-- A quotient as the nearest whole number of at most 53 binary digits, apart from zeros at their
end; a half goes to the even neighbour. -/
def roundBits (num den : Nat) : Nat :=
  let spare := Nat.pow 2 ((num / den).log2 + 1 - precision)
  roundDiv num (den * spare) * spare

/-- The grains of a quotient as it is stored; `none` out of range. -/
def grains? (num den : Nat) : Option Nat :=
  let g := roundBits (num * unit) den
  if g < bound * unit then some g else none

/-- A whole number as it is stored; `none` out of range. -/
def whole? (n : Nat) : Option Nat :=
  let m := roundBits n 1
  if m < bound then some m else none

end RepoAtlas.Number

namespace RepoAtlas.Decimal

open Number

/-- The grains of `coefficient * 10 ^ exponent` as it is stored; `none` out of range. Exponents
that decide the answer alone are not written out. -/
def storedGrains? (coefficient : Nat) (exponent : Int) : Option Nat :=
  let size : Int := coefficient.log2
  if coefficient = 0 ∨ size * 302 / 1000 + 2 + exponent < -400 then some 0
  else if 400 < size * 301 / 1000 + exponent then none
  else grains? (coefficient * Nat.pow 10 exponent.toNat) (Nat.pow 10 (-exponent).toNat)

end RepoAtlas.Decimal
