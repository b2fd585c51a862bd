/-!
# Decimal numbers

A decimal is `coefficient * 10 ^ exponent`, kept as it was written. A ratio is a decimal, or one of
the numbers that arithmetic with a fraction may end in and no decimal stands for.
-/

namespace RepoAtlas

structure Decimal where
  coefficient : Int
  exponent : Int
  deriving DecidableEq, Repr

namespace Decimal

/-- The coefficient in units of `10 ^ exponent`, for an exponent not above the decimal's own. -/
def scaled (d : Decimal) (exponent : Int) : Int :=
  d.coefficient * Nat.pow 10 (d.exponent - exponent).toNat

def lt (a b : Decimal) : Bool :=
  let e := min a.exponent b.exponent
  decide (a.scaled e < b.scaled e)

/-- Whether two decimals have the same value. -/
def same (a b : Decimal) : Bool :=
  let e := min a.exponent b.exponent
  a.scaled e == b.scaled e

end Decimal

/-- The numbers that no decimal stands for. -/
inductive SpecialNumber where
  | undefined
  | infinite (negative : Bool)
  | negativeZero
  deriving DecidableEq, Repr

/-- A number with a fraction. -/
inductive Ratio where
  | decimal (d : Decimal)
  | special (x : SpecialNumber)
  deriving DecidableEq, Repr

/-- Whether a ratio lies below a decimal; what is undefined lies nowhere. -/
def Ratio.lt : Ratio → Decimal → Bool
  | decimal a, b => a.lt b
  | special .undefined, _ => false
  | special (.infinite negative), _ => negative
  | special .negativeZero, b => Decimal.lt ⟨0, 0⟩ b

end RepoAtlas
