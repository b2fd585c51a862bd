/-!
# Rounding quotients

`roundDiv` rounds a quotient of natural numbers to the nearest one, a half to the even neighbour.
`roundPlaces` rounds in two steps, first to 53 binary digits and then to a number of decimal
places: quotients are stored with binary precision before they are shown, and the first step can
move a value off a tie.
-/

namespace RepoAtlas.Number

def roundDiv (num den : Nat) : Nat :=
  let q := num / den
  let r := num % den
  if 2 * r < den then q
  else if den < 2 * r then q + 1
  else q + q % 2

/-- The least `shift` with `2 ^ 52 * den ≤ num * 2 ^ shift`, searched from `shift` on. -/
def binaryShift (num den : Nat) : (limit shift : Nat) → Nat
  | 0, shift => shift
  | limit + 1, shift =>
    if Nat.pow 2 52 * den ≤ num * Nat.pow 2 shift then shift else binaryShift num den limit (shift + 1)

/-- `num / den`, at most one, in units of the last of `places` decimal places. -/
def roundPlaces (num den places : Nat) : Nat :=
  if num = 0 ∨ den = 0 then 0
  else
    let shift := binaryShift num den (53 + den.log2) 0
    let digits := roundDiv (num * Nat.pow 2 shift) den
    roundDiv (digits * Nat.pow 10 places) (Nat.pow 2 shift)

end RepoAtlas.Number
