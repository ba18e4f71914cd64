/-!
# Rounding a quotient

Quotients of natural numbers are rounded to the nearest whole number, a half to the even
neighbour. The denominator is meant to be positive.
-/
namespace MeshWatch.Number

def roundHalfEven (num den : Nat) : Nat :=
  let q := num / den
  let twice := 2 * (num % den)
  if den < twice ∨ (twice = den ∧ q % 2 = 1) then q + 1 else q

/-- A quotient in decimal with one digit after the point. -/
def oneDecimal (num den : Nat) : String :=
  let tenths := roundHalfEven (10 * num) den
  toString (tenths / 10) ++ "." ++ toString (tenths % 10)

end MeshWatch.Number
