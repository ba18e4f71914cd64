import MeshWatch.Number.Rounding

/-!
# Double precision numbers

The finite numbers of the 64-bit binary format, kept as mantissa times a power of two, with
arithmetic that rounds the exact result once. No processor arithmetic is involved, so every
operation can be computed in a proof.
-/
namespace MeshWatch.Number

/-- The number `mantissa * 2 ^ exponent`, negated if `negative`. The constructions below keep
`mantissa < 2 ^ 53` and `-1074 ≤ exponent ≤ 971`, and take the least exponent that allows it. -/
structure Binary64 where
  negative : Bool
  mantissa : Nat
  exponent : Int
deriving DecidableEq, Repr

/-- The quotient `num / den` divided by `2 ^ exponent`, as a numerator and a denominator. -/
def rescaled (num den : Nat) (exponent : Int) : Nat × Nat :=
  if 0 ≤ exponent then (num, den * Nat.pow 2 exponent.toNat)
  else (num * Nat.pow 2 (-exponent).toNat, den)

namespace Binary64

def zero (negative : Bool) : Binary64 := ⟨negative, 0, -1074⟩

def negate (x : Binary64) : Binary64 := { x with negative := !x.negative }

/-- Numerator and denominator of the magnitude. -/
def ratio (x : Binary64) : Nat × Nat :=
  if 0 ≤ x.exponent then (x.mantissa * Nat.pow 2 x.exponent.toNat, 1)
  else (x.mantissa, Nat.pow 2 (-x.exponent).toNat)

/-- The exponent at which the quotient has 53 bits before the point, or the least exponent. -/
def exponentFor (num den : Nat) : Int :=
  let low : Int := max (-1074) ((num.log2 : Int) - den.log2 - 53)
  let (n, d) := rescaled num den low
  if Nat.pow 2 53 ≤ n / d then low + 1 else low

/-- The double nearest to `num / den`, ties to an even mantissa; `none` beyond the largest one. -/
def nearest (num den : Nat) : Option Binary64 :=
  if num = 0 then some (zero false)
  else
    let e := exponentFor num den
    let (n, d) := rescaled num den e
    let m := roundHalfEven n d
    let (m, e) := if m = Nat.pow 2 53 then (Nat.pow 2 52, e + 1) else (m, e)
    if 971 < e then none else some ⟨false, m, e⟩

/-- The product of two magnitudes. -/
def times (x y : Binary64) : Option Binary64 :=
  nearest (x.ratio.1 * y.ratio.1) (x.ratio.2 * y.ratio.2)

/-- The quotient of two magnitudes; the second must not be zero. -/
def dividedBy (x y : Binary64) : Option Binary64 :=
  nearest (x.ratio.1 * y.ratio.2) (x.ratio.2 * y.ratio.1)

/-- The double nearest to `10 ^ k`. -/
def tenToThe (k : Nat) : Option Binary64 := nearest (Nat.pow 10 k) 1

end Binary64

end MeshWatch.Number
