import MeshWatch.Number.Binary64
import MeshWatch.Text.Decimal

/-!
# Decimal literals

The double a decimal literal stands for. A literal is read in two roundings: its leading digits,
as many as fit 64 bits, are rounded to a double, and that double is multiplied or divided by a
power of ten, which is itself rounded. The result can differ from the nearest double in its last
bit.
-/
namespace MeshWatch.Number

/-- A number as written: digits before the point, digits after it, power of ten. -/
structure Literal where
  negative : Bool
  whole : List Char
  fraction : List Char
  power : Int
deriving DecidableEq

/-- Appends digits to a significand until the next one would pass 64 bits; the digits left over. -/
def keepDigits (significand : Nat) : List Char → Nat × List Char
  | [] => (significand, [])
  | c :: rest =>
    let next := 10 * significand + Text.digitValue c
    if next < Nat.pow 2 64 then keepDigits next rest else (significand, c :: rest)

namespace Literal

/-- The digits that are kept and the power of ten that belongs to them. -/
def kept (l : Literal) : Nat × Int :=
  let (significand, droppedWhole) := keepDigits 0 l.whole
  let (significand', droppedFraction) := keepDigits significand l.fraction
  let taken := l.fraction.length - droppedFraction.length
  (significand', l.power + droppedWhole.length - taken)

/-- A double times a power of ten. -/
def scale (f : Binary64) (power : Int) : Option Binary64 :=
  if f.mantissa = 0 then some f
  else if 308 < power then none
  else if 0 ≤ power then (Binary64.tenToThe power.toNat).bind f.times
  else if -308 ≤ power then (Binary64.tenToThe (-power).toNat).bind f.dividedBy
  else if -616 ≤ power then do
    let f ← f.dividedBy (← Binary64.tenToThe 308)
    f.dividedBy (← Binary64.tenToThe (-(power + 308)).toNat)
  else some (Binary64.zero false)

/-- The double that the literal stands for; `none` if it is too large for one. -/
def double (l : Literal) : Option Binary64 :=
  let (significand, power) := l.kept
  ((Binary64.nearest significand 1).bind (scale · power)).map
    fun f => { f with negative := l.negative }

end Literal

end MeshWatch.Number
