import MeshWatch.Number.Binary64

/-!
# Shortest decimal text of a double

Of the decimals that read back as the same double the one with the fewest digits is chosen, and
of those the one nearest to the number. The layout of the digits is a separate record.
-/
namespace MeshWatch.Number

/-- The numbers between `low / den` and `high / den` round to `value / den`; the two ends do so
if `closed`. -/
structure Interval where
  low : Nat
  value : Nat
  high : Nat
  den : Nat
  closed : Bool

/-- The neighbourhood of a positive double. Below a power of two the doubles lie twice as dense. -/
def Binary64.interval (x : Binary64) : Interval :=
  let narrow := x.mantissa = Nat.pow 2 52 ∧ -1074 < x.exponent
  let m := 4 * x.mantissa
  let low := if narrow then m - 1 else m - 2
  let q := x.exponent - 2
  let scale (k : Nat) := if 0 ≤ q then k * Nat.pow 2 q.toNat else k
  ⟨scale low, scale m, scale (m + 2), if 0 ≤ q then 1 else Nat.pow 2 (-q).toNat, x.mantissa % 2 = 0⟩

/-- Whether `digits * 10 ^ power` lies in the interval. -/
def Interval.holds (i : Interval) (digits : Nat) (power : Int) : Bool :=
  let (n, d) := if 0 ≤ power then (digits * Nat.pow 10 power.toNat * i.den, 1)
    else (digits * i.den, Nat.pow 10 (-power).toNat)
  if i.closed then i.low * d ≤ n && n ≤ i.high * d else i.low * d < n && n < i.high * d

/-- The power of ten of the leading digit of `num / den`, for positive numbers. -/
def leadingPower (num den : Nat) : Int :=
  if den ≤ num then ((Nat.toDigits 10 (num / den)).length : Int) - 1
  else -((Nat.toDigits 10 ((den - 1) / num)).length : Int)

/-- The grid points of `10 ^ power` just below and above the value that lie in the interval,
the nearer first; a tie goes to the even one. -/
def Interval.onGrid (i : Interval) (power : Int) : Option Nat :=
  let (n, d) := if 0 ≤ power then (i.value, i.den * Nat.pow 10 power.toNat)
    else (i.value * Nat.pow 10 (-power).toNat, i.den)
  let below := n / d
  let nearer := roundHalfEven n d
  let farther := if nearer = below then below + 1 else below
  if i.holds nearer power then some nearer
  else if i.holds farther power then some farther
  else none

/-- Drops final zeros, counting them. -/
def stripZeros : Nat → Nat → Int → Nat × Int
  | 0, digits, power => (digits, power)
  | fuel + 1, digits, power =>
    if digits ≠ 0 ∧ digits % 10 = 0 then stripZeros fuel (digits / 10) (power + 1)
    else (digits, power)

/-- The shortest digits of a positive double, with at most `17 - used` more places tried. -/
def shortestFrom (i : Interval) (lead : Int) : Nat → Nat → Nat × Int
  | 0, _ => (0, 0)
  | fuel + 1, places =>
    let power := lead - places + 1
    match i.onGrid power with
    | some digits => stripZeros 20 digits power
    | none => shortestFrom i lead fuel (places + 1)

/-- Digits and power of ten of the shortest decimal that reads back. -/
def Binary64.shortest (x : Binary64) : Nat × Int :=
  let i := x.interval
  shortestFrom i (leadingPower i.value i.den) 17 1

/-- How the digits of a double are laid out. -/
structure Layout where
  /-- Least and greatest power of the leading digit that are written without an exponent. -/
  positionalFrom : Int
  positionalTo : Int
  /-- What stands before a positive and before a negative exponent. -/
  positiveMark : String
  negativeMark : String

def zeros (n : Nat) : String := String.ofList (List.replicate n '0')

/-- Positional text of `digits * 10 ^ power`, with at least one digit after the point. -/
def positional (digits : List Char) (power : Int) : String :=
  if 0 ≤ power then String.ofList digits ++ zeros power.toNat ++ ".0"
  else
    let places := (-power).toNat
    if places < digits.length then
      String.ofList (digits.take (digits.length - places)) ++ "." ++
        String.ofList (digits.drop (digits.length - places))
    else "0." ++ zeros (places - digits.length) ++ String.ofList digits

def Layout.text (layout : Layout) (x : Binary64) : String :=
  let sign := if x.negative then "-" else ""
  if x.mantissa = 0 then sign ++ "0.0"
  else
    let (n, power) := x.shortest
    let digits := Nat.toDigits 10 n
    let lead : Int := power + digits.length - 1
    if layout.positionalFrom ≤ lead ∧ lead ≤ layout.positionalTo then
      sign ++ positional digits power
    else
      let tail := match digits with
        | [] | [_] => String.ofList digits
        | first :: rest => String.ofList (first :: '.' :: rest)
      let mark := if 0 ≤ lead then layout.positiveMark else layout.negativeMark
      sign ++ tail ++ mark ++ toString lead.natAbs

end MeshWatch.Number
