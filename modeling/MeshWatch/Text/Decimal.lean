/-!
# Decimal texts of bounded numbers

A number in a setting is written with ASCII digits and at most one leading plus sign. Nothing
else is read: no minus sign, no blanks, no digits of other scripts.
-/
namespace MeshWatch.Text

def digitValue (c : Char) : Nat := c.toNat - '0'.toNat

/-- The value of a row of digits, most significant first, after the digits read so far. -/
def digitsValue (value : Nat) : List Char → Nat
  | [] => value
  | c :: rest => digitsValue (10 * value + digitValue c) rest

/-- A non-empty row of ASCII digits. -/
def readDigits? (s : List Char) : Option Nat :=
  if s ≠ [] ∧ s.all Char.isDigit then some (digitsValue 0 s) else none

/-- Digits with an optional plus sign, for a number that is at most `max`. -/
def readBounded? (max : Nat) (s : List Char) : Option Nat :=
  let digits := match s with
    | '+' :: rest => rest
    | s => s
  (readDigits? digits).filter (· ≤ max)

/-- The last four decimal digits of a number, or all of them if there are fewer. -/
def lastFourDigits (n : Nat) : String :=
  let digits := Nat.toDigits 10 n
  String.ofList (digits.drop (digits.length - 4))

end MeshWatch.Text
