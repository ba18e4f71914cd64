import MeshWatch.Number.Binary64
import MeshWatch.Text.Decimal

/-!
# Quantities as text

Byte counts in units of 1024, latencies and peer numbers the way the reports show them.
-/
namespace MeshWatch.Measure

def unitNames : List String := ["K", "M", "G", "T", "P", "E"]

/-- How many times `n` can be divided by 1024 until it is below 1024, but at most `limit` times. -/
def unitIndex : Nat → Nat → Nat
  | 0, _ => 0
  | limit + 1, n => if n < 1024 then 0 else unitIndex limit (n / 1024) + 1

/-- Below 1024 a whole number of bytes. Above it the count as a double, divided by the largest
power of 1024 that it reaches, with one decimal place of which a half goes to the even digit. -/
def bytes (n : UInt64) : String :=
  let n := n.toNat
  if n < 1024 then toString n ++ " B"
  else
    let k := unitIndex unitNames.length n
    let x := (Number.Binary64.nearest n 1).getD (.zero false)
    Number.oneDecimal x.ratio.1 (x.ratio.2 * Nat.pow 1024 k) ++ " " ++
      unitNames.getD (k - 1) "" ++ "B"

def traffic (received sent : UInt64) : String := bytes received ++ " / " ++ bytes sent

/-- A connection's latency, measured in microseconds. -/
def latency (microseconds : UInt64) : String := toString (microseconds.toNat / 1000) ++ " ms"

/-- The latency of a routed path, measured in milliseconds. -/
def pathLatency (milliseconds : UInt32) : String := toString milliseconds.toNat ++ " ms (path)"

/-- Peers are named by the end of their number in messages. -/
def shortPeerId (id : UInt64) : String := Text.lastFourDigits id.toNat

end MeshWatch.Measure
