import MeshWatch.Saved
import MeshWatch.Text.Lines
import MeshWatch.Text.Decimal

/-!
# Addresses

IPv4 addresses as 32-bit words, written in the usual four decimal numbers.
-/
namespace MeshWatch

structure Ipv4 where
  bits : UInt32
deriving DecidableEq

namespace Ipv4

/-- The engine packs an address into a signed number; only the low 32 bits count. -/
def ofPacked (n : Int64) : Ipv4 := ⟨n.toUInt64.toUInt32⟩

def octet (a : Ipv4) (k : UInt32) : Nat := ((a.bits >>> (8 * k)) &&& 255).toNat

def text (a : Ipv4) : String :=
  toString (a.octet 3) ++ "." ++ toString (a.octet 2) ++ "." ++ toString (a.octet 1) ++ "." ++
    toString (a.octet 0)

/-- A number up to 255 in at most three digits, without superfluous zeros in front. -/
def readOctet? (s : List Char) : Option Nat :=
  if 3 < s.length ∨ (1 < s.length ∧ s.head? = some '0') then none
  else (Text.readDigits? s).filter (· ≤ 255)

def ofText? (s : String) : Option Ipv4 :=
  match (Text.splitOn '.' s.toList).mapM readOctet? with
  | some [a, b, c, d] => some ⟨.ofNat (((a * 256 + b) * 256 + c) * 256 + d)⟩
  | _ => none

def read : Data.Reader Ipv4
  | .text s =>
    match ofText? s with
    | some a => .ok a
    | none => .error (.notAnAddress s)
  | other => .error (.wrongType other "an address")

instance : Saved Ipv4 := ⟨fun a => .text a.text, read⟩

end Ipv4

/-- An address in a virtual network, with the length of the network's part. -/
structure VirtualAddress where
  address : Ipv4
  networkLength : UInt8
deriving DecidableEq

namespace VirtualAddress

def text (v : VirtualAddress) : String := v.address.text ++ "/" ++ toString v.networkLength.toNat

def write (v : VirtualAddress) : Data :=
  .record [("address", Saved.write v.address), ("prefix_len", Saved.write v.networkLength)]

def read : Data.Reader VirtualAddress :=
  .record "a virtual address" (mk <$> Saved.field "address" <*> Saved.field "prefix_len")

instance : Saved VirtualAddress := ⟨write, read⟩

end VirtualAddress

end MeshWatch
