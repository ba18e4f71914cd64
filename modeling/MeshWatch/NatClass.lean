import MeshWatch.Saved

/-!
# NAT classes

The engine reports how a node's addresses are translated as a code. Ten codes have a class of
their own; any other code is kept as it is, so that a new one never stops a snapshot.
-/
namespace MeshWatch

inductive NatClass
  | unknown
  | openInternet
  | noPat
  | fullCone
  | restrictedCone
  | portRestrictedCone
  | symmetric
  | symmetricFirewall
  | symmetricIncreasing
  | symmetricDecreasing
  | other (code : Int64)
deriving DecidableEq, Inhabited

namespace NatClass

def ofCode (code : Int64) : NatClass :=
  if code = 0 then unknown
  else if code = 1 then openInternet
  else if code = 2 then noPat
  else if code = 3 then fullCone
  else if code = 4 then restrictedCone
  else if code = 5 then portRestrictedCone
  else if code = 6 then symmetric
  else if code = 7 then symmetricFirewall
  else if code = 8 then symmetricIncreasing
  else if code = 9 then symmetricDecreasing
  else other code

def code : NatClass → Int64
  | unknown => 0
  | openInternet => 1
  | noPat => 2
  | fullCone => 3
  | restrictedCone => 4
  | portRestrictedCone => 5
  | symmetric => 6
  | symmetricFirewall => 7
  | symmetricIncreasing => 8
  | symmetricDecreasing => 9
  | other code => code

def label : NatClass → String
  | unknown => "Unknown"
  | openInternet => "Open Internet"
  | noPat => "No PAT"
  | fullCone => "Full Cone"
  | restrictedCone => "Restricted Cone"
  | portRestrictedCone => "Port-Restricted Cone"
  | symmetric => "Symmetric"
  | symmetricFirewall => "Symmetric+Firewall"
  | symmetricIncreasing => "Symmetric Increasing"
  | symmetricDecreasing => "Symmetric Decreasing"
  | other code => "Other(" ++ toString code.toInt ++ ")"

def name : NatClass → String
  | unknown => "Unknown"
  | openInternet => "OpenInternet"
  | noPat => "NoPat"
  | fullCone => "FullCone"
  | restrictedCone => "RestrictedCone"
  | portRestrictedCone => "PortRestrictedCone"
  | symmetric => "Symmetric"
  | symmetricFirewall => "SymmetricFirewall"
  | symmetricIncreasing => "SymmetricIncreasing"
  | symmetricDecreasing => "SymmetricDecreasing"
  | other _ => "Other"

/-- The classes that have a code of their own, in the order of their codes, with their names. -/
def named : List (String × NatClass) :=
  [unknown, openInternet, noPat, fullCone, restrictedCone, portRestrictedCone, symmetric,
    symmetricFirewall, symmetricIncreasing, symmetricDecreasing].map fun c => (c.name, c)

/-- A class of its own is saved as its name, another one as a record of its code. -/
def write : NatClass → Data
  | other code => .record [("Other", Saved.write code)]
  | c => .text c.name

def read : Data.Reader NatClass
  | .record [("Other", code)] => (Saved.read code).map other
  | d => Data.Reader.word named d

instance : Saved NatClass := ⟨write, read⟩

end NatClass

end MeshWatch
