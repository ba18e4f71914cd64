/-!
# Fresh ids

Profiles and port forwards that come without an id are given one. Where ids come from is left
open: a supply is an endless row of them and the place of the next one. A supply that grows from
a random number writes its ids as random UUIDs (version 4).
-/
namespace MeshWatch

structure Supply where
  id : Nat → String
  used : Nat

/-- Some hexadecimal digits of a number, from the digit of the given place down. -/
def hexDigits (n place count : Nat) : List Char :=
  (List.range count).map fun i => Nat.digitChar (n / Nat.pow 16 (place - i) % 16)

/-- The text of a random UUID. Two of its digits say what kind of UUID it is; the others are
those of the number. -/
def uuidText (n : Nat) : String :=
  String.ofList (hexDigits n 29 8 ++ '-' :: hexDigits n 21 4 ++ '-' :: '4' :: hexDigits n 17 3 ++
    '-' :: Nat.digitChar (8 + n / Nat.pow 16 30 % 4) :: hexDigits n 14 3 ++ '-' :: hexDigits n 11 12)

namespace Supply

/-- The supply that grows from a number. -/
def ofSeed (seed : Nat) : Supply := ⟨fun n => uuidText (seed + n), 0⟩

def take (s : Supply) : String × Supply := (s.id s.used, { s with used := s.used + 1 })

/-- The given id, or a fresh one. -/
def idOr (s : Supply) : Option String → String × Supply
  | some id => (id, s)
  | none => s.take

end Supply

end MeshWatch
