import Mathlib.Data.Nat.Log
import MeshWatch.Measure
import MeshWatch.Proofs.Text.Digits

/-!
# Short peer numbers

Messages name a peer by the end of its number's decimal text. The place to cut at is always one
between two digits, and what is cut off stands for the remainder by ten thousand: with zeros in
front if the number has five digits or more, and otherwise it is the whole number.
-/
namespace MeshWatch.Measure

variable {n : Nat}

theorem length_toDigits (n : Nat) : (Nat.toDigits 10 n).length = Nat.log 10 n + 1 := by
  refine Nat.le_antisymm ?_ ?_
  · exact (Nat.length_toDigits_le_iff (by decide) (Nat.succ_pos _)).mpr
      (Nat.lt_pow_succ_log_self (by decide) n)
  · refine Nat.log_lt_of_lt_pow' ?_ ?_
    · exact Nat.ne_of_gt Nat.length_toDigits_pos
    · exact (Nat.length_toDigits_le_iff (by decide) Nat.length_toDigits_pos).mp le_rfl

/-- The last four digits of a number's decimal text. -/
def lastFour (n : Nat) : List Char :=
  (Nat.toDigits 10 n).drop ((Nat.toDigits 10 n).length - 4)

theorem toList_lastFourDigits (n : Nat) : (Text.lastFourDigits n).toList = lastFour n :=
  String.toList_ofList

theorem isDigit_of_mem_lastFour {c : Char} (member : c ∈ lastFour n) : c.isDigit :=
  Text.isDigit_of_mem (List.mem_of_mem_drop member)

theorem length_lastFour (n : Nat) : (lastFour n).length = min 4 (Nat.log 10 n + 1) := by
  rw [lastFour, List.length_drop, ← length_toDigits]
  omega

theorem length_lastFour_of_le (large : 10000 ≤ n) : (lastFour n).length = 4 := by
  have wide : 4 ≤ Nat.log 10 n := Nat.le_log_of_pow_le (by decide) large
  rw [length_lastFour]
  omega

/-- Every digit is one byte, so there is a place to cut at in front of any of them. -/
theorem cutBytes_lastFour (n : Nat) :
    ∃ front, Text.cutBytes (Text.byteCount (Nat.toDigits 10 n) - 4) (Nat.toDigits 10 n) =
      some (front, lastFour n) := by
  let front := (Nat.toDigits 10 n).take ((Nat.toDigits 10 n).length - 4)
  have whole : Nat.toDigits 10 n = front ++ lastFour n := (List.take_append_drop _ _).symm
  have place : Text.byteCount (Nat.toDigits 10 n) - 4 = Text.byteCount front := by
    rw [Text.byteCount_of_digits fun _ => Text.isDigit_of_mem,
      Text.byteCount_of_digits fun _ member => Text.isDigit_of_mem (List.mem_of_mem_take member),
      List.length_take]
    omega
  refine ⟨front, ?_⟩
  rw [place]
  conv_lhs => rw [whole]
  exact Text.cutBytes_byteCount front (lastFour n)

theorem lastFour_of_lt (small : n < 10000) : lastFour n = Nat.toDigits 10 n := by
  have fits : (Nat.toDigits 10 n).length ≤ 4 :=
    (Nat.length_toDigits_le_iff (by decide) (by decide)).mpr small
  rw [lastFour, Nat.sub_eq_zero_of_le fits, List.drop_zero]

theorem digitsValue_lastFour (n : Nat) : Text.digitsValue 0 (lastFour n) = n % 10000 := by
  by_cases small : n < 10000
  · rw [lastFour_of_lt small, Text.digitsValue_toDigits, Nat.mod_eq_of_lt small]
  · have four : (lastFour n).length = 4 := length_lastFour_of_le (Nat.le_of_not_lt small)
    have remainder := Text.digitsValue_append_mod
      (fun _ => isDigit_of_mem_lastFour (n := n))
      ((Nat.toDigits 10 n).take ((Nat.toDigits 10 n).length - 4))
    rw [four, lastFour, List.take_append_drop, Text.digitsValue_toDigits] at remainder
    exact remainder.symm

theorem lastFourDigits_eq (n : Nat) :
    Text.lastFourDigits n = if n < 10000 then toString n else Logging.padded 4 (n % 10000) := by
  rw [← String.toList_inj, toList_lastFourDigits]
  split
  · rename_i small
    rw [lastFour_of_lt small, Text.toList_toString]
  · rename_i large
    have four : (lastFour n).length = 4 := length_lastFour_of_le (Nat.le_of_not_lt large)
    have filled : lastFour n ≠ [] := List.ne_nil_of_length_pos (by omega)
    have row := Text.toList_padded filled fun _ => isDigit_of_mem_lastFour
    rw [four, digitsValue_lastFour] at row
    exact row.symm

/-- A short peer number is cut off the decimal text of the peer's number, four bytes from its end
or at its beginning, which always succeeds. It has four digits, or all of them if there are fewer
(`Nat.log 10 n + 1` is how many `n` has), is read as the remainder by ten thousand, and is the
number itself below ten thousand and the remainder in four places from there on. -/
theorem shortPeerId_last_digits (id : UInt64) :
    (∃ front, Text.cutBytes (Text.byteCount (toString id.toNat).toList - 4)
      (toString id.toNat).toList = some (front, (shortPeerId id).toList)) ∧
    (shortPeerId id).length = min 4 (Nat.log 10 id.toNat + 1) ∧
    (shortPeerId id).toList.all Char.isDigit ∧
    Text.readDigits? (shortPeerId id).toList = some (id.toNat % 10000) ∧
    shortPeerId id = if id.toNat < 10000 then toString id.toNat
      else Logging.padded 4 (id.toNat % 10000) := by
  have digits : (shortPeerId id).toList = lastFour id.toNat := toList_lastFourDigits id.toNat
  have all : (lastFour id.toNat).all Char.isDigit :=
    List.all_eq_true.mpr fun _ => isDigit_of_mem_lastFour
  have filled : lastFour id.toNat ≠ [] := by
    refine List.ne_nil_of_length_pos ?_
    rw [length_lastFour]
    omega
  rw [← String.length_toList, digits, Text.toList_toString]
  refine ⟨cutBytes_lastFour id.toNat, length_lastFour id.toNat, all, ?_,
    lastFourDigits_eq id.toNat⟩
  rw [Text.readDigits?, if_pos ⟨filled, all⟩, digitsValue_lastFour]

example : shortPeerId 3812340078 = "0078" := by decide

end MeshWatch.Measure
