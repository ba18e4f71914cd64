import Mathlib.Algebra.Group.Nat.Defs
import Mathlib.Data.List.Induction
import MeshWatch.Logging.Calendar
import MeshWatch.Proofs.Text.Decimal
import MeshWatch.Text.Bytes

/-!
# Rows of digits

A row of decimal digits stands for a number, whatever zeros it begins with. The end of a row stands
for a remainder by a power of ten, and among the rows of one length there is one for each number.
A row is therefore known by its length and its number.
-/
namespace MeshWatch.Text

variable {c d : Char} {s t : List Char}

theorem digitValue_lt (digit : c.isDigit) : digitValue c < 10 := by
  have range := toNat_of_isDigit digit
  have zero : '0'.toNat = 48 := rfl
  rw [digitValue, zero]
  omega

theorem eq_of_digitValue_eq (first : c.isDigit) (second : d.isDigit)
    (same : digitValue c = digitValue d) : c = d := by
  have left := toNat_of_isDigit first
  have right := toNat_of_isDigit second
  have zero : '0'.toNat = 48 := rfl
  have codes : c.toNat = d.toNat := by
    rw [digitValue, digitValue, zero] at same
    omega
  exact Char.ext (UInt32.toNat_inj.mp codes)

theorem digitsValue_append (value : Nat) (s t : List Char) :
    digitsValue value (s ++ t) = 10 ^ t.length * digitsValue value s + digitsValue 0 t := by
  rw [digitsValue_eq, digitsValue_eq, digitsValue_eq, Nat.ofDigitChars_append,
    Nat.ofDigitChars_eq_ofDigitChars_zero]

theorem digitsValue_concat (s : List Char) (c : Char) :
    digitsValue 0 (s ++ [c]) = 10 * digitsValue 0 s + digitValue c := by
  have single : digitsValue 0 [c] = 10 * 0 + digitValue c := rfl
  rw [digitsValue_append, single, List.length_singleton, Nat.pow_one, Nat.mul_zero, Nat.zero_add]

theorem digitsValue_lt (digits : ∀ c ∈ s, c.isDigit) : digitsValue 0 s < 10 ^ s.length := by
  induction s using List.reverseRecOn with
  | nil => exact Nat.one_pos
  | append_singleton s c ih =>
    have front := ih fun x member => digits x (List.mem_append_left _ member)
    have last := digitValue_lt (digits c (by simp))
    rw [digitsValue_concat, List.length_append, List.length_singleton, Nat.pow_succ]
    omega

/-- The last digits of a row are the remainder by a power of ten. -/
theorem digitsValue_append_mod (digits : ∀ c ∈ t, c.isDigit) (s : List Char) :
    digitsValue 0 (s ++ t) % 10 ^ t.length = digitsValue 0 t := by
  rw [digitsValue_append, Nat.mul_add_mod, Nat.mod_eq_of_lt (digitsValue_lt digits)]

/-- Rows of one length that stand for one number are the same row. -/
theorem eq_of_digitsValue_eq (first : ∀ c ∈ s, c.isDigit) (second : ∀ c ∈ t, c.isDigit)
    (width : s.length = t.length) (same : digitsValue 0 s = digitsValue 0 t) : s = t := by
  induction s using List.reverseRecOn generalizing t with
  | nil => exact (List.length_eq_zero_iff.mp width.symm).symm
  | append_singleton s c ih =>
    cases t using List.reverseRecOn with
    | nil => simp at width
    | append_singleton t d =>
      have left := digitValue_lt (first c (by simp))
      have right := digitValue_lt (second d (by simp))
      rw [digitsValue_concat, digitsValue_concat] at same
      have last : c = d := eq_of_digitValue_eq (first c (by simp)) (second d (by simp)) (by omega)
      have front : s = t := by
        refine ih ?_ ?_ ?_ ?_
        · exact fun x member => first x (List.mem_append_left _ member)
        · exact fun x member => second x (List.mem_append_left _ member)
        · simpa using width
        · omega
      rw [front, last]

/-- Digits take one byte each. -/
theorem byteCount_of_digits (digits : ∀ c ∈ s, c.isDigit) : byteCount s = s.length := by
  induction s with
  | nil => rfl
  | cons c s ih =>
    obtain ⟨own, others⟩ := List.forall_mem_cons.mp digits
    have ascii : c.val.toNat ≤ 127 := Nat.le_trans (toNat_of_isDigit own).2 (by decide)
    have one : c.utf8Size = 1 := Char.utf8Size_eq_one_iff.mpr (UInt32.le_iff_toNat_le.mpr ascii)
    rw [byteCount, one, ih others, List.length_cons, Nat.add_comm]

/-- A number with zeros in front is the row of that length that stands for it. -/
theorem toList_padded (filled : s ≠ []) (digits : ∀ c ∈ s, c.isDigit) :
    (Logging.padded s.length (digitsValue 0 s)).toList = s := by
  have written : (Logging.padded s.length (digitsValue 0 s)).toList =
      List.replicate (s.length - (Nat.toDigits 10 (digitsValue 0 s)).length) '0' ++
        Nat.toDigits 10 (digitsValue 0 s) := by
    rw [Logging.padded, String.toList_append, String.toList_ofList, ← String.length_toList,
      toList_toString]
  have fits : (Nat.toDigits 10 (digitsValue 0 s)).length ≤ s.length :=
    (Nat.length_toDigits_le_iff (by decide) (List.length_pos_iff.mpr filled)).mpr
      (digitsValue_lt digits)
  rw [written]
  refine eq_of_digitsValue_eq ?_ digits ?_ ?_
  · intro c member
    rcases List.mem_append.mp member with zero | digit
    · rw [List.eq_of_mem_replicate zero]
      rfl
    · exact isDigit_of_mem digit
  · rw [List.length_append, List.length_replicate]
    omega
  · have zeros (k : Nat) : digitsValue 0 (List.replicate k '0') = 0 := by
      rw [digitsValue_eq, Nat.ofDigitChars_replicate_zero, Nat.mul_zero]
    rw [digitsValue_append, zeros, digitsValue_toDigits, Nat.mul_zero, Nat.zero_add]

end MeshWatch.Text
