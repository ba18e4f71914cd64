import MeshWatch.Proofs.Text.Blank
import MeshWatch.Text.Decimal

/-!
# Decimal texts are read back

The decimal text of a number consists of digits alone, without a superfluous zero in front, and
the number is read back from it.
-/
namespace MeshWatch.Text

theorem toList_toString (n : Nat) : (toString n).toList = Nat.toDigits 10 n := by
  rw [Nat.toString_eq_repr, Nat.toList_repr]

theorem isDigit_of_mem {c : Char} {n : Nat} (member : c ∈ Nat.toDigits 10 n) : c.isDigit :=
  Nat.isDigit_of_mem_toDigits (by decide) (by decide) member

theorem not_mem_toDigits {c : Char} (other : c.isDigit = false) (n : Nat) :
    c ∉ Nat.toDigits 10 n := by
  intro member
  simp [isDigit_of_mem member] at other

theorem exists_first_digit (n : Nat) :
    ∃ first others, Nat.toDigits 10 n = first :: others ∧ first.isDigit := by
  obtain ⟨first, others, written⟩ := List.exists_cons_of_ne_nil
    (Nat.toDigits_ne_nil (n := n) (b := 10))
  exact ⟨first, others, written, isDigit_of_mem (n := n) (written ▸ List.mem_cons_self)⟩

theorem toNat_of_isDigit {c : Char} (digit : c.isDigit) : 48 ≤ c.toNat ∧ c.toNat ≤ 57 := by
  simpa [Char.isDigit, UInt32.le_iff_toNat_le] using digit

theorem isBlank_of_isDigit {c : Char} (digit : c.isDigit) : isBlank c = false := by
  have range := toNat_of_isDigit digit
  simp only [isBlank, Bool.or_eq_false_iff, Bool.and_eq_false_iff, decide_eq_false_iff_not,
    beq_eq_false_iff_ne]
  omega

theorem trim_toDigits (n : Nat) : trim (Nat.toDigits 10 n) = Nat.toDigits 10 n :=
  trim_eq_self fun _ member => isBlank_of_isDigit (isDigit_of_mem member)

theorem digitsValue_eq (value : Nat) (s : List Char) :
    digitsValue value s = Nat.ofDigitChars 10 s value := by
  induction s generalizing value with
  | nil => exact Nat.ofDigitChars_nil.symm
  | cons c s ih => exact (ih _).trans Nat.ofDigitChars_cons.symm

theorem digitsValue_toDigits (n : Nat) : digitsValue 0 (Nat.toDigits 10 n) = n := by
  rw [digitsValue_eq, Nat.ofDigitChars_ten_toDigits]

/-- No digits stand in front of zero, and no zero in front of other digits. -/
theorem head?_toDigits {n : Nat} (positive : 0 < n) : (Nat.toDigits 10 n).head? ≠ some '0' := by
  induction n using Nat.strong_induction_on with
  | _ n ih =>
    by_cases small : n < 10
    · rw [Nat.toDigits_of_lt_base small, List.head?_cons, ne_eq, Option.some_inj]
      intro zero
      have code := congrArg Char.toNat zero
      rw [Nat.toNat_digitChar_of_lt_ten small] at code
      simp at code
      omega
    · rw [Nat.toDigits_of_base_le (by decide) (by omega), List.head?_append]
      obtain ⟨first, rest, digits⟩ := List.exists_cons_of_ne_nil
        (Nat.toDigits_ne_nil (n := n / 10) (b := 10))
      have := ih (n / 10) (by omega) (by omega)
      simpa [digits] using this

theorem readDigits?_toDigits (n : Nat) : readDigits? (Nat.toDigits 10 n) = some n := by
  have digits : (Nat.toDigits 10 n).all Char.isDigit :=
    List.all_eq_true.mpr fun _ => isDigit_of_mem
  rw [readDigits?, if_pos ⟨Nat.toDigits_ne_nil, digits⟩, digitsValue_toDigits]

theorem readBounded?_toDigits {n max : Nat} (le : n ≤ max) :
    readBounded? max (Nat.toDigits 10 n) = some n := by
  have unsigned (rest : List Char) : Nat.toDigits 10 n ≠ '+' :: rest := by
    intro signed
    exact not_mem_toDigits (by decide) n (signed ▸ List.mem_cons_self)
  rw [readBounded?, readDigits?_toDigits, Option.filter_some]
  · simp [le]
  · exact unsigned

/-- Nothing is read of a text with a character that no number has. -/
theorem readBounded?_eq_none {c : Char} {s : List Char} (member : c ∈ s) (other : c.isDigit = false)
    (unsigned : c ≠ '+') (max : Nat) : readBounded? max s = none := by
  have unread {digits : List Char} (inside : c ∈ digits) : readDigits? digits = none := by
    refine if_neg ?_
    rintro ⟨-, digits⟩
    have digit := List.all_eq_true.mp digits c inside
    rw [other] at digit
    cases digit
  simp only [readBounded?]
  split
  · rw [unread (List.mem_of_ne_of_mem unsigned member), Option.filter_none]
  · rw [unread member, Option.filter_none]

end MeshWatch.Text
