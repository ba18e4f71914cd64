import Mathlib.Algebra.Order.Field.Rat
import Mathlib.Algebra.Ring.Int.Parity
import Mathlib.Tactic.Linarith
import Mathlib.Tactic.NormNum
import Mathlib.Tactic.Positivity
import MeshWatch.Number.Rounding

/-!
# Rounding is to the nearest

A quotient is rounded to a whole number that no other is nearer to, and between two that are as
near to the even one. That fixes the rounded number, keeps the order of what is rounded and leaves
whole numbers alone.
-/
namespace MeshWatch.Number

variable {num den t u : Nat} {q r : ℚ}

/-- `t` is the whole number nearest to `q`, the even one if there are two. -/
structure IsRounded (q : ℚ) (t : Nat) : Prop where
  near : |(t : ℚ) - q| ≤ 1 / 2
  even : |(t : ℚ) - q| = 1 / 2 → Even t

section Halves

variable {whole : Nat} {part : ℚ}

theorem isRounded_down (nonneg : 0 ≤ part) (below : part ≤ 1 / 2)
    (even : part = 1 / 2 → Even whole) : IsRounded (whole + part) whole := by
  have distance : |(whole : ℚ) - (whole + part)| = part := by
    rw [sub_add_cancel_left, abs_neg, abs_of_nonneg nonneg]
  exact ⟨distance.trans_le below, fun tie => even (distance.symm.trans tie)⟩

theorem isRounded_up (le_one : part ≤ 1) (above : 1 / 2 ≤ part)
    (odd : part = 1 / 2 → ¬ Even whole) : IsRounded (whole + part) (whole + 1) := by
  have distance : |((whole + 1 : ℕ) : ℚ) - (whole + part)| = 1 - part := by
    rw [Nat.cast_succ, add_sub_add_left_eq_sub, abs_of_nonneg (by linarith)]
  refine ⟨by linarith, ?_⟩
  intro tie
  exact Nat.even_add_one.mpr (odd (by linarith))

end Halves

theorem isRounded_roundHalfEven (positive : 0 < den) :
    IsRounded ((num : ℚ) / den) (roundHalfEven num den) := by
  have den_pos : (0 : ℚ) < den := by exact_mod_cast positive
  have quotient : (num : ℚ) / den = (num / den : ℕ) + ((num % den : ℕ) : ℚ) / den := by
    rw [div_eq_iff den_pos.ne', add_mul, div_mul_cancel₀ _ den_pos.ne']
    exact_mod_cast (Nat.div_add_mod' num den).symm
  have nonneg : 0 ≤ ((num % den : ℕ) : ℚ) / den := by positivity
  have below : ((num % den : ℕ) : ℚ) / den < 1 := by
    rw [div_lt_one den_pos]
    exact_mod_cast Nat.mod_lt num positive
  have beyond : den < 2 * (num % den) ↔ (1 : ℚ) / 2 < ((num % den : ℕ) : ℚ) / den := by
    rw [div_lt_div_iff₀ two_pos den_pos, one_mul, mul_comm]
    exact_mod_cast Iff.rfl
  have half : 2 * (num % den) = den ↔ ((num % den : ℕ) : ℚ) / den = 1 / 2 := by
    rw [div_eq_div_iff den_pos.ne' two_ne_zero, one_mul, mul_comm]
    exact_mod_cast Iff.rfl
  simp only [roundHalfEven, quotient, beyond, half, ← Nat.not_even_iff]
  generalize num / den = whole
  generalize ((num % den : ℕ) : ℚ) / den = part at nonneg below
  split
  case isTrue up =>
    refine isRounded_up below.le ?_ ?_
    · exact up.elim le_of_lt fun tie => tie.1.ge
    · intro tie
      exact (up.resolve_left tie.not_gt).2
  case isFalse down =>
    push Not at down
    exact isRounded_down nonneg down.1 down.2

namespace IsRounded

/-- No whole number is nearer, and if another one is as near, the rounded number is even. -/
theorem le_abs (rounded : IsRounded q t) (k : ℤ) :
    |(t : ℚ) - q| ≤ |(k : ℚ) - q| ∧ (k ≠ t → |(t : ℚ) - q| = |(k : ℚ) - q| → Even t) := by
  obtain rfl | other := eq_or_ne k t
  · exact ⟨le_rfl, fun ne => absurd rfl ne⟩
  have apart : (1 : ℚ) ≤ |(k : ℚ) - t| := by
    exact_mod_cast Int.one_le_abs (sub_ne_zero.mpr other)
  have through := abs_sub_le (k : ℚ) q t
  rw [abs_sub_comm q] at through
  have near := rounded.near
  exact ⟨by linarith, fun _ tie => rounded.even (by linarith)⟩

theorem mono (rounded : IsRounded q t) (rounded' : IsRounded r u) (le : q ≤ r) : t ≤ u := by
  by_contra less
  rw [not_le] at less
  have step : (u : ℚ) + 1 ≤ t := by exact_mod_cast less
  obtain ⟨below, -⟩ := abs_le.mp rounded.near
  obtain ⟨-, above⟩ := abs_le.mp rounded'.near
  have := neg_le_of_abs_le rounded'.near
  have := le_of_abs_le rounded.near
  -- Only neighbours can be exchanged, and both numbers are then rounded from the middle.
  have next : t = u + 1 := by
    have : (t : ℚ) < (u + 2 : ℕ) := by push_cast; linarith
    have : t < u + 2 := by exact_mod_cast this
    omega
  have tie : |(t : ℚ) - q| = 1 / 2 := by rw [abs_of_nonneg] <;> linarith
  have tie' : |(u : ℚ) - r| = 1 / 2 := by rw [abs_of_nonpos] <;> linarith
  have even := rounded.even tie
  rw [next, Nat.even_add_one] at even
  exact even (rounded'.even tie')

theorem natCast (n : Nat) : IsRounded n n := by
  refine ⟨?_, ?_⟩ <;> norm_num

theorem le_of_le {n : Nat} (rounded : IsRounded q t) (le : q ≤ n) : t ≤ n :=
  rounded.mono (.natCast n) le

theorem ge_of_ge {n : Nat} (rounded : IsRounded q t) (ge : (n : ℚ) ≤ q) : n ≤ t :=
  (natCast n).mono rounded ge

end IsRounded

end MeshWatch.Number
