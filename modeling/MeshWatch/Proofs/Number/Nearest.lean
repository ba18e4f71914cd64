import Mathlib.Algebra.Order.Field.Power
import Mathlib.Tactic.Ring
import MeshWatch.Number.Binary64
import MeshWatch.Proofs.Number.Rounding

/-!
# The nearest double

Of all doubles the one that stands for a quotient is nearest to it, and between two that are as
near it is the one with the even mantissa. Below `2 ^ (53 + e)` it is at most half of `2 ^ e` away.
-/
namespace MeshWatch.Number.Binary64

variable {num den m : Nat} {e : Int} {q r : ℚ} {x y : Binary64}

/-! ## Doubles as numbers -/

/-- The mantissa with its sign. -/
def signed (x : Binary64) : ℤ := if x.negative then -x.mantissa else x.mantissa

def value (x : Binary64) : ℚ := x.signed * 2 ^ x.exponent

/-- The mantissa and the exponent fit the format. One number can have several such forms. -/
structure IsDouble (x : Binary64) : Prop where
  mantissa_lt : x.mantissa < 2 ^ 53
  least_le : -1074 ≤ x.exponent
  le_greatest : x.exponent ≤ 971

/-- `x` is the double nearest to `q`, of two the one with the even mantissa. Its exponent is as
small as the mantissa allows, which makes the mantissa unique. -/
structure IsNearest (q : ℚ) (x : Binary64) : Prop where
  double : x.IsDouble
  reduced : x.exponent = -1074 ∨ 2 ^ 52 ≤ x.mantissa
  near : ∀ y, IsDouble y → |x.value - q| ≤ |y.value - q|
  even : ∀ y, IsDouble y → y.value ≠ x.value → |x.value - q| = |y.value - q| → Even x.mantissa

@[simp] theorem value_zero : (zero false).value = 0 := by
  simp [value, signed, zero]

theorem abs_signed (x : Binary64) : |(x.signed : ℚ)| = x.mantissa := by
  rw [signed]
  split <;> simp

theorem abs_value (x : Binary64) : |x.value| = x.mantissa * 2 ^ x.exponent := by
  rw [value, abs_mul, abs_signed, abs_of_pos (by positivity)]

theorem ratio_pos (x : Binary64) : 0 < x.ratio.2 := by
  rw [ratio]
  split
  · exact Nat.one_pos
  · exact Nat.two_pow_pos _

theorem ratio_eq (x : Binary64) : (x.ratio.1 : ℚ) / x.ratio.2 = |x.value| := by
  rw [abs_value, ratio]
  split
  case isTrue nonneg =>
    obtain ⟨k, whole⟩ := Int.eq_ofNat_of_zero_le nonneg
    simp [whole]
  case isFalse negative =>
    obtain ⟨k, whole⟩ : ∃ k : Nat, x.exponent = -k := ⟨(-x.exponent).toNat, by omega⟩
    simp [whole, div_eq_mul_inv]

namespace IsNearest

/-- Rounding does not pass a double. -/
theorem le_of_le (nearest : IsNearest q x) (double : y.IsDouble) (le : q ≤ y.value) :
    x.value ≤ y.value := by
  have near := (le_abs_self _).trans (nearest.near y double)
  rw [abs_of_nonneg (sub_nonneg.mpr le)] at near
  exact sub_le_sub_iff_right q |>.mp near

theorem ge_of_ge (nearest : IsNearest q x) (double : y.IsDouble) (ge : y.value ≤ q) :
    y.value ≤ x.value := by
  have near := (neg_le_abs _).trans (nearest.near y double)
  rw [abs_of_nonpos (sub_nonpos.mpr ge)] at near
  exact sub_le_sub_iff_right q |>.mp (neg_le_neg_iff.mp near)

theorem mono (nearest : IsNearest q x) (nearest' : IsNearest r y) (lt : q < r) :
    x.value ≤ y.value := by
  by_contra less
  rw [not_le] at less
  have left := sq_le_sq.mpr (nearest.near y nearest'.double)
  have right := sq_le_sq.mpr (nearest'.near x nearest.double)
  nlinarith

end IsNearest

/-! ## The grid of an exponent -/

/-- The exponent of the double nearest to `q`: the quotient of `q` by its power of two fits a
mantissa, and does not leave bits of it unused unless the exponent is the least one. -/
structure Fits (q : ℚ) (e : Int) : Prop where
  least_le : -1074 ≤ e
  below : q < 2 ^ 53 * 2 ^ e
  full : e = -1074 ∨ 2 ^ 52 * 2 ^ e ≤ q

/-- A double lies on the grid of an exponent or below its upper half. -/
theorem onGrid_or_below (double : y.IsDouble) (e : Int) :
    (∃ k : ℤ, y.value = k * 2 ^ e) ∨ (y.exponent < e ∧ y.value < 2 ^ 52 * 2 ^ e) := by
  obtain finer | coarser := lt_or_ge y.exponent e
  · refine .inr ⟨finer, ?_⟩
    have mantissa : (y.mantissa : ℚ) < 2 ^ 53 := by exact_mod_cast double.mantissa_lt
    calc y.value ≤ |y.value| := le_abs_self _
      _ = y.mantissa * 2 ^ y.exponent := abs_value y
      _ < 2 ^ 53 * 2 ^ y.exponent := by gcongr
      _ ≤ 2 ^ 53 * 2 ^ (e - 1) := by
        gcongr
        · exact one_le_two
        · omega
      _ = 2 ^ 52 * 2 ^ e := by rw [zpow_sub_one₀ two_ne_zero]; ring
  · obtain ⟨k, apart⟩ := Int.eq_ofNat_of_zero_le (sub_nonneg.mpr coarser)
    refine .inl ⟨y.signed * 2 ^ k, ?_⟩
    rw [value, eq_add_of_sub_eq apart, zpow_add₀ two_ne_zero, zpow_natCast]
    push_cast
    ring

theorem abs_scaled_sub (k q : ℚ) (e : Int) : |k * 2 ^ e - q| = |k - q / 2 ^ e| * 2 ^ e := by
  have pos : (0 : ℚ) < 2 ^ e := by positivity
  rw [← abs_of_pos pos, ← abs_mul, abs_of_pos pos, sub_mul, div_mul_cancel₀ _ pos.ne']

/-- Rounding on the grid of the exponent comes as near as any double can. -/
theorem near_of_rounded (fits : Fits q e) (rounded : IsRounded (q / 2 ^ e) m)
    (double : y.IsDouble) :
    |(m : ℚ) * 2 ^ e - q| ≤ |y.value - q| ∧
      (y.value ≠ m * 2 ^ e → |(m : ℚ) * 2 ^ e - q| = |y.value - q| → Even m) := by
  have pos : (0 : ℚ) < 2 ^ e := by positivity
  obtain ⟨k, onGrid⟩ | ⟨finer, below⟩ := onGrid_or_below double e
  · obtain ⟨near, even⟩ := rounded.le_abs k
    rw [onGrid, abs_scaled_sub, abs_scaled_sub, mul_left_inj' pos.ne']
    refine ⟨by gcongr, fun other tie => even ?_ tie⟩
    rintro rfl
    exact other rfl
  · -- A double off the grid is below its upper half, which `q` is not.
    have full := fits.full.resolve_left (by have := double.least_le; omega)
    have near : |(m : ℚ) * 2 ^ e - q| ≤ q - 2 ^ 52 * 2 ^ e := by
      rw [← abs_of_nonneg (sub_nonneg.mpr full), abs_sub_comm q, abs_scaled_sub, abs_scaled_sub]
      have upper := (rounded.le_abs (2 ^ 52)).1
      rw [Int.cast_pow, Int.cast_ofNat] at upper
      exact mul_le_mul_of_nonneg_right upper pos.le
    have nearer : |(m : ℚ) * 2 ^ e - q| < |y.value - q| := by
      rw [abs_of_neg (by linarith : y.value - q < 0)]
      linarith
    exact ⟨nearer.le, fun _ tie => absurd tie nearer.ne⟩

/-! ## Finding the exponent -/

theorem rescaled_pos (positive : 0 < den) (num : Nat) (e : Int) : 0 < (rescaled num den e).2 := by
  rw [rescaled]
  split
  · exact Nat.mul_pos positive (Nat.two_pow_pos _)
  · exact positive

theorem rescaled_eq (num den : Nat) (e : Int) :
    ((rescaled num den e).1 : ℚ) / (rescaled num den e).2 = num / den / 2 ^ e := by
  rw [rescaled]
  split
  case isTrue nonneg =>
    obtain ⟨k, rfl⟩ := Int.eq_ofNat_of_zero_le nonneg
    simp [div_div]
  case isFalse negative =>
    obtain ⟨k, rfl⟩ : ∃ k : Nat, e = -k := ⟨(-e).toNat, by omega⟩
    simp [div_eq_mul_inv, mul_right_comm]

theorem log2_bounds (positive : 0 < num) :
    (2 : ℚ) ^ (num.log2 : ℤ) ≤ num ∧ (num : ℚ) < 2 ^ (num.log2 + 1 : ℤ) := by
  constructor
  · exact_mod_cast Nat.log2_self_le positive.ne'
  · exact_mod_cast Nat.lt_log2_self

theorem exponentFor_eq (den_pos : 0 < den) {low : Int}
    (least : max (-1074) ((num.log2 : Int) - den.log2 - 53) = low) :
    exponentFor num den = if 2 ^ 53 * 2 ^ low ≤ (num : ℚ) / den then low + 1 else low := by
  have scaled := rescaled_eq num den low
  have scale_pos := rescaled_pos den_pos num low
  simp only [exponentFor, least]
  generalize rescaled num den low = scale at scaled scale_pos
  have pos : (0 : ℚ) < scale.2 := by exact_mod_cast scale_pos
  refine if_congr ?_ rfl rfl
  rw [← le_div_iff₀ (by positivity), ← scaled, le_div_iff₀ pos, Nat.le_div_iff_mul_le scale_pos]
  exact_mod_cast Iff.rfl

theorem fits_exponentFor (num_pos : 0 < num) (den_pos : 0 < den) :
    Fits ((num : ℚ) / den) (exponentFor num den) := by
  obtain ⟨num_ge, num_lt⟩ := log2_bounds num_pos
  obtain ⟨den_ge, den_lt⟩ := log2_bounds den_pos
  have pos : (0 : ℚ) < den := by exact_mod_cast den_pos
  generalize least : max (-1074) ((num.log2 : Int) - den.log2 - 53) = low
  rw [exponentFor_eq den_pos least]
  have below : (num : ℚ) / den < 2 ^ 54 * 2 ^ low :=
    calc (num : ℚ) / den < 2 ^ (num.log2 + 1 : ℤ) / 2 ^ (den.log2 : ℤ) := by gcongr
      _ = 2 ^ (num.log2 + 1 - den.log2 : ℤ) := (zpow_sub₀ two_ne_zero _ _).symm
      _ ≤ 2 ^ (54 + low) := zpow_le_zpow_right₀ one_le_two (by omega)
      _ = 2 ^ 54 * 2 ^ low := zpow_add₀ two_ne_zero _ _
  have full : low = -1074 ∨ 2 ^ 52 * 2 ^ low ≤ (num : ℚ) / den := by
    refine (eq_or_ne low (-1074)).imp_right fun above => ?_
    calc (2 : ℚ) ^ 52 * 2 ^ low = 2 ^ (52 + low) := (zpow_add₀ two_ne_zero _ _).symm
      _ = 2 ^ (num.log2 - (den.log2 + 1) : ℤ) := by congr 1; omega
      _ = 2 ^ (num.log2 : ℤ) / 2 ^ (den.log2 + 1 : ℤ) := zpow_sub₀ two_ne_zero _ _
      _ ≤ num / den := by gcongr
  have next : (2 : ℚ) ^ (low + 1) = 2 * 2 ^ low := by rw [zpow_add_one₀ two_ne_zero, mul_comm]
  split
  case isTrue up => exact ⟨by omega, by linarith, .inr (by linarith)⟩
  case isFalse stay => exact ⟨by omega, not_le.mp stay, full⟩

/-! ## The double of a quotient -/

/-- A mantissa that was rounded up to a 54th bit is halved. -/
def carried (m : Nat) (e : Int) : Nat × Int :=
  if m = 2 ^ 53 then (2 ^ 52, e + 1) else (m, e)

theorem carried_eq (m : Nat) (e : Int) :
    ((carried m e).1 : ℚ) * 2 ^ (carried m e).2 = m * 2 ^ e := by
  rw [carried]
  split
  case isTrue full =>
    rw [full, zpow_add_one₀ two_ne_zero]
    push_cast
    ring
  case isFalse => rfl

theorem even_carried (even : Even m) (e : Int) : Even (carried m e).1 := by
  rw [carried]
  split
  · exact Nat.even_pow.mpr ⟨even_two, by decide⟩
  · exact even

theorem carried_lt (le : m ≤ 2 ^ 53) (e : Int) : (carried m e).1 < 2 ^ 53 := by
  rw [carried]
  split <;> dsimp only <;> omega

theorem carried_exponent (m : Nat) (e : Int) : e ≤ (carried m e).2 ∧ (carried m e).2 ≤ e + 1 := by
  rw [carried]
  split <;> dsimp only <;> omega

/-- The double of a mantissa that was rounded on the grid of an exponent. -/
def rounded? (m : Nat) (e : Int) : Option Binary64 :=
  if 971 < (carried m e).2 then none else some ⟨false, (carried m e).1, (carried m e).2⟩

theorem rounded?_eq_some_iff : rounded? m e = some x ↔
    (carried m e).2 ≤ 971 ∧ ⟨false, (carried m e).1, (carried m e).2⟩ = x := by
  rw [rounded?, Option.ite_none_left_eq_some, not_lt, Option.some_inj]

theorem value_of_rounded? (found : rounded? m e = some x) : x.value = m * 2 ^ e := by
  obtain ⟨-, rfl⟩ := rounded?_eq_some_iff.mp found
  simpa [value, signed] using carried_eq m e

theorem exists_rounded (num_pos : 0 < num) (den_pos : 0 < den) :
    ∃ m e, Fits ((num : ℚ) / den) e ∧ IsRounded ((num : ℚ) / den / 2 ^ e) m ∧
      nearest num den = rounded? m e := by
  let scale := rescaled num den (exponentFor num den)
  refine ⟨roundHalfEven scale.1 scale.2, exponentFor num den, ?_, ?_, ?_⟩
  · exact fits_exponentFor num_pos den_pos
  · rw [← rescaled_eq]
    exact isRounded_roundHalfEven (rescaled_pos den_pos _ _)
  · rw [nearest, if_neg num_pos.ne']
    rfl

theorem isNearest_of_rounded? (fits : Fits q e) (rounded : IsRounded (q / 2 ^ e) m)
    (found : rounded? m e = some x) : IsNearest q x := by
  have pos : (0 : ℚ) < 2 ^ e := by positivity
  have le : m ≤ 2 ^ 53 := by
    refine rounded.le_of_le ?_
    rw [div_le_iff₀ pos]
    exact_mod_cast fits.below.le
  have value := value_of_rounded? found
  obtain ⟨small, rfl⟩ := rounded?_eq_some_iff.mp found
  constructor
  · exact ⟨carried_lt le e, fits.least_le.trans (carried_exponent m e).1, small⟩
  · rw [carried]
    split
    · exact .inr le_rfl
    · refine fits.full.imp_right fun full => rounded.ge_of_ge ?_
      rw [le_div_iff₀ pos]
      exact_mod_cast full
  · intro y double
    rw [value]
    exact (near_of_rounded fits rounded double).1
  · intro y double other tie
    rw [value] at other tie
    exact even_carried ((near_of_rounded fits rounded double).2 other tie) e

theorem isNearest_zero : IsNearest 0 (zero false) := by
  refine ⟨⟨by decide, by decide, by decide⟩, .inl rfl, ?_, fun _ _ _ _ => Even.zero⟩
  intro y double
  simp

theorem isNearest_nearest (den_pos : 0 < den) (found : nearest num den = some x) :
    IsNearest ((num : ℚ) / den) x := by
  obtain rfl | num_pos := num.eq_zero_or_pos
  · obtain rfl := Option.some_inj.mp found
    rw [Nat.cast_zero, zero_div]
    exact isNearest_zero
  · obtain ⟨m, e, fits, rounded, eq⟩ := exists_rounded num_pos den_pos
    exact isNearest_of_rounded? fits rounded (eq.symm.trans found)

theorem Fits.le_of_lt {e' : Int} (fits : Fits q e) (least : -1074 ≤ e')
    (below : q < 2 ^ 53 * 2 ^ e') : e ≤ e' := by
  obtain rfl | full := fits.full
  · exact least
  · have room : (2 : ℚ) ^ (52 + e) < 2 ^ (53 + e') := by
      rw [zpow_add₀ two_ne_zero, zpow_add₀ two_ne_zero]
      exact full.trans_lt below
    have := (zpow_lt_zpow_iff_right₀ one_lt_two).mp room
    omega

/-- A quotient below `2 ^ (53 + e)` has a double, at most half of `2 ^ e` away. -/
theorem exists_nearest (den_pos : 0 < den) (least : -1074 ≤ e) (most : e ≤ 970)
    (below : (num : ℚ) / den < 2 ^ 53 * 2 ^ e) :
    ∃ x, nearest num den = some x ∧ |x.value - num / den| ≤ 2 ^ e / 2 := by
  obtain rfl | num_pos := num.eq_zero_or_pos
  · refine ⟨zero false, rfl, ?_⟩
    rw [value_zero, Nat.cast_zero, zero_div, sub_self, abs_zero]
    positivity
  · obtain ⟨m, e', fits, rounded, eq⟩ := exists_rounded num_pos den_pos
    have finer := fits.le_of_lt least below
    have carry := (carried_exponent m e').2
    obtain ⟨x, found⟩ : ∃ x, rounded? m e' = some x := ⟨_, if_neg (by omega)⟩
    refine ⟨x, eq.trans found, ?_⟩
    rw [value_of_rounded? found, abs_scaled_sub]
    calc |(m : ℚ) - num / den / 2 ^ e'| * 2 ^ e' ≤ 1 / 2 * 2 ^ e' := by
          gcongr
          exact rounded.near
      _ ≤ 1 / 2 * 2 ^ e := by
          gcongr
          exact one_le_two
      _ = 2 ^ e / 2 := by ring

end MeshWatch.Number.Binary64
