import Mathlib.Tactic.FieldSimp
import Mathlib.Tactic.IntervalCases
import MeshWatch.Measure
import MeshWatch.Proofs.Number.Nearest
import MeshWatch.Proofs.Text.Decimal
import MeshWatch.Proofs.Text.Lines

/-!
# Byte counts as they are shown

The text of a count is a quantity with a unit. The quantity is near the count, and a larger count
is never shown as a smaller quantity, although the count is rounded twice, and may be rounded up
to a whole unit that it does not reach.
-/
namespace MeshWatch.Measure

open Number (Binary64 IsRounded isRounded_roundHalfEven roundHalfEven oneDecimal)
open Number.Binary64 (IsNearest nearest)

variable {n k t : Nat} {q r : ℚ}

/-! ## Reading a quantity -/

/-- Digits, or digits and one more behind a point. -/
def readNumber? (s : List Char) : Option ℚ :=
  match Text.splitOn '.' s with
  | [whole] => (Text.readDigits? whole).map Nat.cast
  | [whole, [tenth]] => do
    let whole ← Text.readDigits? whole
    let tenth ← Text.readDigits? [tenth]
    return whole + tenth / 10
  | _ => none

/-- The power of 1024 that a unit names. -/
def unitPower? (unit : List Char) : Option Nat :=
  ("B" :: unitNames.map (· ++ "B")).idxOf? (String.ofList unit)

/-- A number, a blank and a unit. -/
def readQuantity? (text : String) : Option ℚ :=
  match Text.splitOn ' ' text.toList with
  | [number, unit] => do return (← readNumber? number) * 1024 ^ (← unitPower? unit)
  | _ => none

theorem readNumber?_toDigits (n : Nat) : readNumber? (Nat.toDigits 10 n) = some (n : ℚ) := by
  rw [readNumber?, Text.splitOn_eq_singleton (Text.not_mem_toDigits (by decide) n)]
  simp [Text.readDigits?_toDigits]

theorem readNumber?_tenths (t : Nat) :
    readNumber? (Nat.toDigits 10 (t / 10) ++ '.' :: Nat.toDigits 10 (t % 10)) =
      some ((t : ℚ) / 10) := by
  have tenth : Nat.toDigits 10 (t % 10) = [(t % 10).digitChar] :=
    Nat.toDigits_of_lt_base (Nat.mod_lt t (by decide))
  have value := congrArg (Nat.cast (R := ℚ)) (Nat.div_add_mod t 10)
  have read := Text.readDigits?_toDigits (t % 10)
  rw [readNumber?, Text.splitOn_append (Text.not_mem_toDigits (by decide) _),
    Text.splitOn_eq_singleton (Text.not_mem_toDigits (by decide) _), tenth]
  rw [tenth] at read
  simp only [Text.readDigits?_toDigits, read]
  push_cast at value
  simp only [Option.pure_def, Option.bind_eq_bind, Option.bind_some, Option.some_inj]
  linarith

theorem readQuantity?_of_parts {number unit : String} (blank : ' ' ∉ number.toList)
    (blank' : ' ' ∉ unit.toList) (read : readNumber? number.toList = some q)
    (power : unitPower? unit.toList = some k) :
    readQuantity? (number ++ " " ++ unit) = some (q * 1024 ^ k) := by
  have parts : (number ++ " " ++ unit).toList = number.toList ++ ' ' :: unit.toList := by simp
  rw [readQuantity?, parts, Text.splitOn_append blank, Text.splitOn_eq_singleton blank']
  simp [read, power]

theorem readQuantity?_plain (n : Nat) : readQuantity? (toString n ++ " B") = some (n : ℚ) := by
  have read := readNumber?_toDigits n
  rw [← Text.toList_toString] at read
  have blank : ' ' ∉ (toString n).toList := by
    rw [Text.toList_toString]
    exact Text.not_mem_toDigits (by decide) n
  have power : unitPower? "B".toList = some 0 := by decide
  have quantity := readQuantity?_of_parts blank (by decide) read power
  rw [pow_zero, mul_one] at quantity
  rw [← quantity, String.append_assoc]
  rfl

/-! ## The unit of a count -/

theorem unitIndex_bounds {limit : Nat} (n_pos : 0 < n) (below : n < 1024 ^ (limit + 1)) :
    1024 ^ unitIndex limit n ≤ n ∧ n < 1024 ^ (unitIndex limit n + 1) ∧
      unitIndex limit n ≤ limit := by
  induction limit generalizing n with
  | zero => exact ⟨n_pos, below, le_rfl⟩
  | succ limit ih =>
    rw [unitIndex]
    split
    case isTrue small => exact ⟨n_pos, by simpa using small, Nat.zero_le _⟩
    case isFalse large =>
      rw [pow_succ] at below
      obtain ⟨reached, largest, listed⟩ := ih (n := n / 1024) (by omega) (by omega)
      rw [pow_succ] at largest ⊢
      rw [pow_succ]
      omega

theorem unitPower?_unitNames (positive : 1 ≤ k) (listed : k ≤ unitNames.length) :
    ' ' ∉ (unitNames.getD (k - 1) "" ++ "B").toList ∧
      unitPower? (unitNames.getD (k - 1) "" ++ "B").toList = some k := by
  have listed : k ≤ 6 := listed
  interval_cases k <;> decide

/-! ## What is shown -/

/-- What the text of `n` says in the unit of the `k`-th power. The double `x` nearest to `n` is
divided by that power, which gives a double `y` exactly, and `y` is rounded to tenths. -/
structure IsShown (n k : Nat) (q : ℚ) : Prop where
  positive : 1 ≤ k
  listed : k ≤ unitNames.length
  reached : 1024 ^ k ≤ n
  largest : n < 1024 ^ (k + 1)
  rounded : ∃ (x y : Binary64) (t : Nat), nearest n 1 = some x ∧ IsNearest n x ∧ y.IsDouble ∧
    y.value = x.value / 1024 ^ k ∧ IsRounded (10 * y.value) t ∧ q = t / 10 * 1024 ^ k
  accurate : |q - n| ≤ 1024 ^ k / 20 + 1024

theorem accurate_of_rounded {x : Binary64} (near : |x.value - n| ≤ 1024)
    (rounded : IsRounded (10 * (x.value / 1024 ^ k)) t) :
    |(t : ℚ) / 10 * 1024 ^ k - n| ≤ 1024 ^ k / 20 + 1024 := by
  have pos : (0 : ℚ) < 1024 ^ k := by positivity
  have tenths : (t : ℚ) / 10 * 1024 ^ k - x.value =
      (t - 10 * (x.value / 1024 ^ k)) * (1024 ^ k / 10) := by
    field_simp
  calc |(t : ℚ) / 10 * 1024 ^ k - n|
      ≤ |(t : ℚ) / 10 * 1024 ^ k - x.value| + |x.value - n| := abs_sub_le _ _ _
    _ ≤ 1 / 2 * (1024 ^ k / 10) + 1024 := by
      rw [tenths, abs_mul, abs_of_pos (by positivity : (0 : ℚ) < 1024 ^ k / 10)]
      gcongr
      exact rounded.near
    _ = 1024 ^ k / 20 + 1024 := by ring

theorem exists_double_div {x : Binary64} (double : x.IsDouble) (ge : 1 ≤ x.value)
    (listed : k ≤ unitNames.length) :
    ∃ y : Binary64, y.IsDouble ∧ y.value = x.value / 1024 ^ k := by
  have listed : k ≤ 6 := listed
  have mantissa : (x.mantissa : ℚ) < 2 ^ 53 := by exact_mod_cast double.mantissa_lt
  have large : (2 : ℚ) ^ (0 : ℤ) < 2 ^ (53 + x.exponent) :=
    calc (2 : ℚ) ^ (0 : ℤ) ≤ |x.value| := ge.trans (le_abs_self _)
      _ = x.mantissa * 2 ^ x.exponent := x.abs_value
      _ < 2 ^ 53 * 2 ^ x.exponent := by gcongr
      _ = 2 ^ (53 + x.exponent) := by rw [zpow_add₀ two_ne_zero]; rfl
  have exponent := (zpow_lt_zpow_iff_right₀ one_lt_two).mp large
  have most := double.le_greatest
  refine ⟨{ x with exponent := x.exponent - 10 * k }, ⟨double.mantissa_lt, ?_, ?_⟩, ?_⟩
  · dsimp only; omega
  · dsimp only; omega
  · have power : (2 : ℚ) ^ (10 * k : ℤ) = 1024 ^ k := by
      rw [zpow_mul, zpow_natCast]
      norm_num
    rw [Binary64.value, Binary64.value, zpow_sub₀ two_ne_zero, power, mul_div_assoc]
    rfl

theorem exists_double_pow (small : k ≤ 7) :
    ∃ y : Binary64, y.IsDouble ∧ y.value = 1024 ^ k := by
  refine ⟨⟨false, 1, 10 * k⟩, ⟨Nat.one_lt_two_pow (by decide), ?_, ?_⟩, ?_⟩
  · dsimp only; omega
  · dsimp only; omega
  · rw [Binary64.value, zpow_mul, zpow_natCast]
    norm_num [Binary64.signed]

/-- The powers of 1024 are doubles, so rounding a count does not pass one. -/
theorem pow_le_value {x : Binary64} (nearest : IsNearest n x) (small : k ≤ 7)
    (reached : 1024 ^ k ≤ n) : 1024 ^ k ≤ x.value := by
  obtain ⟨power, double, power_eq⟩ := exists_double_pow small
  rw [← power_eq]
  refine nearest.ge_of_ge double ?_
  rw [power_eq]
  exact_mod_cast reached

theorem value_le_pow {x : Binary64} (nearest : IsNearest n x) (small : k ≤ 7)
    (least : n ≤ 1024 ^ k) : x.value ≤ 1024 ^ k := by
  obtain ⟨power, double, power_eq⟩ := exists_double_pow small
  rw [← power_eq]
  refine nearest.le_of_le double ?_
  rw [power_eq]
  exact_mod_cast least

namespace IsShown

/-- The quantity has at least one unit and at most as much as the next unit. -/
theorem bounds (shown : IsShown n k q) : 1024 ^ k ≤ q ∧ q ≤ 1024 ^ (k + 1) := by
  obtain ⟨x, y, t, -, nearest, -, divided, rounded, rfl⟩ := shown.rounded
  rw [divided] at rounded
  have listed : k ≤ 6 := shown.listed
  have pos : (0 : ℚ) < 1024 ^ k := by positivity
  have lower := pow_le_value nearest (by omega) shown.reached
  have upper := value_le_pow nearest (by omega) shown.largest.le
  have tenths_ge : 10 ≤ t := by
    refine rounded.ge_of_ge ?_
    have := (one_le_div pos).mpr lower
    push_cast
    linarith
  have tenths_le : t ≤ 10240 := by
    refine rounded.le_of_le ?_
    rw [pow_succ'] at upper
    have := (div_le_iff₀ pos).mpr upper
    push_cast
    linarith
  have ge : (10 : ℚ) ≤ t := by exact_mod_cast tenths_ge
  have le : (t : ℚ) ≤ 10240 := by exact_mod_cast tenths_le
  constructor
  · exact le_mul_of_one_le_left pos.le (by linarith)
  · rw [pow_succ']
    gcongr
    linarith

/-- The two roundings and the change of the unit keep the order. -/
theorem mono {n' k' : Nat} (shown : IsShown n k q) (shown' : IsShown n' k' r) (le : n ≤ n') :
    q ≤ r := by
  have units : k < k' + 1 :=
    (Nat.pow_lt_pow_iff_right (by decide)).mp ((shown.reached.trans le).trans_lt shown'.largest)
  obtain less | rfl := (Nat.lt_succ_iff.mp units).lt_or_eq
  -- In different units a power of 1024 lies between the quantities, whatever the roundings do.
  · calc q ≤ 1024 ^ (k + 1) := shown.bounds.2
      _ ≤ 1024 ^ k' := pow_le_pow_right₀ (by norm_num) less
      _ ≤ r := shown'.bounds.1
  · obtain ⟨x, y, t, found, nearest, -, divided, rounded, rfl⟩ := shown.rounded
    obtain ⟨x', y', t', found', nearest', -, divided', rounded', rfl⟩ := shown'.rounded
    have values : x.value ≤ x'.value := by
      obtain less | rfl := le.lt_or_eq
      · exact nearest.mono nearest' (by exact_mod_cast less)
      · rw [Option.some_inj.mp (found.symm.trans found')]
    have tenths : t ≤ t' := by
      refine rounded.mono rounded' ?_
      rw [divided, divided']
      gcongr
    gcongr

end IsShown

theorem bytes_of_large {n : UInt64} {x : Binary64} (large : 1024 ≤ n.toNat)
    (found : nearest n.toNat 1 = some x) (unit : unitIndex unitNames.length n.toNat = k) :
    bytes n = oneDecimal x.ratio.1 (x.ratio.2 * 1024 ^ k) ++ " " ++
      (unitNames.getD (k - 1) "" ++ "B") := by
  simp only [bytes, if_neg large.not_gt, found, unit, Option.getD_some, String.append_assoc]
  rfl

theorem readQuantity?_oneDecimal (num den : Nat) (positive : 1 ≤ k)
    (listed : k ≤ unitNames.length) :
    readQuantity? (oneDecimal num den ++ " " ++ (unitNames.getD (k - 1) "" ++ "B")) =
      some ((roundHalfEven (10 * num) den : ℚ) / 10 * 1024 ^ k) := by
  obtain ⟨blank, power⟩ := unitPower?_unitNames positive listed
  have number : (oneDecimal num den).toList =
      Nat.toDigits 10 (roundHalfEven (10 * num) den / 10) ++
        '.' :: Nat.toDigits 10 (roundHalfEven (10 * num) den % 10) := by
    simp [oneDecimal]
  refine readQuantity?_of_parts ?_ blank ?_ power
  · simp [number, Text.not_mem_toDigits]
  · rw [number, readNumber?_tenths]

theorem unit_bounds (large : 1024 ≤ n) (bound : n < 2 ^ 64) :
    1 ≤ unitIndex unitNames.length n ∧ unitIndex unitNames.length n ≤ unitNames.length ∧
      1024 ^ unitIndex unitNames.length n ≤ n ∧
      n < 1024 ^ (unitIndex unitNames.length n + 1) := by
  have positive : 0 < n := by omega
  have below : n < 1024 ^ (unitNames.length + 1) := bound.trans (by decide)
  obtain ⟨reached, largest, listed⟩ := unitIndex_bounds positive below
  refine ⟨?_, listed, reached, largest⟩
  by_contra none
  rw [Nat.lt_one_iff.mp (not_le.mp none)] at largest
  omega

theorem exists_nearest_count (large : 1024 ≤ n) (bound : n < 2 ^ 64) :
    ∃ x, nearest n 1 = some x ∧ IsNearest n x ∧ |x.value - n| ≤ 1024 ∧ 1 ≤ x.value := by
  have below : (n : ℚ) / (1 : ℕ) < 2 ^ 53 * 2 ^ (11 : ℤ) := by
    norm_num
    exact_mod_cast bound
  obtain ⟨x, found, near⟩ := Binary64.exists_nearest Nat.one_pos (by decide) (by decide) below
  have nearest := Binary64.isNearest_nearest Nat.one_pos found
  rw [Nat.cast_one, div_one] at nearest near
  refine ⟨x, found, nearest, near.trans (by norm_num), ?_⟩
  have one : 1024 ^ 0 ≤ n := (by decide : 1 ≤ 1024).trans large
  simpa using pow_le_value nearest (Nat.zero_le 7) one

theorem isRounded_tenths {x y : Binary64} (nonneg : 0 ≤ x.value)
    (divided : y.value = x.value / 1024 ^ k) :
    IsRounded (10 * y.value) (roundHalfEven (10 * x.ratio.1) (x.ratio.2 * 1024 ^ k)) := by
  have exact : ((10 * x.ratio.1 : ℕ) : ℚ) / (x.ratio.2 * 1024 ^ k : ℕ) = 10 * y.value := by
    rw [divided, ← abs_of_nonneg nonneg, ← x.ratio_eq]
    push_cast
    rw [mul_div_assoc, div_div]
  rw [← exact]
  exact isRounded_roundHalfEven (Nat.mul_pos x.ratio_pos (Nat.pow_pos (by decide)))

theorem exists_shown {n : UInt64} (large : 1024 ≤ n.toNat) :
    ∃ q, readQuantity? (bytes n) = some q ∧
      IsShown n.toNat (unitIndex unitNames.length n.toNat) q := by
  have bound : n.toNat < 2 ^ 64 := n.toNat_lt
  obtain ⟨positive, listed, reached, largest⟩ := unit_bounds large bound
  generalize unit : unitIndex unitNames.length n.toNat = k at *
  obtain ⟨x, found, nearest, near, ge⟩ := exists_nearest_count large bound
  obtain ⟨y, double, divided⟩ := exists_double_div nearest.double ge listed
  have rounded := isRounded_tenths (zero_le_one.trans ge) divided
  rw [bytes_of_large large found unit, readQuantity?_oneDecimal _ _ positive listed]
  exact ⟨_, rfl, positive, listed, reached, largest,
    ⟨x, y, _, found, nearest, double, divided, rounded, rfl⟩,
    accurate_of_rounded near (divided ▸ rounded)⟩

/-- The text of every count is read as a quantity, which is the count itself below 1024 and else
what is shown in the unit of the count. A larger count is not shown as a smaller quantity. -/
theorem bytes_near_and_ordered :
    ∃ shown : UInt64 → ℚ,
      (∀ n, readQuantity? (bytes n) = some (shown n)) ∧
      (∀ n, n.toNat < 1024 → shown n = n.toNat) ∧
      (∀ n, 1024 ≤ n.toNat →
        IsShown n.toNat (unitIndex unitNames.length n.toNat) (shown n)) ∧
      ∀ a b, a ≤ b → shown a ≤ shown b := by
  have each (n : UInt64) : ∃ q, readQuantity? (bytes n) = some q ∧
      (n.toNat < 1024 → q = n.toNat) ∧
      (1024 ≤ n.toNat → IsShown n.toNat (unitIndex unitNames.length n.toNat) q) := by
    obtain small | large := Nat.lt_or_ge n.toNat 1024
    · refine ⟨n.toNat, ?_, fun _ => rfl, fun large => absurd large small.not_ge⟩
      rw [bytes, if_pos small, readQuantity?_plain]
    · obtain ⟨q, read, shown⟩ := exists_shown large
      exact ⟨q, read, fun small => absurd large small.not_ge, fun _ => shown⟩
  choose shown read small large using each
  refine ⟨shown, read, small, large, ?_⟩
  intro a b le
  have le : a.toNat ≤ b.toNat := UInt64.le_iff_toNat_le.mp le
  obtain a_small | a_large := Nat.lt_or_ge a.toNat 1024
  · obtain b_small | b_large := Nat.lt_or_ge b.toNat 1024
    · rw [small a a_small, small b b_small]
      exact_mod_cast le
    · have one := pow_le_pow_right₀ (by norm_num : (1 : ℚ) ≤ 1024) (large b b_large).positive
      have least := (large b b_large).bounds.1
      have : (a.toNat : ℚ) < 1024 := by exact_mod_cast a_small
      rw [small a a_small]
      linarith
  · exact (large a a_large).mono (large b (a_large.trans le)) le

/-- The last count below a unit is shown as 1024 of the unit before, which is not more. -/
theorem bytes_near_and_ordered_at_unit :
    ∃ q r, readQuantity? "1024.0 TB" = some q ∧ readQuantity? "1.0 PB" = some r ∧
      |q - 1125899906842623| ≤ 1024 ^ 4 / 20 + 1024 ∧ q ≤ r := by
  obtain ⟨shown, read, -, large, ordered⟩ := bytes_near_and_ordered
  have below : bytes 1125899906842623 = "1024.0 TB" := by decide
  have reached : bytes 1125899906842624 = "1.0 PB" := by decide
  have unit : unitIndex unitNames.length 1125899906842623 = 4 := by decide
  have accurate := (large 1125899906842623 (by decide)).accurate
  refine ⟨shown 1125899906842623, shown 1125899906842624, ?_, ?_, ?_, ?_⟩
  · rw [← below, read]
  · rw [← reached, read]
  · change |shown 1125899906842623 - (1125899906842623 : ℕ)| ≤
      1024 ^ unitIndex unitNames.length 1125899906842623 / 20 + 1024 at accurate
    rw [unit] at accurate
    exact accurate
  · exact ordered _ _ (by decide)

end MeshWatch.Measure
