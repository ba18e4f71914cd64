import MeshWatch.Proofs.Measure.Bytes

/-!
# Counts just below a unit

The unit of a count is settled before the count is rounded. The number in front of it is never
below 1, but it can be 1024, for the counts of a short stretch before the next unit begins. Where
such a stretch begins is told by an exact number for each unit.
-/
namespace MeshWatch.Measure

open Number (roundHalfEven)
open Number.Binary64 (nearest)

variable {n : UInt64} {k : Nat}

/-! ## Tenths of a unit -/

/-- The number in front of the unit. -/
def shownNumber? (text : String) : Option ℚ :=
  match Text.splitOn ' ' text.toList with
  | [number, _] => readNumber? number
  | _ => none

/-- How many tenths of the unit of the `k`-th power a count is rounded to. -/
def tenths (n : UInt64) (k : Nat) : Nat :=
  let x := (nearest n.toNat 1).getD (.zero false)
  roundHalfEven (10 * x.ratio.1) (x.ratio.2 * 1024 ^ k)

theorem bytes_eq_tenths (large : 1024 ≤ n.toNat) (unit : unitIndex unitNames.length n.toNat = k) :
    ∃ num den, bytes n = Number.oneDecimal num den ++ " " ++ (unitNames.getD (k - 1) "" ++ "B") ∧
      tenths n k = roundHalfEven (10 * num) den := by
  obtain ⟨x, found, -⟩ := exists_nearest_count large n.toNat_lt
  refine ⟨_, _, bytes_of_large large found unit, ?_⟩
  rw [tenths, found, Option.getD_some]

theorem shownNumber?_bytes (large : 1024 ≤ n.toNat)
    (unit : unitIndex unitNames.length n.toNat = k) :
    shownNumber? (bytes n) = some ((tenths n k : ℚ) / 10) := by
  obtain ⟨positive, listed, -⟩ := unit_bounds large n.toNat_lt
  rw [unit] at positive listed
  obtain ⟨blank, -⟩ := unitPower?_unitNames positive listed
  obtain ⟨num, den, text, rounded⟩ := bytes_eq_tenths large unit
  have parts : (bytes n).toList = (Nat.toDigits 10 (tenths n k / 10) ++
      '.' :: Nat.toDigits 10 (tenths n k % 10)) ++
        ' ' :: (unitNames.getD (k - 1) "" ++ "B").toList := by
    rw [text, rounded]
    simp [Number.oneDecimal]
  rw [shownNumber?, parts, Text.splitOn_append, Text.splitOn_eq_singleton blank]
  · exact readNumber?_tenths _
  · simp [Text.not_mem_toDigits]

theorem isShown_tenths (large : 1024 ≤ n.toNat) (unit : unitIndex unitNames.length n.toNat = k) :
    IsShown n.toNat k ((tenths n k : ℚ) / 10 * 1024 ^ k) := by
  obtain ⟨q, read, shown⟩ := exists_shown large
  obtain ⟨num, den, text, rounded⟩ := bytes_eq_tenths large unit
  rw [unit] at shown
  rw [text, readQuantity?_oneDecimal _ _ shown.positive shown.listed, ← rounded] at read
  exact Option.some.inj read ▸ shown

theorem tenths_mono {m : UInt64} (large : 1024 ≤ n.toNat)
    (unit : unitIndex unitNames.length n.toNat = k)
    (unit' : unitIndex unitNames.length m.toNat = k) (le : n.toNat ≤ m.toNat) :
    tenths n k ≤ tenths m k := by
  have quantities := (isShown_tenths large unit).mono (isShown_tenths (large.trans le) unit') le
  have pos : (0 : ℚ) < 1024 ^ k := by positivity
  have numbers := (mul_le_mul_iff_left₀ pos).mp quantities
  have : (tenths n k : ℚ) ≤ tenths m k := by linarith
  exact_mod_cast this

/-! ## Where a unit is full -/

/-- The least count that is shown as 1024 of the unit of the `k`-th power. It is the first that
reaches 1023.95 of the unit. Among petabytes it is a smaller one, since some counts become doubles
that are larger than they are. -/
def leastFull (k : Nat) : Nat :=
  if k = 5 then 1152865209611504832 else (20479 * 1024 ^ k + 19) / 20

/-- The count before, or the last one there is. -/
def lastBelow (k : Nat) : UInt64 := .ofNat (min (leastFull k) (2 ^ 64) - 1)

theorem lastBelow_spec (positive : 1 ≤ k) (listed : k ≤ unitNames.length) :
    unitIndex unitNames.length (lastBelow k).toNat = k ∧ tenths (lastBelow k) k < 10240 := by
  have listed : k ≤ 6 := listed
  interval_cases k <;> decide

theorem leastFull_spec (positive : 1 ≤ k) (counted : leastFull k < 2 ^ 64)
    (listed : k ≤ unitNames.length) :
    1024 ≤ leastFull k ∧ unitIndex unitNames.length (leastFull k) = k ∧
      tenths (.ofNat (leastFull k)) k = 10240 := by
  have listed : k ≤ 6 := listed
  have filled : k ≠ 6 := by
    rintro rfl
    exact absurd counted (by decide)
  have below : k ≤ 5 := by omega
  interval_cases k <;> decide

/-- Rounding keeps the order, so it is enough to know what the counts at the border become. -/
theorem tenths_lt_iff (large : 1024 ≤ n.toNat) (unit : unitIndex unitNames.length n.toNat = k) :
    tenths n k < 10240 ↔ n.toNat < leastFull k := by
  obtain ⟨positive, listed, -⟩ := unit_bounds large n.toNat_lt
  rw [unit] at positive listed
  have bound := n.toNat_lt
  constructor
  · contrapose!
    intro reached
    obtain ⟨border, unit', full⟩ := leastFull_spec positive (reached.trans_lt bound) listed
    have counted : (UInt64.ofNat (leastFull k)).toNat = leastFull k :=
      UInt64.toNat_ofNat_of_lt (reached.trans_lt bound)
    rw [← counted] at border unit' reached
    exact full.symm.trans_le (tenths_mono border unit' unit reached)
  · intro below
    obtain ⟨unit', notFull⟩ := lastBelow_spec positive listed
    have counted : min (leastFull k) (2 ^ 64) - 1 < 2 ^ 64 := by omega
    have last : (lastBelow k).toNat = min (leastFull k) (2 ^ 64) - 1 :=
      UInt64.toNat_ofNat_of_lt counted
    exact (tenths_mono large unit unit' (by omega)).trans_lt notFull

/-- The number in front of the unit is at least 1 and at most 1024, and it is less than 1024 for
the counts below an exact border alone. -/
theorem number_below_unit_iff (large : 1024 ≤ n.toNat) :
    ∃ v, shownNumber? (bytes n) = some v ∧ 1 ≤ v ∧ v ≤ 1024 ∧
      (v < 1024 ↔ n.toNat < leastFull (unitIndex unitNames.length n.toNat)) := by
  generalize unit : unitIndex unitNames.length n.toNat = k
  have pos : (0 : ℚ) < 1024 ^ k := by positivity
  obtain ⟨least, greatest⟩ := (isShown_tenths large unit).bounds
  rw [pow_succ'] at greatest
  refine ⟨_, shownNumber?_bytes large unit, ?_, ?_, ?_⟩
  · exact (le_mul_iff_one_le_left pos).mp least
  · exact (mul_le_mul_iff_left₀ pos).mp greatest
  · rw [← tenths_lt_iff large unit, div_lt_iff₀ (by norm_num)]
    norm_num

/-- The first petabytes that are shown as 1024 do not reach 1023.95 of the unit themselves. -/
theorem number_below_unit_iff_petabytes :
    20 * 1152865209611504832 < 20479 * 1024 ^ 5 ∧ bytes 1152865209611504832 = "1024.0 PB" ∧
    1024 ≤ (1152865209611504832 : UInt64).toNat ∧
    ∃ v, shownNumber? (bytes 1152865209611504832) = some v ∧ 1 ≤ v ∧ v ≤ 1024 ∧
      (v < 1024 ↔ (1152865209611504832 : UInt64).toNat < leastFull 5) := by
  have large : 1024 ≤ (1152865209611504832 : UInt64).toNat := by decide
  have unit : unitIndex unitNames.length (1152865209611504832 : UInt64).toNat = 5 := by decide
  have number := number_below_unit_iff large
  rw [unit] at number
  exact ⟨by decide, by decide, large, number⟩

/-- The last count that is not a megabyte is shown as so many kilobytes. -/
theorem shown_as_full_unit :
    bytes 1048575 = "1024.0 KB" ∧ bytes 1048576 = "1.0 MB" ∧
    ¬ ∀ n : UInt64, 1024 ≤ n.toNat →
      ∃ v, shownNumber? (bytes n) = some v ∧ 1 ≤ v ∧ v < 1024 := by
  refine ⟨by decide, by decide, ?_⟩
  intro natural
  have large : 1024 ≤ (1048575 : UInt64).toNat := by decide
  have unit : unitIndex unitNames.length (1048575 : UInt64).toNat = 1 := by decide
  have full : tenths 1048575 1 = 10240 := by decide
  obtain ⟨v, shown, -, less⟩ := natural 1048575 large
  rw [shownNumber?_bytes large unit, full] at shown
  obtain rfl := Option.some.inj shown
  norm_num at less

end MeshWatch.Measure
