import MeshWatch.Json.Parser
import MeshWatch.Json.Printer
import MeshWatch.Proofs.Text.Decimal

/-!
# Tokens of JSON

A string is read back from its quoted form piece by piece, a whole number of at most 64 bits from
its digits. What follows a number must not go on with it.
-/
namespace MeshWatch.Json

/-! ## Strings -/

/-- A character is written as a letter after a backslash, as its code, or as itself. -/
theorem escapeChar_cases (c : Char) :
    (∃ letter, escapeChar c = ['\\', letter] ∧ letter ≠ 'u' ∧ escaped? letter = some c) ∨
    (c.toNat < 0x20 ∧ escapeChar c =
      ['\\', 'u', '0', '0', (c.toNat / 16).digitChar, (c.toNat % 16).digitChar]) ∨
    (escapeChar c = [c] ∧ c ≠ '"' ∧ c ≠ '\\' ∧ ¬ c.toNat < 0x20) := by
  fun_cases escapeChar c
  case case1 => exact .inl ⟨'"', rfl, by decide, rfl⟩
  case case2 => exact .inl ⟨'\\', rfl, by decide, rfl⟩
  case case3 => exact .inl ⟨'b', rfl, by decide, rfl⟩
  case case4 => exact .inl ⟨'f', rfl, by decide, rfl⟩
  case case5 => exact .inl ⟨'n', rfl, by decide, rfl⟩
  case case6 => exact .inl ⟨'r', rfl, by decide, rfl⟩
  case case7 => exact .inl ⟨'t', rfl, by decide, rfl⟩
  case case8 control => exact .inr (.inl ⟨control, rfl⟩)
  case case9 quote backslash _ _ _ _ _ plain =>
    exact .inr (.inr ⟨rfl, quote, backslash, plain⟩)

theorem hexValue?_digitChar : ∀ n < 16, hexValue? n.digitChar = some n := by
  decide

theorem hexCode?_control {n : Nat} (control : n < 0x20) :
    hexCode? '0' '0' (n / 16).digitChar (n % 16).digitChar = some n := by
  rw [hexCode?, hexValue?_digitChar _ (by omega : n / 16 < 16),
    hexValue?_digitChar _ (by omega : n % 16 < 16)]
  change some (((0 * 16 + 0) * 16 + n / 16) * 16 + n % 16) = some n
  congr 1
  omega

/-- A written character is read as one piece that stands for it. -/
theorem exists_piece (c : Char) : ∃ piece,
    (∀ s, scanString (escapeChar c ++ s) =
      (scanString s).map fun (pieces, rest) => (piece :: pieces, rest)) ∧
    ∀ pieces, decode? (piece :: pieces) = (decode? pieces).map (c :: ·) := by
  rcases escapeChar_cases c with ⟨letter, written, notCode, read⟩ | ⟨control, written⟩ |
    ⟨written, notQuote, notBackslash, plain⟩
  · refine ⟨.char c, ?_, fun _ => rfl⟩
    intro s
    rw [written]
    simp only [List.cons_append, List.nil_append]
    rw [scanString, read]
    · cases scanString s <;> rfl
    · intro _ _ _ _ _ code _
      exact notCode code
  · refine ⟨.code c.toNat, ?_, ?_⟩
    · intro s
      rw [written]
      simp only [List.cons_append, List.nil_append, scanString, hexCode?_control control]
      cases scanString s <;> rfl
    · intro pieces
      have low : ¬ (0xD800 ≤ c.toNat ∧ c.toNat < 0xDC00) := by omega
      have high : ¬ (0xDC00 ≤ c.toNat ∧ c.toNat < 0xE000) := by omega
      refine (decode?.eq_def _).trans ?_
      simp only
      rw [if_neg low, if_neg high, Char.ofNat_toNat]
  · refine ⟨.char c, ?_, fun _ => rfl⟩
    intro s
    rw [written]
    rw [List.singleton_append, scanString, if_neg plain]
    · cases scanString s <;> rfl
    · exact notQuote
    · intro _ _ _ _ _ backslash _
      exact absurd backslash notBackslash
    · intro _ _ backslash
      exact absurd backslash notBackslash

/-- A quoted string is read as pieces that stand for it. -/
theorem exists_pieces (s : List Char) : ∃ pieces,
    (∀ rest, scanString (s.flatMap escapeChar ++ '"' :: rest) = some (pieces, rest)) ∧
    decode? pieces = some s := by
  induction s with
  | nil => exact ⟨[], fun _ => rfl, rfl⟩
  | cons c s ih =>
    obtain ⟨piece, scanned, decoded⟩ := exists_piece c
    obtain ⟨pieces, scannedRest, decodedRest⟩ := ih
    refine ⟨piece :: pieces, ?_, ?_⟩
    · intro rest
      rw [List.flatMap_cons, List.append_assoc, scanned, scannedRest, Option.map_some]
    · rw [decoded, decodedRest, Option.map_some]

/-- What stands after the opening quote of a quoted string. -/
theorem exists_quoted (s : String) : ∃ text pieces, quote s = '"' :: text ∧
    (∀ rest, scanString (text ++ rest) = some (pieces, rest)) ∧ decode? pieces = some s.toList := by
  obtain ⟨pieces, scanned, decoded⟩ := exists_pieces s.toList
  refine ⟨s.toList.flatMap escapeChar ++ ['"'], pieces, rfl, ?_, decoded⟩
  intro rest
  rw [List.append_assoc, List.singleton_append, scanned]

/-! ## Numbers -/

/-- What follows a number does not go on with it. -/
structure EndsNumber (s : List Char) : Prop where
  digit : ∀ c rest, s = c :: rest → c.isDigit = false
  point : ∀ rest, s ≠ '.' :: rest
  exponent : ∀ rest, s ≠ 'e' :: rest ∧ s ≠ 'E' :: rest

section Numbers

variable {rest : List Char}

theorem ne_of_isDigit {c d : Char} (digit : c.isDigit) (other : d.isDigit = false) : c ≠ d := by
  rintro rfl
  simp [digit] at other

theorem takeWhile_of_ends (ends : EndsNumber rest) : rest.takeWhile Char.isDigit = [] := by
  cases rest with
  | nil => rfl
  | cons c rest => simp [ends.digit c rest rfl]

theorem dropWhile_of_ends (ends : EndsNumber rest) : rest.dropWhile Char.isDigit = rest := by
  cases rest with
  | nil => rfl
  | cons c rest => simp [ends.digit c rest rfl]

theorem scanFraction_of_ends (ends : EndsNumber rest) : scanFraction rest = some ([], rest) := by
  rw [scanFraction]
  exact ends.point

theorem scanExponent_of_ends (ends : EndsNumber rest) : scanExponent rest = some (none, rest) := by
  rw [scanExponent]
  · exact fun rest => (ends.exponent rest).1
  · exact fun rest => (ends.exponent rest).2

/-- The digits of a number are some, and have no superfluous zero in front. -/
theorem toDigits_wellFormed (n : Nat) : ¬ (Nat.toDigits 10 n = [] ∨
    (1 < (Nat.toDigits 10 n).length ∧ (Nat.toDigits 10 n).head? = some '0')) := by
  rw [not_or, not_and]
  refine ⟨Nat.toDigits_ne_nil, ?_⟩
  intro several
  refine Text.head?_toDigits ?_
  by_contra zero
  obtain rfl : n = 0 := by omega
  simp at several

/-- The digits of a number with its sign. -/
def signed (negative : Bool) (n : Nat) : List Char :=
  if negative then '-' :: Nat.toDigits 10 n else Nat.toDigits 10 n

theorem scanNumber_signed (negative : Bool) (n : Nat) (ends : EndsNumber rest) :
    scanNumber (signed negative n ++ rest) =
      some (⟨negative, Nat.toDigits 10 n, [], none⟩, rest) := by
  have digits := fun c (member : c ∈ Nat.toDigits 10 n) => Text.isDigit_of_mem member
  have unsigned (s : List Char) : Nat.toDigits 10 n ++ rest ≠ '-' :: s := by
    obtain ⟨first, others, written, digit⟩ := Text.exists_first_digit n
    rw [written, List.cons_append, ne_eq, List.cons.injEq, not_and]
    intro minus
    exact absurd minus (ne_of_isDigit digit rfl)
  cases negative
  case' false => rw [signed, if_neg Bool.false_ne_true, scanNumber.eq_2 _ unsigned]
  case' true => rw [signed, if_pos rfl, List.cons_append, scanNumber]
  all_goals
    simp only [List.takeWhile_append_of_pos digits, List.dropWhile_append_of_pos digits,
      takeWhile_of_ends ends, dropWhile_of_ends ends, List.append_nil,
      if_neg (toDigits_wellFormed n), scanFraction_of_ends ends, Option.bind_eq_bind,
      Option.bind_some, scanExponent_of_ends ends]
    rfl

end Numbers

/-- The whole numbers that are kept exactly: those of 64 bits, signed or unsigned. -/
def Fits64 (n : Int) : Prop := -9223372036854775808 ≤ n ∧ n < 18446744073709551616

theorem toList_toString_int (n : Int) :
    (toString n).toList = signed (decide (n < 0)) n.natAbs := by
  cases n with
  | ofNat n => exact Text.toList_toString n
  | negSucc n =>
    have negative : decide (Int.negSucc n < 0) = true := decide_eq_true (Int.negSucc_lt_zero n)
    rw [negative, signed, if_pos rfl]
    change ("-" ++ toString (n + 1)).toList = _
    rw [String.toList_append, Text.toList_toString]
    rfl

theorem data_signed {n : Int} (fits : Fits64 n) :
    (Numeral.mk (decide (n < 0)) (Nat.toDigits 10 n.natAbs) [] none).data = .int n := by
  obtain ⟨low, high⟩ := fits
  simp only [Numeral.data, Text.digitsValue_toDigits]
  by_cases negative : n < 0
  · rw [if_neg (by simp [negative]), if_pos (by simp [negative]; omega)]
    congr 1
    omega
  · rw [if_pos (by simp [negative]; omega)]
    congr 1
    omega

end MeshWatch.Json
