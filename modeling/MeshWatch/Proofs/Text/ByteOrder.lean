import Mathlib.Data.Char
import Mathlib.Data.String.Basic
import Mathlib.Tactic.SplitIfs

/-!
# The order of texts by their bytes

Texts are compared character by character, and their UTF-8 bytes byte by byte. Both comparisons
give the same order: where two characters are encoded, the first byte in which the encodings
differ is smaller for the character that comes first, also when one takes more bytes.
-/
namespace MeshWatch.Text

/-- The bytes of a text in UTF-8. -/
def utf8 (s : String) : List UInt8 := s.toByteArray.data.toList

/-- One list has the smaller byte at the first place where two lists differ. -/
inductive Precedes : List UInt8 → List UInt8 → Prop
  | here {x y : UInt8} {xs ys : List UInt8} (smaller : x < y) : Precedes (x :: xs) (y :: ys)
  | later {x : UInt8} {xs ys : List UInt8} (rest : Precedes xs ys) : Precedes (x :: xs) (x :: ys)

/-- What follows after the first difference does not matter. -/
theorem Precedes.append_lt {xs ys : List UInt8} (h : Precedes xs ys) (us vs : List UInt8) :
    xs ++ us < ys ++ vs := by
  induction h with
  | here smaller => exact List.cons_lt_cons_iff.mpr (.inl smaller)
  | later _ ih => exact List.cons_lt_cons_iff.mpr (.inr ⟨rfl, ih⟩)

theorem Precedes.last {a b : Nat} (bound : b < 256) (smaller : a < b) (xs ys : List UInt8) :
    Precedes (UInt8.ofNat a :: xs) (UInt8.ofNat b :: ys) := by
  refine .here (UInt8.lt_iff_toNat_lt.mpr ?_)
  simp only [UInt8.toNat_ofNat']
  omega

/-- A leading byte decides unless it is the same on both sides. -/
theorem Precedes.digit {a b : Nat} {xs ys : List UInt8} (bound : b < 256) (le : a ≤ b)
    (rest : a = b → Precedes xs ys) : Precedes (UInt8.ofNat a :: xs) (UInt8.ofNat b :: ys) := by
  obtain smaller | same := Nat.lt_or_eq_of_le le
  · exact .last bound smaller xs ys
  · subst same
    exact .later (rest rfl)

theorem encode_precedes {c d : Char} (h : c < d) :
    Precedes (String.utf8EncodeChar c) (String.utf8EncodeChar d) := by
  have less : c.val.toNat < d.val.toNat := h
  have bound : d.val.toNat < 1114112 := by
    have := d.valid
    simp only [UInt32.isValidChar, Nat.isValidChar] at this
    omega
  rw [String.utf8EncodeChar, String.utf8EncodeChar]
  generalize c.val.toNat = m, d.val.toNat = n at less bound ⊢
  split_ifs
  -- One byte each, or fewer bytes for the first character: the leading bytes differ.
  all_goals try first | omega | exact .last (by omega) (by omega) _ _
  -- Equally many bytes are the digits of the characters in base 64, each with its mark.
  · exact .digit (by omega) (by omega) fun first => .last (by omega) (by omega) _ _
  · exact .digit (by omega) (by omega) fun first => .digit (by omega) (by omega) fun second =>
      .last (by omega) (by omega) _ _
  · exact .digit (by omega) (by omega) fun first => .digit (by omega) (by omega) fun second =>
      .digit (by omega) (by omega) fun third => .last (by omega) (by omega) _ _

theorem append_lt_append_iff (front xs ys : List UInt8) :
    front ++ xs < front ++ ys ↔ xs < ys := by
  induction front with
  | nil => rfl
  | cons x front ih => simp [ih]

theorem utf8_eq_flatMap (s : String) : utf8 s = s.toList.flatMap String.utf8EncodeChar := by
  rw [utf8, ← String.utf8Encode_toList, List.utf8Encode, List.data_toByteArray]

theorem flatMap_encode_lt_iff (cs ds : List Char) :
    cs.flatMap String.utf8EncodeChar < ds.flatMap String.utf8EncodeChar ↔ cs < ds := by
  induction cs generalizing ds with
  | nil =>
    cases ds with
    | nil => simp
    | cons d ds =>
      have written : String.utf8EncodeChar d ++ ds.flatMap String.utf8EncodeChar ≠ [] := by
        simp [String.utf8EncodeChar_ne_nil]
      simp only [List.flatMap_nil, List.flatMap_cons, List.nil_lt_cons, iff_true]
      obtain ⟨x, xs, bytes⟩ := List.exists_cons_of_ne_nil written
      exact bytes ▸ List.nil_lt_cons x xs
  | cons c cs ih =>
    cases ds with
    | nil => simp
    | cons d ds =>
      simp only [List.flatMap_cons, List.cons_lt_cons_iff]
      obtain less | rfl | greater := lt_trichotomy c d
      · simp [less, (encode_precedes less).append_lt]
      · simp [append_lt_append_iff, ih]
      · simp [greater.not_gt, greater.ne',
          List.lt_asymm ((encode_precedes greater).append_lt _ _)]

/-- Texts have the order of their bytes. -/
theorem utf8_lt_iff (s t : String) : utf8 s < utf8 t ↔ s < t := by
  rw [utf8_eq_flatMap, utf8_eq_flatMap, flatMap_encode_lt_iff, String.lt_iff_toList_lt]

end MeshWatch.Text
