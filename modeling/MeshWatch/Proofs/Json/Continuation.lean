import MeshWatch.Proofs.Json.Grammar

/-!
# Texts that go on

A scanner stops where what it reads is complete. So what it finds in a text it finds in every
longer one, and it leaves that much more, also if it has more fuel than it needs. A number is
complete only where the next character cannot be a part of it. A text of one value is therefore
read as the same value in front of a comma, a bracket or a space.
-/
namespace MeshWatch.Json

variable {α : Type} {s rest more : List Char}

/-- What a scanner finds in a text it finds in a longer one too, and it leaves that much more. -/
def Extends (scan : List Char → Option (α × List Char)) (more : List Char) : Prop :=
  ∀ ⦃s found rest⦄, scan s = some (found, rest) → scan (s ++ more) = some (found, rest ++ more)

/-- A text that does not begin with a character goes on without beginning with it. -/
theorem append_ne_cons {c : Char} (own : ∀ r, s ≠ c :: r) (next : s = [] → ∀ r, more ≠ c :: r) :
    ∀ r, s ++ more ≠ c :: r := by
  intro r begins
  cases s with
  | nil => exact next rfl r begins
  | cons d s => exact own s (congrArg (· :: s) (List.cons.inj begins).1)

/-! ## Words and strings -/

theorem skipSpace_append (solid : skipSpace s ≠ []) (more : List Char) :
    skipSpace (s ++ more) = skipSpace s ++ more := by
  rw [skipSpace] at solid
  rw [skipSpace, List.dropWhile_append, if_neg (mt List.isEmpty_iff.mp solid)]
  rfl

theorem skipSpace_append_of_cons {c : Char} {inner : List Char} (begun : skipSpace s = c :: inner)
    (more : List Char) : skipSpace (s ++ more) = c :: (inner ++ more) := by
  rw [skipSpace_append (by simp [begun]), begun, List.cons_append]

theorem after?_append {word : List Char} (found : after? word s = some rest) (more : List Char) :
    after? word (s ++ more) = some (rest ++ more) := by
  fun_induction after? word s with
  | case1 s =>
    cases found
    rfl
  | case2 => cases found
  | case3 word c s ih => rw [List.cons_append, after?, if_pos rfl, ih found]
  | case4 => cases found

theorem extends_scanString (more : List Char) : Extends scanString more := by
  intro s
  fun_induction scanString s with
  | case1 => nofun
  | case2 s =>
    rintro _ _ ⟨⟩
    rfl
  | case3 a b c d s ih =>
    intro found rest scanned
    obtain ⟨n, code, scanned⟩ := Option.bind_eq_some_iff.mp scanned
    obtain ⟨⟨pieces, rest⟩, tail, ⟨⟩⟩ := Option.bind_eq_some_iff.mp scanned
    simp [scanString, code, ih tail]
  | case4 c s other ih =>
    intro found rest scanned
    obtain ⟨c', letter, scanned⟩ := Option.bind_eq_some_iff.mp scanned
    obtain ⟨⟨pieces, rest⟩, tail, ⟨⟩⟩ := Option.bind_eq_some_iff.mp scanned
    rw [List.cons_append, List.cons_append, scanString, letter, ih tail]
    · rfl
    -- Four more digits would make a code, but the letter alone has a meaning already.
    · rintro _ _ _ _ _ rfl -
      cases letter
  | case5 c s quote code letter control => nofun
  | case6 c s quote code letter plain ih =>
    intro found rest scanned
    obtain ⟨⟨pieces, rest⟩, tail, ⟨⟩⟩ := Option.bind_eq_some_iff.mp scanned
    have notBackslash : c ≠ '\\' := by
      rintro rfl
      cases s with
      | nil => cases tail
      | cons c s => exact letter c s rfl rfl
    rw [List.cons_append, scanString, if_neg plain, ih tail]
    · rfl
    · exact quote
    · exact fun _ _ _ _ _ same _ => notBackslash same
    · exact fun _ _ same _ => notBackslash same

/-! ## Numbers -/

/-- What is read of a number behind its sign. -/
def scanUnsigned (negative : Bool) (s : List Char) : Option (Numeral × List Char) :=
  let whole := s.takeWhile Char.isDigit
  if whole = [] ∨ (1 < whole.length ∧ whole.head? = some '0') then none
  else do
    let (fraction, rest) ← scanFraction (s.dropWhile Char.isDigit)
    let (power, rest) ← scanExponent rest
    return (⟨negative, whole, fraction, power⟩, rest)

theorem scanNumber_minus (s : List Char) : scanNumber ('-' :: s) = scanUnsigned true s := rfl

theorem scanNumber_of_unsigned (unsigned : ∀ r, s ≠ '-' :: r) :
    scanNumber s = scanUnsigned false s :=
  scanNumber.eq_2 s unsigned

section Numbers

variable (ends : EndsNumber more)
include ends

theorem takeWhile_isDigit_append (s : List Char) :
    (s ++ more).takeWhile Char.isDigit = s.takeWhile Char.isDigit := by
  rw [List.takeWhile_append, takeWhile_of_ends ends, List.append_nil]
  split
  · rename_i all
    exact ((List.takeWhile_prefix _).eq_of_length all).symm
  · rfl

theorem dropWhile_isDigit_append (s : List Char) :
    (s ++ more).dropWhile Char.isDigit = s.dropWhile Char.isDigit ++ more := by
  rw [List.dropWhile_append, dropWhile_of_ends ends]
  split
  · rename_i all
    rw [List.isEmpty_iff.mp all, List.nil_append]
  · rfl

theorem extends_scanPower : Extends scanPower more := by
  intro s power rest scanned
  have filled : s ≠ [] := by
    rintro rfl
    cases scanned
  have longer := And.intro (takeWhile_isDigit_append ends) (dropWhile_isDigit_append ends)
  by_cases minus : ∃ t, s = '-' :: t
  · obtain ⟨t, rfl⟩ := minus
    simpa [scanPower, longer] using scanned
  by_cases plus : ∃ t, s = '+' :: t
  · obtain ⟨t, rfl⟩ := plus
    simpa [scanPower, longer] using scanned
  · have unsigned := And.intro (not_exists.mp minus) (not_exists.mp plus)
    rw [scanPower.eq_3 _ unsigned.1 unsigned.2] at scanned
    rw [scanPower.eq_3 _ (append_ne_cons unsigned.1 fun none => absurd none filled)
      (append_ne_cons unsigned.2 fun none => absurd none filled)]
    simpa [longer] using scanned

theorem extends_scanFraction : Extends scanFraction more := by
  intro s fraction rest scanned
  fun_cases scanFraction s with
  | case1 s | case2 s =>
    simpa [scanFraction, takeWhile_isDigit_append ends, dropWhile_isDigit_append ends]
      using scanned
  | case3 s other =>
    rw [scanFraction.eq_2 _ other] at scanned
    cases scanned
    exact scanFraction.eq_2 _ (append_ne_cons other fun _ => ends.point)

theorem extends_scanExponent : Extends scanExponent more := by
  intro s power rest scanned
  fun_cases scanExponent s with
  | case1 s | case2 s =>
    obtain ⟨⟨n, rest⟩, digits, ⟨⟩⟩ := Option.map_eq_some_iff.mp scanned
    simp only [List.cons_append, scanExponent, extends_scanPower ends digits, Option.map_some]
  | case3 s small capital =>
    rw [scanExponent.eq_3 _ small capital] at scanned
    cases scanned
    exact scanExponent.eq_3 _ (append_ne_cons small fun _ r => (ends.exponent r).1)
      (append_ne_cons capital fun _ r => (ends.exponent r).2)

theorem extends_scanUnsigned (negative : Bool) : Extends (scanUnsigned negative) more := by
  intro s number rest scanned
  rw [scanUnsigned] at scanned
  split at scanned
  · cases scanned
  · rename_i wellFormed
    obtain ⟨⟨fraction, afterFraction⟩, point, scanned⟩ := Option.bind_eq_some_iff.mp scanned
    obtain ⟨⟨power, rest⟩, exponent, ⟨⟩⟩ := Option.bind_eq_some_iff.mp scanned
    simp only [scanUnsigned, takeWhile_isDigit_append ends, if_neg wellFormed,
      dropWhile_isDigit_append ends, extends_scanFraction ends point, Option.bind_eq_bind,
      Option.bind_some, extends_scanExponent ends exponent]
    rfl

theorem extends_scanNumber : Extends scanNumber more := by
  intro s number rest scanned
  by_cases minus : ∃ t, s = '-' :: t
  · obtain ⟨t, rfl⟩ := minus
    rw [scanNumber_minus] at scanned
    rw [List.cons_append, scanNumber_minus, extends_scanUnsigned ends true scanned]
  · have unsigned := not_exists.mp minus
    have filled : s ≠ [] := by
      rintro rfl
      cases scanned
    rw [scanNumber_of_unsigned unsigned] at scanned
    rw [scanNumber_of_unsigned (append_ne_cons unsigned fun none => absurd none filled),
      extends_scanUnsigned ends false scanned]

theorem extends_scanScalar : Extends scanScalar more := by
  intro s d rest scanned
  fun_cases scanScalar s with
  | case1 s =>
    obtain ⟨⟨pieces, rest⟩, string, found⟩ := Option.map_eq_some_iff.mp scanned
    simp only [List.cons_append, scanScalar, extends_scanString more string, Option.map_some]
    dsimp only at found
    split at found <;> cases found <;> rfl
  | case2 s | case3 s | case4 s =>
    obtain ⟨rest, word, ⟨⟩⟩ := Option.map_eq_some_iff.mp scanned
    simp only [List.cons_append, scanScalar, after?_append word, Option.map_some]
  | case5 s quote null truth falsehood =>
    rw [scanScalar.eq_5 s quote null truth falsehood] at scanned
    obtain ⟨⟨number, rest⟩, digits, ⟨⟩⟩ := Option.map_eq_some_iff.mp scanned
    have other {c : Char} (own : ∀ r, s ≠ c :: r) : ∀ r, s ++ more ≠ c :: r := by
      refine append_ne_cons own ?_
      rintro rfl
      cases digits
    rw [scanScalar.eq_5 _ (other quote) (other null) (other truth) (other falsehood),
      extends_scanNumber ends digits, Option.map_some]

end Numbers

/-! ## Values -/

/-- What is read with some fuel is read in a longer text too, also with more fuel. -/
structure GoesOn (fuel : Nat) (more : List Char) : Prop where
  value : ∀ {fuel' s d rest}, fuel ≤ fuel' → scanValue fuel s = some (d, rest) →
    scanValue fuel' (s ++ more) = some (d, rest ++ more)
  items : ∀ {fuel' s ds rest}, fuel ≤ fuel' → scanItems fuel s = some (ds, rest) →
    scanItems fuel' (s ++ more) = some (ds, rest ++ more)
  members : ∀ {fuel' s d rest}, fuel ≤ fuel' → scanMembers fuel s = some (d, rest) →
    scanMembers fuel' (s ++ more) = some (d, rest ++ more)

namespace GoesOn

variable {fuel fuel' : Nat} {d : Data}

theorem zero (more : List Char) : GoesOn 0 more := by
  refine ⟨?_, ?_, ?_⟩
  all_goals
    intro _ _ _ _ _ scanned
    cases scanned

theorem value_step (goesOn : GoesOn fuel more) (ends : EndsNumber more) (enough : fuel ≤ fuel')
    (scanned : scanValue (fuel + 1) s = some (d, rest)) :
    scanValue (fuel' + 1) (s ++ more) = some (d, rest ++ more) := by
  rw [scanValue] at scanned
  split at scanned
  · rename_i inner opened
    rw [← scanValue_skipSpace, skipSpace_append_of_cons opened]
    split at scanned
    · rename_i closed
      cases scanned
      rw [scanValue, skipSpace_cons rfl]
      simp only [skipSpace_append_of_cons closed]
    · obtain ⟨⟨items, rest⟩, listed, ⟨⟩⟩ := Option.map_eq_some_iff.mp scanned
      rw [scanItems_skipSpace] at listed
      exact scanValue_list (goesOn.items enough listed)
  · rename_i inner opened
    rw [← scanValue_skipSpace, skipSpace_append_of_cons opened]
    split at scanned
    · rename_i closed
      cases scanned
      rw [scanValue, skipSpace_cons rfl]
      simp only [skipSpace_append_of_cons closed]
    · rw [scanMembers_skipSpace] at scanned
      exact scanValue_record (goesOn.members enough scanned)
  · rename_i notList notRecord
    have solid : skipSpace s ≠ [] := by
      intro blank
      rw [blank] at scanned
      cases scanned
    rw [scanValue]
    simp only [skipSpace_append solid]
    split
    · rename_i opened
      exact absurd opened (append_ne_cons notList (fun none => absurd none solid) _)
    · rename_i opened
      exact absurd opened (append_ne_cons notRecord (fun none => absurd none solid) _)
    · exact extends_scanScalar ends scanned

theorem items_step {ds : List Data} (goesOn : GoesOn fuel more) (enough : fuel ≤ fuel')
    (scanned : scanItems (fuel + 1) s = some (ds, rest)) :
    scanItems (fuel' + 1) (s ++ more) = some (ds, rest ++ more) := by
  rw [scanItems] at scanned
  obtain ⟨⟨item, afterItem⟩, first, scanned⟩ := Option.bind_eq_some_iff.mp scanned
  have item := goesOn.value enough first
  dsimp only at scanned
  split at scanned
  · rename_i inner comma
    obtain ⟨⟨items, rest⟩, listed, ⟨⟩⟩ := Option.bind_eq_some_iff.mp scanned
    exact scanItems_next item (skipSpace_append_of_cons comma more) (goesOn.items enough listed)
  · rename_i inner closed
    cases scanned
    exact scanItems_last item (skipSpace_append_of_cons closed more)
  · cases scanned

theorem members_step (goesOn : GoesOn fuel more) (enough : fuel ≤ fuel')
    (scanned : scanMembers (fuel + 1) s = some (d, rest)) :
    scanMembers (fuel' + 1) (s ++ more) = some (d, rest ++ more) := by
  rw [scanMembers] at scanned ⊢
  split at scanned
  case h_2 => cases scanned
  rename_i inner quoted
  obtain ⟨⟨key, afterKey⟩, named, scanned⟩ := Option.bind_eq_some_iff.mp scanned
  simp only [skipSpace_append_of_cons quoted, extends_scanString more named, Option.bind_eq_bind,
    Option.bind_some]
  dsimp only at scanned
  split at scanned
  case h_2 => cases scanned
  rename_i colon
  obtain ⟨⟨value, afterValue⟩, found, scanned⟩ := Option.bind_eq_some_iff.mp scanned
  simp only [skipSpace_append_of_cons colon, goesOn.value enough found, Option.bind_some]
  dsimp only at scanned
  split at scanned
  · rename_i comma
    obtain ⟨⟨members, rest⟩, listed, ⟨⟩⟩ := Option.bind_eq_some_iff.mp scanned
    simp only [skipSpace_append_of_cons comma, goesOn.members enough listed, Option.bind_some]
    rfl
  · rename_i closed
    cases scanned
    simp only [skipSpace_append_of_cons closed]
    rfl
  · cases scanned

end GoesOn

theorem goesOn (ends : EndsNumber more) (fuel : Nat) : GoesOn fuel more := by
  induction fuel with
  | zero => exact .zero more
  | succ fuel ih =>
    have enough (k : Nat) : fuel ≤ k + fuel := Nat.le_add_left fuel k
    constructor
    case value =>
      intro fuel' s d rest more scanned
      obtain ⟨k, rfl⟩ := Nat.exists_eq_add_of_le' more
      exact ih.value_step ends (enough k) scanned
    case items =>
      intro fuel' s ds rest more scanned
      obtain ⟨k, rfl⟩ := Nat.exists_eq_add_of_le' more
      exact ih.items_step (enough k) scanned
    case members =>
      intro fuel' s d rest more scanned
      obtain ⟨k, rfl⟩ := Nat.exists_eq_add_of_le' more
      exact ih.members_step (enough k) scanned

/-- A text of one value, in which there may be blanks around it, is read as that value also where
it stands inside another text. Only blanks are left of it. -/
theorem exists_scanValue_append {d : Data} (tree : treeOfChars? s = some d)
    (ends : EndsNumber more) {fuel : Nat} (enough : 2 * s.length + 2 ≤ fuel) :
    ∃ gap, IsGap gap ∧ scanValue fuel (s ++ more) = some (d, gap ++ more) := by
  rw [treeOfChars?] at tree
  split at tree
  · rename_i d' gap scanned
    split at tree
    · rename_i blank
      obtain rfl := Option.some.inj tree
      exact ⟨gap, List.dropWhile_eq_nil_iff.mp blank, (goesOn ends _).value enough scanned⟩
    · cases tree
  · cases tree

end MeshWatch.Json
