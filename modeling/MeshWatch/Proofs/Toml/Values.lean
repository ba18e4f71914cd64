import MeshWatch.Proofs.Json.Tokens
import MeshWatch.Proofs.Toml.Strings
import MeshWatch.Toml.Value

/-!
# Values of TOML are read back

The values that stand on one line: words, whole numbers, strings, and lists of them. A value is
followed by a comma, a closing bracket or the end of its line, and none of these goes on with it.
-/
namespace MeshWatch.Toml

variable {d : Data} {items : List Data} {c : Char} {s rest : List Char} {n fuel room : Nat}

/-- What stands behind a value. -/
inductive Ends : List Char → Prop
  | comma (rest : List Char) : Ends (',' :: rest)
  | bracket (rest : List Char) : Ends (']' :: rest)
  | line (rest : List Char) : Ends ('\n' :: rest)

theorem Ends.isUnquoted (ends : Ends rest) : IsUnquoted rest := by
  cases ends <;> exact ⟨nofun, nofun⟩

/-! ## Whole numbers -/

theorem moreDigits_append (digits : ∀ c ∈ s, c.isDigit) (ends : Ends rest) :
    moreDigits Char.isDigit (s ++ rest) = some (s, rest) := by
  induction s with
  | nil => cases ends <;> rfl
  | cons c s ih =>
    obtain ⟨digit, later⟩ := List.forall_mem_cons.mp digits
    rw [List.cons_append, moreDigits, if_pos digit, ih later, Option.map_some]
    intro _ _ same
    exact absurd same (Json.ne_of_isDigit digit rfl)

/-- The digits of a number are scanned whole, a single zero among them. -/
theorem scanWhole_toDigits (n : Nat) (ends : Ends rest) :
    scanWhole (Nat.toDigits 10 n ++ rest) = some (Nat.toDigits 10 n, rest) := by
  rcases Nat.eq_zero_or_pos n with rfl | positive
  · rfl
  · have digits := fun c (member : c ∈ Nat.toDigits 10 n) => Text.isDigit_of_mem member
    have nonZero := Text.head?_toDigits positive
    obtain ⟨first, others, written, digit⟩ := Text.exists_first_digit n
    rw [written] at digits nonZero ⊢
    have later := (List.forall_mem_cons.mp digits).2
    rw [List.cons_append, scanWhole, scanDigits, if_pos digit, moreDigits_append later ends,
      Option.map_some]
    intro _ zero
    exact nonZero (congrArg some (List.cons.inj zero).1)

theorem scanDecimal_toDigits (fits : n < Nat.pow 2 63) (ends : Ends rest) :
    scanDecimal false (Nat.toDigits 10 n ++ rest) = some (.int n, rest) := by
  rw [scanDecimal, scanWhole_toDigits n ends]
  cases ends <;> simp [Text.digitsValue_toDigits, fits]

/-- No date and no time begins with a number behind which a value ends. -/
theorem startsWith_digits {mark : Char} (digits : ∀ c ∈ s, c.isDigit) (ends : Ends rest)
    (isMark : mark = '-' ∨ mark = ':') (count : Nat) :
    startsWith count mark (s ++ rest) = false := by
  have notDigit : mark.isDigit = false := by rcases isMark with rfl | rfl <;> rfl
  obtain ⟨c, more, rfl, solid, other⟩ :
      ∃ c more, rest = c :: more ∧ c.isDigit = false ∧ c ≠ mark := by
    cases ends <;> rcases isMark with rfl | rfl <;> exact ⟨_, _, rfl, by decide, by decide⟩
  rw [Bool.eq_false_iff]
  intro starts
  simp only [startsWith, Bool.and_eq_true, decide_eq_true_eq, List.all_eq_true,
    beq_iff_eq] at starts
  obtain ⟨⟨-, all⟩, marked⟩ := starts
  rcases Nat.lt_trichotomy count s.length with shorter | same | longer
  · rw [List.getElem?_append_left shorter] at marked
    have digit := digits mark (List.mem_of_getElem? marked)
    rw [notDigit] at digit
    cases digit
  · rw [same, List.getElem?_append_right (Nat.le_refl _), Nat.sub_self] at marked
    exact other (Option.some.inj marked)
  · have member : c ∈ (s ++ c :: more).take count := by
      rw [List.take_append, List.mem_append]
      obtain ⟨k, positive⟩ : ∃ k, count - s.length = k + 1 := ⟨count - s.length - 1, by omega⟩
      rw [positive, List.take_succ_cons]
      exact .inr List.mem_cons_self
    have digit := all c member
    rw [solid] at digit
    cases digit

/-- A number in another base does not begin as a decimal number does. -/
theorem toDigits_append_ne (n : Nat) (ends : Ends rest) {letter : Char}
    (based : letter = 'x' ∨ letter = 'o' ∨ letter = 'b') (more : List Char) :
    Nat.toDigits 10 n ++ rest ≠ '0' :: letter :: more := by
  intro same
  rcases Nat.eq_zero_or_pos n with rfl | positive
  · have following : rest = letter :: more := (List.cons.inj same).2
    subst following
    cases ends <;> simp at based
  · refine Text.head?_toDigits positive ?_
    obtain ⟨first, others, written, -⟩ := Text.exists_first_digit n
    rw [written] at same ⊢
    exact congrArg some (List.cons.inj same).1

theorem scanNumeric_toDigits (fits : n < Nat.pow 2 63) (ends : Ends rest) :
    scanNumeric (Nat.toDigits 10 n ++ rest) = some (.int n, rest) := by
  have digits := fun c (member : c ∈ Nat.toDigits 10 n) => Text.isDigit_of_mem member
  have number := scanDecimal_toDigits fits ends
  have noDate := startsWith_digits digits ends (.inl rfl) 4
  have noTime := startsWith_digits digits ends (.inr rfl) 2
  have hexadecimal := toDigits_append_ne n ends (.inl rfl)
  have octal := toDigits_append_ne n ends (.inr (.inl rfl))
  have binary := toDigits_append_ne n ends (.inr (.inr rfl))
  obtain ⟨first, others, written, digit⟩ := Text.exists_first_digit n
  have other {c : Char} : c.isDigit = false → first ≠ c := Json.ne_of_isDigit digit
  have unsigned : scanSign (first :: (others ++ rest)) = (false, first :: (others ++ rest)) := by
    rw [scanSign]
    · exact fun _ minus => absurd (List.cons.inj minus).1 (other rfl)
    · exact fun _ plus => absurd (List.cons.inj plus).1 (other rfl)
  rw [written, List.cons_append] at number noDate noTime hexadecimal octal binary ⊢
  rw [scanNumeric, if_neg (by simp [noDate]), if_neg (by simp [noTime]), unsigned]
  · simp only
    split
    · rename_i same
      exact absurd (List.cons.inj same).1 (other rfl)
    · rename_i same
      exact absurd (List.cons.inj same).1 (other rfl)
    · exact number
  · exact hexadecimal
  · exact octal
  · exact binary

/-! ## Values without parts -/

inductive IsScalar : Data → Prop
  | bool (b : Bool) : IsScalar (.bool b)
  | int {n : Nat} (fits : n < Nat.pow 2 63) : IsScalar (.int n)
  | text (s : String) : IsScalar (.text s)

/-- No blank, no line break and not the beginning of a comment. -/
def IsVisible (c : Char) : Prop := isSpace c = false ∧ c ≠ '#' ∧ c ≠ '\n' ∧ c ≠ '\r'

/-- A visible character with which no list and no table begins or ends. -/
def IsSolid (c : Char) : Prop := IsVisible c ∧ c ≠ '[' ∧ c ≠ ']' ∧ c ≠ '\x7b'

instance : DecidablePred IsVisible := fun _ => inferInstanceAs (Decidable (_ ∧ _))

instance : DecidablePred IsSolid := fun _ => inferInstanceAs (Decidable (_ ∧ _))

theorem IsSolid.of_isDigit (digit : c.isDigit) : IsSolid c := by
  have other {d : Char} : d.isDigit = false → c ≠ d := Json.ne_of_isDigit digit
  refine ⟨⟨?_, other rfl, other rfl, other rfl⟩, other rfl, other rfl, other rfl⟩
  simp [isSpace, @other ' ' rfl, @other '\t' rfl]

theorem exists_stringChars (s : List Char) :
    ∃ quote more, stringChars s = quote :: more ∧ IsQuote quote := by
  rw [stringChars]
  split
  · exact ⟨_, _, rfl, .inl rfl⟩
  · exact ⟨_, _, rfl, .inr rfl⟩
  · exact ⟨_, _, rfl, .inl rfl⟩
  · exact ⟨_, _, rfl, .inr rfl⟩

theorem valueChars_nat (n : Nat) : valueChars (.int n) = Nat.toDigits 10 n := by
  rw [valueChars]
  exact Text.toList_toString n

namespace IsScalar

theorem exists_cons (scalar : IsScalar d) : ∃ c more, valueChars d = c :: more ∧ IsSolid c := by
  cases scalar with
  | bool b =>
    cases b with
    | false => exact ⟨'f', _, rfl, by decide⟩
    | true => exact ⟨'t', _, rfl, by decide⟩
  | @int n fits =>
    obtain ⟨first, others, written, digit⟩ := Text.exists_first_digit n
    exact ⟨first, others, (valueChars_nat _).trans written, .of_isDigit digit⟩
  | text s =>
    obtain ⟨quote, more, written, isQuote⟩ := exists_stringChars s.toList
    refine ⟨quote, more, by rw [valueChars, written], ?_⟩
    rcases isQuote with rfl | rfl <;> decide

theorem scanned (scalar : IsScalar d) (ends : Ends rest) :
    scanScalar (valueChars d ++ rest) = some (d, rest) := by
  cases scalar with
  | bool b => cases b <;> rfl
  | @int n fits =>
    have number := scanNumeric_toDigits fits ends
    rw [valueChars_nat]
    obtain ⟨first, others, written, digit⟩ := Text.exists_first_digit n
    have other {c : Char} : c.isDigit = false → first ≠ c := Json.ne_of_isDigit digit
    rw [written, List.cons_append] at number ⊢
    rw [scanScalar, number]
    all_goals
      intro _ same
      exact absurd (List.cons.inj same).1 (other rfl)
  | text s =>
    have read := scanString_stringChars s.toList ends.isUnquoted
    obtain ⟨quote, more, written, isQuote⟩ := exists_stringChars s.toList
    rw [valueChars]
    rw [written, List.cons_append] at read ⊢
    rcases isQuote with rfl | rfl <;> rw [scanScalar, read, Option.map_some, String.ofList_toList]

end IsScalar

/-! ## Values on one line -/

/-- A value without parts, or a list of such values. -/
inductive IsInline : Data → Prop
  | scalar {d : Data} (scalar : IsScalar d) : IsInline d
  | list {items : List Data} (scalars : ∀ item ∈ items, IsScalar item) : IsInline (.list items)

theorem skipSpace_visible (visible : IsVisible c) (s : List Char) :
    skipSpace (c :: s) = c :: s := by
  simp [skipSpace, visible.1]

theorem skipSpace_space (s : List Char) : skipSpace (' ' :: s) = skipSpace s := rfl

/-- Between the parts of a list no more than blanks are skipped if something visible follows. -/
theorem skipLines_of_visible (visible : IsVisible c) {gap t : List Char}
    (found : skipSpace gap = c :: t) (fuel : Nat) : skipLines (fuel + 1) gap = c :: t := by
  obtain ⟨-, notComment, notBreak, notReturn⟩ := visible
  rw [skipLines, found]
  split
  · rename_i same
    exact absurd (List.cons.inj same).1 notComment
  · rw [newline?_cons notBreak notReturn]

theorem scanValue_scalar (scalar : IsScalar d) (ends : Ends rest) (fuel room : Nat) :
    scanValue (fuel + 1) room (valueChars d ++ rest) = some (d, rest) := by
  have read := scalar.scanned ends
  obtain ⟨c, more, written, -, notList, -, notTable⟩ := scalar.exists_cons
  rw [written, List.cons_append] at read ⊢
  rw [scanValue]
  · exact read
  · exact fun _ same _ => notList (List.cons.inj same).1
  · exact fun _ same _ => notTable (List.cons.inj same).1
  · exact fun _ _ same _ => notList (List.cons.inj same).1
  · exact fun _ _ same _ => notTable (List.cons.inj same).1

theorem ends_itemChars (items : List Data) (rest : List Char) : Ends (itemChars items ++ rest) := by
  cases items with
  | nil => exact .bracket rest
  | cons item items => exact .comma _

theorem scanItems_itemChars {item : Data} (scalars : ∀ d ∈ item :: items, IsScalar d)
    (enough : items.length + 1 < fuel) : scanItems fuel room
      (valueChars item ++ (itemChars items ++ rest)) = some (item :: items, rest) := by
  induction items generalizing item fuel with
  | nil =>
    obtain ⟨fuel, rfl⟩ : ∃ k, fuel = k + 2 := ⟨fuel - 2, by omega⟩
    have read := scanValue_scalar (scalars item List.mem_cons_self) (ends_itemChars [] rest) fuel
      room
    have closing : skipLines ((itemChars [] ++ rest).length + 1) (itemChars [] ++ rest) =
        ']' :: rest := skipLines_of_visible (by decide) rfl _
    rw [scanItems, read]
    simp only [Option.bind_eq_bind, Option.bind_some, closing]
    rfl
  | cons next items ih =>
    obtain ⟨fuel, rfl⟩ : ∃ k, fuel = k + 2 := ⟨fuel - 2, by omega⟩
    obtain ⟨here, later⟩ := List.forall_mem_cons.mp scalars
    have read := scanValue_scalar here (ends_itemChars (next :: items) rest) fuel room
    have others : scanItems (fuel + 1) room (valueChars next ++ (itemChars items ++ rest)) =
        some (next :: items, rest) := ih later (by simpa using enough)
    obtain ⟨c, more, written, visible, -, notClosing, -⟩ :=
      (later next List.mem_cons_self).exists_cons
    have comma : skipLines ((itemChars (next :: items) ++ rest).length + 1)
        (itemChars (next :: items) ++ rest) =
          ',' :: ' ' :: (valueChars next ++ (itemChars items ++ rest)) := by
      refine skipLines_of_visible (by decide) ?_ _
      rw [itemChars]
      simp only [List.cons_append, List.append_assoc]
      rfl
    have blank (n : Nat) :
        skipLines (n + 1) (' ' :: (valueChars next ++ (itemChars items ++ rest))) =
          valueChars next ++ (itemChars items ++ rest) := by
      rw [written, List.cons_append]
      exact skipLines_of_visible visible (skipSpace_visible visible _) n
    rw [scanItems, read]
    simp only [Option.bind_eq_bind, Option.bind_some, comma, blank]
    rw [written, List.cons_append] at others ⊢
    split
    · rename_i same
      exact absurd (List.cons.inj same).1 notClosing
    · simp only [others, Option.bind_some]
      rfl

theorem length_le_itemChars (items : List Data) : items.length < (itemChars items).length := by
  induction items with
  | nil => decide
  | cons item items ih =>
    rw [itemChars, List.length_cons, List.length_cons, List.length_cons, List.length_append]
    omega

theorem scanValue_list {item : Data} (scalars : ∀ d ∈ item :: items, IsScalar d)
    (enough : items.length + 1 < fuel) : scanValue (fuel + 1) (room + 1)
      ('[' :: (valueChars item ++ (itemChars items ++ rest))) =
        some (.list (item :: items), rest) := by
  have read : scanItems fuel room (valueChars item ++ (itemChars items ++ rest)) =
      some (item :: items, rest) := scanItems_itemChars scalars enough
  obtain ⟨c, more, written, visible, -, notClosing, -⟩ :=
    (scalars item List.mem_cons_self).exists_cons
  rw [written, List.cons_append] at read ⊢
  have kept (n : Nat) : skipLines (n + 1) (c :: (more ++ (itemChars items ++ rest))) =
      c :: (more ++ (itemChars items ++ rest)) :=
    skipLines_of_visible visible (skipSpace_visible visible _) n
  have filled : ∀ after, c :: (more ++ (itemChars items ++ rest)) ≠ ']' :: after :=
    fun _ same => notClosing (List.cons.inj same).1
  rw [scanValue, kept]
  · split
    · rename_i same
      exact absurd same (filled _)
    · rw [read, Option.map_some]
  · exact filled

/-- A value on one line is read back. -/
theorem IsInline.scanned (line : IsInline d) (ends : Ends rest) :
    value? (valueChars d ++ rest) = some (d, rest) := by
  rw [value?]
  cases line with
  | scalar scalar => exact scanValue_scalar scalar ends _ _
  | @list items scalars =>
    cases items with
    | nil => rfl
    | cons item items =>
      have counted := length_le_itemChars items
      rw [valueChars, List.cons_append, List.append_assoc]
      refine scanValue_list scalars ?_
      simp only [List.length_cons, List.length_append]
      omega

end MeshWatch.Toml
