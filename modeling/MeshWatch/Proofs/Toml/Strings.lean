import MeshWatch.Toml.Printer
import MeshWatch.Toml.Text

/-!
# Strings of TOML are read back

A string is written in one of four styles. In the one-line styles each character is read as it was
written, as itself or as an escape. In the styles of several lines up to two quotes may stand
together, and quotes at the end run into those that close the string: `LongText` is the grammar of
what stands between the opening and the closing quotes, for both of these styles.
-/
namespace MeshWatch.Toml

variable {c quote : Char} {s t code rest : List Char} {run fuel : Nat} {escapes : Bool}

/-! ## Characters -/

/-- What stands behind a backslash is an escape for a character, and not the end of a line. -/
structure Escapes (code : List Char) (c : Char) : Prop where
  found : ∀ rest, scanEscape (code ++ rest) = some (c, rest)
  first : ∃ letter more, code = letter :: more ∧ isSpace letter = false ∧ letter ≠ '\n' ∧
    letter ≠ '\r'

/-- An escape of one letter. -/
theorem Escapes.letter {letter : Char}
    (found : ∀ rest, scanEscape (letter :: rest) = some (c, rest))
    (solid : isSpace letter = false ∧ letter ≠ '\n' ∧ letter ≠ '\r') : Escapes [letter] c :=
  ⟨found, letter, [], rfl, solid⟩

theorem hexValue?_upperDigit : ∀ n < 16, Json.hexValue? (upperDigit n) = some n := by
  decide

theorem toNat_lt_of_isControl (control : isControl c) : c.toNat < 128 := by
  simp only [isControl, Bool.or_eq_true, Bool.and_eq_true, decide_eq_true_eq, beq_iff_eq] at control
  omega

theorem isLineChar_of_not_isControl (plain : isControl c = false) (notBreak : c ≠ '\n') :
    isLineChar c := by
  by_cases tab : c = '\t'
  · subst tab
    rfl
  · simp only [isControl, Bool.or_eq_false_iff, Bool.and_eq_false_iff, decide_eq_false_iff_not,
      beq_eq_false_iff_ne] at plain
    simp only [isLineChar, Bool.or_eq_true, Bool.and_eq_true, decide_eq_true_eq]
    exact .inr ⟨by grind, plain.2⟩

theorem Escapes.control (control : isControl c) :
    Escapes ['u', '0', '0', upperDigit (c.toNat / 16), upperDigit (c.toNat % 16)] c := by
  refine ⟨?_, 'u', _, rfl, by decide, by decide, by decide⟩
  intro rest
  have small := toNat_lt_of_isControl control
  have number : hexNumber? ['0', '0', upperDigit (c.toNat / 16), upperDigit (c.toNat % 16)] =
      some c.toNat := by
    simp only [hexNumber?, List.foldlM_cons, List.foldlM_nil,
      hexValue?_upperDigit _ (by omega : c.toNat / 16 < 16),
      hexValue?_upperDigit _ (by omega : c.toNat % 16 < 16)]
    change some (16 * (16 * (16 * (16 * 0 + 0) + 0) + c.toNat / 16) + c.toNat % 16) = _
    congr 1
    omega
  have valid : c.toNat.isValidChar := .inl (by omega)
  simp only [List.cons_append, List.nil_append, scanEscape, number, Option.bind_eq_bind,
    Option.bind_some, scalar?, if_pos valid, Char.ofNat_toNat]
  rfl

/-- Inside double quotes a character is written as an escape or as itself. -/
theorem basicChar_cases (notBreak : c ≠ '\n') :
    (∃ code, basicChar c = '\\' :: code ∧ Escapes code c) ∨
    (basicChar c = [c] ∧ c ≠ '\\' ∧ isLineChar c) := by
  fun_cases basicChar c
  case case1 => exact .inl ⟨_, rfl, .letter (fun _ => rfl) (by decide)⟩
  case case2 => exact .inl ⟨_, rfl, .letter (fun _ => rfl) (by decide)⟩
  case case3 => exact .inl ⟨_, rfl, .letter (fun _ => rfl) (by decide)⟩
  case case4 => exact .inl ⟨_, rfl, .letter (fun _ => rfl) (by decide)⟩
  case case5 => exact .inl ⟨_, rfl, .letter (fun _ => rfl) (by decide)⟩
  case case6 control => exact .inl ⟨_, rfl, .control control⟩
  case case7 _ _ _ _ notBackslash plain =>
    exact .inr ⟨rfl, notBackslash,
      isLineChar_of_not_isControl (Bool.eq_false_iff.mpr plain) notBreak⟩

/-! ## Strings on one line -/

theorem basicChars_cons (c : Char) (s : List Char) :
    (∃ code, basicChars (c :: s) = '\\' :: (code ++ basicChars s) ∧ Escapes code c) ∨
    (basicChars (c :: s) = c :: basicChars s ∧ c ≠ '"' ∧ c ≠ '\\' ∧ isLineChar c) := by
  by_cases quote : c = '"'
  · subst quote
    exact .inl ⟨['"'], rfl, .letter (fun _ => rfl) (by decide)⟩
  by_cases notBreak : c = '\n'
  · subst notBreak
    exact .inl ⟨['n'], rfl, .letter (fun _ => rfl) (by decide)⟩
  have written : basicChars (c :: s) = basicChar c ++ basicChars s := by
    simp only [basicChars, List.flatMap_cons]
  rcases basicChar_cases notBreak with ⟨code, escaped, stands⟩ | ⟨itself, plain⟩
  · exact .inl ⟨code, by rw [written, escaped, List.cons_append], stands⟩
  · exact .inr ⟨by rw [written, itself, List.singleton_append], quote, plain⟩

theorem scanBasic_basicChars (s rest : List Char) (enough : (basicChars s).length < fuel) :
    scanBasic fuel (basicChars s ++ '"' :: rest) = some (s, rest) := by
  induction s generalizing fuel with
  | nil =>
    cases fuel with
    | zero => simp at enough
    | succ fuel => rfl
  | cons c s ih =>
    cases fuel with
    | zero => simp at enough
    | succ fuel =>
      rcases basicChars_cons c s with ⟨code, written, stands⟩ | ⟨written, quote, backslash, plain⟩
      · rw [written, List.length_cons, List.length_append] at enough
        have later : scanBasic fuel (basicChars s ++ '"' :: rest) = some (s, rest) :=
          ih (by omega)
        rw [written, List.cons_append, List.append_assoc, scanBasic, stands.found]
        simp only [Option.bind_eq_bind, Option.bind_some, later]
        rfl
      · rw [written, List.length_cons] at enough
        rw [written, List.cons_append, scanBasic, if_pos plain, ih (by omega), Option.map_some]
        · exact quote
        · exact backslash

theorem scanLiteral_append (plain : ∀ c ∈ s, isLineChar c ∧ c ≠ '\x27') (rest : List Char) :
    scanLiteral (s ++ '\x27' :: rest) = some (s, rest) := by
  induction s with
  | nil => rfl
  | cons c s ih =>
    obtain ⟨⟨line, quote⟩, later⟩ := List.forall_mem_cons.mp plain
    rw [List.cons_append, scanLiteral, if_pos line, ih later, Option.map_some]
    exact quote

/-! ## Strings of several lines -/

def IsQuote (c : Char) : Prop := c = '"' ∨ c = '\x27'

/-- What stands between the quotes of a long string, and the characters that it stands for; `run`
quotes stand directly before it. Three quotes never stand together. -/
inductive LongText (quote : Char) (escapes : Bool) : Nat → List Char → List Char → Prop
  | nil {run : Nat} : LongText quote escapes run [] []
  | quote {run : Nat} {t s : List Char} (few : run < 2)
    (later : LongText quote escapes (run + 1) t s) :
    LongText quote escapes run (quote :: t) (quote :: s)
  | char {run : Nat} {c : Char} {t s : List Char} (other : c ≠ quote)
    (plain : isLineChar c ∨ c = '\n') (unescaped : escapes → c ≠ '\\')
    (later : LongText quote escapes 0 t s) : LongText quote escapes run (c :: t) (c :: s)
  | escape {run : Nat} {c : Char} {code t s : List Char} (allowed : escapes)
    (stands : Escapes code c) (later : LongText quote escapes 0 t s) :
    LongText quote escapes run ('\\' :: (code ++ t)) (c :: s)

section Scanning

/-- Where a word does not stand, no longer one stands. -/
theorem after?_append_eq_none {word : List Char} (absent : Json.after? word s = none)
    (more : List Char) : Json.after? (word ++ more) s = none := by
  induction word generalizing s with
  | nil => cases absent
  | cons w word ih =>
    cases s with
    | nil => rfl
    | cons c s =>
      rw [List.cons_append, Json.after?]
      rw [Json.after?] at absent
      split at absent
      · rename_i here
        rw [if_pos here, ih absent]
      · rename_i elsewhere
        rw [if_neg elsewhere]

theorem IsQuote.ne_return (isQuote : IsQuote quote) : quote ≠ '\r' := by
  rcases isQuote with rfl | rfl <;> decide

theorem IsQuote.ne_backslash (isQuote : IsQuote quote) : '\\' ≠ quote := by
  rcases isQuote with rfl | rfl <;> decide

theorem ne_return_of_plain (plain : isLineChar c ∨ c = '\n') : c ≠ '\r' := by
  rintro rfl
  revert plain
  decide

theorem scanLong_quote (isQuote : IsQuote quote) (next : Json.after? [quote, quote] t = none) :
    scanLong quote escapes (fuel + 1) (quote :: t) =
      (scanLong quote escapes fuel t).map fun (chars, rest) => (quote :: chars, rest) := by
  have three : Json.after? [quote, quote, quote] t = none := after?_append_eq_none next [quote]
  have four : Json.after? [quote, quote, quote, quote] t = none :=
    after?_append_eq_none next [quote, quote]
  rw [scanLong, if_pos rfl, four, three, next]
  intro _ same
  exact absurd same isQuote.ne_return

theorem scanLong_char (other : c ≠ quote) (plain : isLineChar c ∨ c = '\n')
    (unescaped : escapes → c ≠ '\\') :
    scanLong quote escapes (fuel + 1) (c :: t) =
      (scanLong quote escapes fuel t).map fun (chars, rest) => (c :: chars, rest) := by
  have kept : ¬ (escapes && c == '\\') := by simpa using unescaped
  have line : isLineChar c || c == '\n' := by simpa using plain
  rw [scanLong, if_neg other, if_neg kept, if_pos line]
  intro _ same
  exact absurd same (ne_return_of_plain plain)

theorem newline?_cons (notBreak : c ≠ '\n') (notReturn : c ≠ '\r') (t : List Char) :
    newline? (c :: t) = none := by
  rw [newline?]
  · rintro _ ⟨⟩
    exact notBreak rfl
  · rintro _ ⟨⟩
    exact notReturn rfl

theorem Escapes.continuation?_eq_none (stands : Escapes code c) (fuel : Nat) (t : List Char) :
    continuation? fuel (code ++ t) = none := by
  obtain ⟨letter, more, rfl, solid, notBreak, notReturn⟩ := stands.first
  have kept : skipSpace (letter :: more ++ t) = letter :: (more ++ t) := by
    simp [skipSpace, solid]
  rw [continuation?, kept, newline?_cons notBreak notReturn, Option.map_none]

theorem scanLong_escape (isQuote : IsQuote quote) (allowed : escapes) (stands : Escapes code c) :
    scanLong quote escapes (fuel + 1) ('\\' :: (code ++ t)) =
      (scanLong quote escapes fuel t).map fun (chars, rest) => (c :: chars, rest) := by
  have kept : escapes && '\\' == '\\' := by simpa using allowed
  rw [scanLong, if_neg isQuote.ne_backslash, if_pos kept, stands.continuation?_eq_none]
  · simp only [stands.found, Option.bind_eq_bind, Option.bind_some]
    cases scanLong quote escapes fuel t <;> rfl
  · intro _ same
    cases same

/-- No quote stands right behind a string. -/
def IsClosed (quote : Char) (rest : List Char) : Prop := ∀ more, rest ≠ quote :: more

theorem IsClosed.after?_eq_none (closed : IsClosed quote rest) (word : List Char) :
    Json.after? (quote :: word) rest = none := by
  cases rest with
  | nil => rfl
  | cons c rest =>
    rw [Json.after?, if_neg]
    rintro rfl
    exact closed rest rfl

/-- Up to two quotes at the end of a string stand before the three that close it. -/
theorem scanLong_close (isQuote : IsQuote quote) (closed : IsClosed quote rest) {n : Nat}
    (few : n ≤ 2) : scanLong quote escapes (fuel + 1)
      (List.replicate n quote ++ quote :: quote :: quote :: rest) =
        some (List.replicate n quote, rest) := by
  have absent := closed.after?_eq_none
  obtain rfl | rfl | rfl : n = 0 ∨ n = 1 ∨ n = 2 := by omega
  · rw [List.replicate_zero, List.nil_append, scanLong, if_pos rfl]
    · simp only [Json.after?, if_true, absent]
    · intro _ same
      exact absurd same isQuote.ne_return
  · rw [List.replicate_one, List.singleton_append, scanLong, if_pos rfl]
    · simp only [Json.after?, if_true, absent]
    · intro _ same
      exact absurd same isQuote.ne_return
  · rw [List.replicate_succ, List.replicate_one, List.cons_append, List.singleton_append, scanLong,
      if_pos rfl]
    · simp only [Json.after?, if_true]
    · intro _ same
      exact absurd same isQuote.ne_return

/-- Behind a quote a long string ends after at most one more, or two more do not come next. -/
theorem LongText.behind_quote (isQuote : IsQuote quote) (few : run < 2)
    (text : LongText quote escapes (run + 1) t s) :
    (∃ n < 2, t = List.replicate n quote ∧ s = List.replicate n quote) ∨
    ∀ more, Json.after? [quote, quote] (t ++ more) = none := by
  cases text with
  | nil => exact .inl ⟨0, by omega, rfl, rfl⟩
  | char other _ _ _ => exact .inr fun _ => if_neg other
  | escape => exact .inr fun _ => if_neg isQuote.ne_backslash
  | quote fewer later =>
    cases later with
    | nil => exact .inl ⟨1, by omega, rfl, rfl⟩
    | char other _ _ _ => exact .inr fun _ => (if_pos rfl).trans (if_neg other)
    | escape => exact .inr fun _ => (if_pos rfl).trans (if_neg isQuote.ne_backslash)
    | quote none => omega

/-- A long string is read whole, whatever stands behind its closing quotes but another quote. -/
theorem LongText.scanned (isQuote : IsQuote quote) (closed : IsClosed quote rest)
    (text : LongText quote escapes run t s) (enough : t.length < fuel) :
    scanLong quote escapes fuel (t ++ quote :: quote :: quote :: rest) = some (s, rest) := by
  induction text generalizing fuel with
  | nil =>
    cases fuel with
    | zero => simp at enough
    | succ fuel => exact scanLong_close isQuote closed (n := 0) (by omega)
  | @quote run t s few later ih =>
    cases fuel with
    | zero => simp at enough
    | succ fuel =>
      -- At the end of the string this quote and those that close it are counted together.
      rcases later.behind_quote isQuote few with ⟨n, small, rfl, rfl⟩ | apart
      · exact scanLong_close isQuote closed (n := n + 1) (by omega)
      · rw [List.cons_append, scanLong_quote isQuote (apart _), ih (by simpa using enough)]
        rfl
  | @char run c t s other plain unescaped later ih =>
    cases fuel with
    | zero => simp at enough
    | succ fuel =>
      rw [List.cons_append, scanLong_char other plain unescaped, ih (by simpa using enough)]
      rfl
  | @escape run c code t s allowed stands later ih =>
    cases fuel with
    | zero => simp at enough
    | succ fuel =>
      have shorter : t.length < fuel := by
        simp only [List.length_cons, List.length_append] at enough
        omega
      rw [List.cons_append, List.append_assoc, scanLong_escape isQuote allowed stands, ih shorter]
      rfl

end Scanning

/-! ## What is written -/

theorem longText_longChars (few : run ≤ 2) (s : List Char) :
    LongText '"' true run (longChars run s) s := by
  induction s generalizing run with
  | nil => exact .nil
  | cons c s ih =>
    by_cases isQuote : c = '"'
    · subst isQuote
      rw [longChars]
      -- Behind two quotes the next one is escaped, and the count begins again.
      by_cases third : run = 2
      · rw [if_pos third]
        exact .escape rfl (.letter (fun _ => rfl) (by decide)) (ih (by omega))
      · rw [if_neg third]
        exact .quote (by omega) (ih (by omega))
    by_cases isBreak : c = '\n'
    · subst isBreak
      exact .char (by decide) (.inr rfl) (by decide) (ih (by omega))
    have written : longChars run (c :: s) = basicChar c ++ longChars 0 s := by
      rw [longChars]
      · exact isQuote
      · exact isBreak
    rw [written]
    rcases basicChar_cases isBreak with ⟨code, escaped, stands⟩ | ⟨itself, notBackslash, plain⟩
    · rw [escaped, List.cons_append]
      exact .escape rfl stands (ih (by omega))
    · rw [itself, List.singleton_append]
      exact .char isQuote (.inl plain) (fun _ => notBackslash) (ih (by omega))

theorem le_longestRun (c : Char) (run best : Nat) (s : List Char) :
    run ≤ longestRun c run best s ∧ best ≤ longestRun c run best s := by
  induction s generalizing run best with
  | nil => exact ⟨Nat.le_max_left .., Nat.le_max_right ..⟩
  | cons x s ih =>
    rw [longestRun]
    split
    · have := ih (run + 1) best
      omega
    · have := ih 0 (max run best)
      omega

/-- A text without three quotes together and without control characters stands for itself. -/
theorem longText_self {best : Nat} (few : longestRun quote run best s ≤ 2)
    (plain : ∀ c ∈ s, isControl c = false) : LongText quote false run s s := by
  induction s generalizing run best with
  | nil => exact .nil
  | cons c s ih =>
    obtain ⟨here, later⟩ := List.forall_mem_cons.mp plain
    rw [longestRun] at few
    split at few
    · rename_i isQuote
      subst isQuote
      have counted := (le_longestRun c (run + 1) best s).1
      exact .quote (by omega) (ih few later)
    · rename_i other
      refine .char other ?_ nofun (ih few later)
      by_cases isBreak : c = '\n'
      · exact .inr isBreak
      · exact .inl (isLineChar_of_not_isControl here isBreak)

theorem longestRun_pos (member : c ∈ s) (run best : Nat) : 0 < longestRun c run best s := by
  induction s generalizing run best with
  | nil => cases member
  | cons x s ih =>
    rw [longestRun]
    split
    · have := (le_longestRun c (run + 1) best s).1
      omega
    · rename_i other
      exact ih ((List.mem_cons.mp member).resolve_left (Ne.symm other)) ..

/-- A long string without line breaks does not begin with one. -/
theorem LongText.newline?_eq_none (isQuote : IsQuote quote)
    (text : LongText quote escapes run t s) (noBreak : '\n' ∉ s) (more : List Char) :
    newline? (t ++ quote :: more) = none := by
  have closing : quote ≠ '\n' := by rcases isQuote with rfl | rfl <;> decide
  cases text with
  | nil => exact newline?_cons closing isQuote.ne_return more
  | quote => exact newline?_cons closing isQuote.ne_return _
  | char _ plain _ _ =>
    refine newline?_cons ?_ (ne_return_of_plain plain) _
    rintro rfl
    exact noBreak List.mem_cons_self
  | escape => exact newline?_cons (by decide) (by decide) _

/-- The line break behind the opening quotes is dropped, and no other one. -/
theorem LongText.afterOpening (isQuote : IsQuote quote) (text : LongText quote escapes run t s)
    (more : List Char) :
    Toml.afterOpening (opening s ++ (t ++ quote :: more)) = t ++ quote :: more := by
  rw [opening, Toml.afterOpening]
  split
  · rfl
  · rename_i noBreak
    have absent : '\n' ∉ s := by simpa using noBreak
    rw [List.nil_append, text.newline?_eq_none isQuote absent, Option.getD_none]

theorem plain_of_any_eq_false (plain : ¬ s.any isControl) : ∀ c ∈ s, isControl c = false := by
  simpa using plain

theorem styleOf_literal (style : styleOf s = .literal) :
    (∀ c ∈ s, isControl c = false) ∧ '\x27' ∉ s ∧ '\n' ∉ s := by
  simp only [styleOf] at style
  split at style
  · cases style
  split at style
  · rename_i holds
    obtain ⟨plain, single, noBreak⟩ := holds
    refine ⟨plain_of_any_eq_false plain, ?_, by simpa using noBreak⟩
    intro member
    have := longestRun_pos member 0 0
    omega
  all_goals (repeat' split at style) <;> cases style

theorem styleOf_longLiteral (style : styleOf s = .longLiteral) :
    (∀ c ∈ s, isControl c = false) ∧ longestRun '\x27' 0 0 s ≤ 2 := by
  simp only [styleOf] at style
  split at style
  · cases style
  split at style
  · cases style
  split at style
  · cases style
  split at style
  · rename_i holds
    exact ⟨plain_of_any_eq_false holds.1, holds.2⟩
  · split at style <;> cases style

/-- Neither kind of quote comes next. -/
def IsUnquoted (rest : List Char) : Prop := IsClosed '"' rest ∧ IsClosed '\x27' rest

theorem scanString_basic (s : List Char) (closed : IsClosed '"' rest) :
    scanString ('"' :: (basicChars s ++ '"' :: rest)) = some (String.ofList s, rest) := by
  have short : ∀ more, basicChars s ++ '"' :: rest ≠ '"' :: '"' :: more := by
    intro more same
    cases s with
    | nil => exact closed more (List.cons.inj same).2
    | cons c s =>
      rcases basicChars_cons c s with ⟨code, written, -⟩ | ⟨written, other, -⟩
      · rw [written] at same
        cases same
      · rw [written] at same
        exact other (List.cons.inj same).1
  have enough : (basicChars s).length < (basicChars s ++ '"' :: rest).length + 1 := by
    rw [List.length_append]
    omega
  rw [scanString, scanBasic_basicChars s rest enough, Option.map_some]
  exact short

theorem scanString_literal (plain : ∀ c ∈ s, isLineChar c ∧ c ≠ '\x27')
    (closed : IsClosed '\x27' rest) :
    scanString ('\x27' :: (s ++ '\x27' :: rest)) = some (String.ofList s, rest) := by
  have short : ∀ more, s ++ '\x27' :: rest ≠ '\x27' :: '\x27' :: more := by
    intro more same
    cases s with
    | nil => exact closed more (List.cons.inj same).2
    | cons c s => exact (plain c List.mem_cons_self).2 (List.cons.inj same).1
  rw [scanString, scanLiteral_append plain, Option.map_some]
  exact short

theorem scanLong_opening (isQuote : IsQuote quote) (closed : IsClosed quote rest)
    (text : LongText quote escapes run t s) :
    (scanLong quote escapes ((opening s ++ (t ++ quote :: quote :: quote :: rest)).length + 1)
      (afterOpening (opening s ++ (t ++ quote :: quote :: quote :: rest)))) = some (s, rest) := by
  rw [text.afterOpening isQuote]
  refine text.scanned isQuote closed ?_
  rw [List.length_append, List.length_append]
  omega

/-- Every string is read back from the style in which it is written. -/
theorem scanString_stringChars (s : List Char) (unquoted : IsUnquoted rest) :
    scanString (stringChars s ++ rest) = some (String.ofList s, rest) := by
  obtain ⟨noDouble, noSingle⟩ := unquoted
  rw [stringChars]
  split
  · simp only [List.cons_append, List.append_assoc, List.nil_append]
    exact scanString_basic s noDouble
  · rename_i style
    obtain ⟨plain, noQuote, noBreak⟩ := styleOf_literal style
    have lined : ∀ c ∈ s, isLineChar c ∧ c ≠ '\x27' := fun c member =>
      ⟨isLineChar_of_not_isControl (plain c member) (ne_of_mem_of_not_mem member noBreak),
        ne_of_mem_of_not_mem member noQuote⟩
    simp only [List.cons_append, List.append_assoc, List.nil_append]
    exact scanString_literal lined noSingle
  · have text := longText_longChars (Nat.zero_le 2) s
    simp only [List.cons_append, List.append_assoc, List.nil_append]
    rw [scanString, scanLong_opening (.inl rfl) noDouble text, Option.map_some]
  · rename_i style
    obtain ⟨plain, few⟩ := styleOf_longLiteral style
    have text := longText_self few plain
    simp only [List.cons_append, List.append_assoc, List.nil_append]
    rw [scanString, scanLong_opening (.inr rfl) noSingle text, Option.map_some]

end MeshWatch.Toml
