import Mathlib.Data.List.DropRight
import MeshWatch.Proofs.Json.Tokens

/-!
# Texts of a tree

`Written` is the grammar of the JSON texts of a tree without doubles: between the tokens there may
be any spaces. Every such text is read as its tree; the indented and the compact text are two of
them.
-/
namespace MeshWatch

/-- A tree of which every value is kept exactly by a text. -/
inductive Data.IsPlain : Data → Prop
  | null : IsPlain .null
  | bool (b : Bool) : IsPlain (.bool b)
  | int {n : Int} (fits : Json.Fits64 n) : IsPlain (.int n)
  | text (s : String) : IsPlain (.text s)
  | list {items : List Data} (plain : ∀ item ∈ items, IsPlain item) : IsPlain (.list items)
  | record {members : List (String × Data)} (plain : ∀ m ∈ members, IsPlain m.2) :
    IsPlain (.record members)

namespace Data

attribute [simp] IsPlain.null IsPlain.bool IsPlain.text

@[simp] theorem isPlain_int_iff {n : Int} : (Data.int n).IsPlain ↔ Json.Fits64 n :=
  ⟨fun plain => by cases plain; assumption, .int⟩

@[simp] theorem isPlain_list_iff {items : List Data} :
    (Data.list items).IsPlain ↔ ∀ item ∈ items, item.IsPlain :=
  ⟨fun plain => by cases plain; assumption, .list⟩

@[simp] theorem isPlain_record_iff {members : List (String × Data)} :
    (Data.record members).IsPlain ↔ ∀ m ∈ members, m.2.IsPlain :=
  ⟨fun plain => by cases plain; assumption, .record⟩

end Data

namespace Json

/-- The parts of a text: a value, the items of a list and the members of a record, both of these
from the first one to the closing bracket. -/
inductive Part
  | value (d : Data)
  | items (ds : List Data)
  | members (ms : List (String × Data))

def IsGap (s : List Char) : Prop := ∀ c ∈ s, isSpace c

inductive Written : Part → List Char → Prop
  | null : Written (.value .null) "null".toList
  | true : Written (.value (.bool .true)) "true".toList
  | false : Written (.value (.bool .false)) "false".toList
  | int {n : Int} (fits : Fits64 n) : Written (.value (.int n)) (signed (n < 0) n.natAbs)
  | text (s : String) : Written (.value (.text s)) (quote s)
  | emptyList : Written (.value (.list [])) ['[', ']']
  | list {ds : List Data} {gap s : List Char} (blank : IsGap gap) (items : Written (.items ds) s) :
    Written (.value (.list ds)) ('[' :: (gap ++ s))
  | emptyRecord : Written (.value (.record [])) ['\x7b', '\x7d']
  | record {ms : List (String × Data)} {gap s : List Char} (blank : IsGap gap)
    (members : Written (.members ms) s) : Written (.value (.record ms)) ('\x7b' :: (gap ++ s))
  | lastItem {d : Data} {s gap : List Char} (item : Written (.value d) s) (blank : IsGap gap) :
    Written (.items [d]) (s ++ (gap ++ [']']))
  | item {d : Data} {ds : List Data} {s gap t : List Char} (item : Written (.value d) s)
    (blank : IsGap gap) (items : Written (.items ds) t) :
    Written (.items (d :: ds)) (s ++ ',' :: (gap ++ t))
  | lastMember {d : Data} {s gap gap' : List Char} (name : String) (blank : IsGap gap)
    (value : Written (.value d) s) (blank' : IsGap gap') :
    Written (.members [(name, d)]) (quote name ++ ':' :: (gap ++ s ++ (gap' ++ ['\x7d'])))
  | member {d : Data} {ms : List (String × Data)} {s gap gap' t : List Char} (name : String)
    (blank : IsGap gap) (value : Written (.value d) s) (blank' : IsGap gap')
    (members : Written (.members ms) t) :
    Written (.members ((name, d) :: ms)) (quote name ++ ':' :: (gap ++ s ++ ',' :: (gap' ++ t)))

/-! ## Reading -/

theorem skipSpace_cons {c : Char} (solid : isSpace c = false) (s : List Char) :
    skipSpace (c :: s) = c :: s := by
  simp [skipSpace, solid]

theorem skipSpace_skipSpace (s : List Char) : skipSpace (skipSpace s) = skipSpace s :=
  List.dropWhile_idempotent _ _

theorem skipSpace_gap {gap : List Char} (blank : IsGap gap) (s : List Char) :
    skipSpace (gap ++ s) = skipSpace s :=
  List.dropWhile_append_of_pos blank

/-- The first character of a number: a digit or the minus sign. -/
theorem exists_signed (negative : Bool) (n : Nat) :
    ∃ c rest, signed negative n = c :: rest ∧ (c.isDigit ∨ c = '-') := by
  cases negative with
  | true => exact ⟨'-', _, rfl, .inr rfl⟩
  | false =>
    obtain ⟨c, rest, written, digit⟩ := Text.exists_first_digit n
    exact ⟨c, rest, written, .inl digit⟩

theorem isSpace_of_isDigit {c : Char} (digit : c.isDigit) : isSpace c = false := by
  have other {d : Char} : d.isDigit = false → c ≠ d := ne_of_isDigit digit
  simp [isSpace, @other ' ' rfl, @other '\n' rfl, @other '\t' rfl, @other '\r' rfl]

/-- What is read of a text of a part. -/
def Part.IsScanned (fuel : Nat) (s rest : List Char) : Part → Prop
  | value d => scanValue fuel s = some (d, rest)
  | items ds => scanItems fuel s = some (ds, rest)
  | members ms => scanMembers fuel s = some (.record ms, rest)

theorem scanValue_scalar {c : Char} {s : List Char} (solid : isSpace c = false)
    (notList : c ≠ '[') (notRecord : c ≠ '\x7b') (fuel : Nat) :
    scanValue (fuel + 1) (c :: s) = scanScalar (c :: s) := by
  rw [scanValue, skipSpace_cons solid]
  split <;> simp_all

theorem scanValue_signed {n : Int} (fits : Fits64 n) {rest : List Char} (ends : EndsNumber rest)
    (fuel : Nat) :
    scanValue (fuel + 1) (signed (n < 0) n.natAbs ++ rest) = some (.int n, rest) := by
  have number := scanNumber_signed (n < 0) n.natAbs ends
  obtain ⟨c, others, written, first⟩ := exists_signed (n < 0) n.natAbs
  have other {d : Char} (notDigit : d.isDigit = false) (notMinus : d ≠ '-') : c ≠ d := by
    rcases first with digit | rfl
    · exact ne_of_isDigit digit notDigit
    · exact Ne.symm notMinus
  have solid : isSpace c = false := by
    rcases first with digit | rfl
    · exact isSpace_of_isDigit digit
    · rfl
  rw [written, List.cons_append] at number ⊢
  rw [scanValue_scalar solid (other rfl (by decide)) (other rfl (by decide)), scanScalar, number]
  · simp only [Option.map_some, data_signed fits]
  all_goals
    intro _ same
    exact absurd (List.cons.inj same).1 (other rfl (by decide))

theorem scanValue_quote (s : String) (rest : List Char) (fuel : Nat) :
    scanValue (fuel + 1) (quote s ++ rest) = some (.text s, rest) := by
  obtain ⟨text, pieces, written, scanned, decoded⟩ := exists_quoted s
  rw [written, List.cons_append, scanValue_scalar rfl (by decide) (by decide), scanScalar, scanned]
  simp [decoded]

variable {fuel : Nat} {gap gap' s t rest : List Char}

/-- The first item of a list does not begin with the closing bracket. -/
theorem skipSpace_ne_of_scanItems {ds : List Data} (scanned : scanItems fuel s = some (ds, rest)) :
    ∀ r, skipSpace s ≠ ']' :: r := by
  intro r closed
  cases fuel with
  | zero => cases scanned
  | succ fuel =>
    obtain ⟨⟨item, after⟩, first, -⟩ := Option.bind_eq_some_iff.mp scanned
    cases fuel with
    | zero => cases first
    | succ fuel =>
      rw [scanValue, closed] at first
      cases first

theorem skipSpace_ne_of_scanMembers {d : Data} (scanned : scanMembers fuel s = some (d, rest)) :
    ∀ r, skipSpace s ≠ '\x7d' :: r := by
  intro r closed
  cases fuel with
  | zero => cases scanned
  | succ fuel =>
    rw [scanMembers, closed] at scanned
    cases scanned

theorem scanValue_skipSpace (fuel : Nat) (s : List Char) :
    scanValue fuel (skipSpace s) = scanValue fuel s := by
  cases fuel with
  | zero => simp only [scanValue]
  | succ fuel => rw [scanValue, scanValue, skipSpace_skipSpace]

theorem scanItems_skipSpace (fuel : Nat) (s : List Char) :
    scanItems fuel (skipSpace s) = scanItems fuel s := by
  cases fuel with
  | zero => simp only [scanItems]
  | succ fuel => rw [scanItems, scanItems, scanValue_skipSpace]

theorem scanMembers_skipSpace (fuel : Nat) (s : List Char) :
    scanMembers fuel (skipSpace s) = scanMembers fuel s := by
  cases fuel with
  | zero => simp only [scanMembers]
  | succ fuel => rw [scanMembers, scanMembers, skipSpace_skipSpace]

theorem scanValue_list {ds : List Data} (scanned : scanItems fuel s = some (ds, rest)) :
    scanValue (fuel + 1) ('[' :: s) = some (.list ds, rest) := by
  rw [scanValue, skipSpace_cons rfl]
  simp only
  split
  · rename_i closed
    exact absurd closed (skipSpace_ne_of_scanItems scanned _)
  · rw [scanItems_skipSpace, scanned, Option.map_some]

theorem scanValue_record {d : Data} (scanned : scanMembers fuel s = some (d, rest)) :
    scanValue (fuel + 1) ('\x7b' :: s) = some (d, rest) := by
  rw [scanValue, skipSpace_cons rfl]
  simp only
  split
  · rename_i closed
    exact absurd closed (skipSpace_ne_of_scanMembers scanned _)
  · rw [scanMembers_skipSpace, scanned]

theorem scanValue_gap (blank : IsGap gap) (fuel : Nat) (s : List Char) :
    scanValue fuel (gap ++ s) = scanValue fuel s := by
  rw [← scanValue_skipSpace, skipSpace_gap blank, scanValue_skipSpace]

theorem scanItems_gap (blank : IsGap gap) (fuel : Nat) (s : List Char) :
    scanItems fuel (gap ++ s) = scanItems fuel s := by
  rw [← scanItems_skipSpace, skipSpace_gap blank, scanItems_skipSpace]

theorem scanMembers_gap (blank : IsGap gap) (fuel : Nat) (s : List Char) :
    scanMembers fuel (gap ++ s) = scanMembers fuel s := by
  rw [← scanMembers_skipSpace, skipSpace_gap blank, scanMembers_skipSpace]

theorem scanItems_last {d : Data} {after : List Char}
    (scanned : scanValue fuel s = some (d, after)) (closed : skipSpace after = ']' :: rest) :
    scanItems (fuel + 1) s = some ([d], rest) := by
  rw [scanItems, scanned]
  simp [closed]

theorem scanItems_next {d : Data} {ds : List Data} {after : List Char}
    (scanned : scanValue fuel s = some (d, after)) (comma : skipSpace after = ',' :: t)
    (later : scanItems fuel t = some (ds, rest)) :
    scanItems (fuel + 1) s = some (d :: ds, rest) := by
  rw [scanItems, scanned]
  simp [comma, later]

theorem consMember_quoted {pieces : List Piece} {name : String}
    (decoded : decode? pieces = some name.toList) (d : Data) (ms : List (String × Data)) :
    consMember pieces d (.record ms) = .record ((name, d) :: ms) := by
  rw [consMember, decoded]
  simp

theorem scanMembers_last {d : Data} (name : String) (blank : IsGap gap) (blank' : IsGap gap')
    (scanned : scanValue fuel (s ++ (gap' ++ '\x7d' :: rest)) =
      some (d, gap' ++ '\x7d' :: rest)) :
    scanMembers (fuel + 1) (quote name ++ ':' :: (gap ++ (s ++ (gap' ++ '\x7d' :: rest)))) =
      some (.record [(name, d)], rest) := by
  obtain ⟨text, pieces, written, key, decoded⟩ := exists_quoted name
  have colon (u : List Char) : skipSpace (':' :: u) = ':' :: u := skipSpace_cons rfl u
  have closing : skipSpace (gap' ++ '\x7d' :: rest) = '\x7d' :: rest := by
    rw [skipSpace_gap blank', skipSpace_cons rfl]
  rw [written, List.cons_append, scanMembers, skipSpace_cons rfl]
  simp [key, colon, scanValue_gap blank, scanned, closing, consMember_quoted decoded]

theorem scanMembers_next {d : Data} {ms : List (String × Data)} (name : String)
    (blank : IsGap gap) (scanned : scanValue fuel (s ++ ',' :: t) = some (d, ',' :: t))
    (later : scanMembers fuel t = some (.record ms, rest)) :
    scanMembers (fuel + 1) (quote name ++ ':' :: (gap ++ (s ++ ',' :: t))) =
      some (.record ((name, d) :: ms), rest) := by
  obtain ⟨text, pieces, written, key, decoded⟩ := exists_quoted name
  have colon (u : List Char) : skipSpace (':' :: u) = ':' :: u := skipSpace_cons rfl u
  have comma : skipSpace (',' :: t) = ',' :: t := skipSpace_cons rfl t
  rw [written, List.cons_append, scanMembers, skipSpace_cons rfl]
  simp [key, colon, scanValue_gap blank, scanned, comma, later, consMember_quoted decoded]

theorem EndsNumber.nil : EndsNumber [] := ⟨nofun, nofun, fun _ => ⟨nofun, nofun⟩⟩

theorem EndsNumber.cons {c : Char} {s : List Char} (other : c.isDigit = false ∧ c ≠ '.' ∧
    c ≠ 'e' ∧ c ≠ 'E') : EndsNumber (c :: s) := by
  obtain ⟨digit, point, small, capital⟩ := other
  refine ⟨?_, ?_, ?_⟩
  · rintro _ _ ⟨⟩
    exact digit
  · rintro _ ⟨⟩
    exact point rfl
  · exact fun _ => ⟨fun same => small (List.cons.inj same).1,
      fun same => capital (List.cons.inj same).1⟩

/-- A number ends where a gap begins. -/
theorem endsNumber_gap (blank : IsGap gap) (ends : EndsNumber s) : EndsNumber (gap ++ s) := by
  cases gap with
  | nil => exact ends
  | cons c gap =>
    have space : c = ' ' ∨ c = '\n' ∨ c = '\t' ∨ c = '\r' := by
      simpa [isSpace, or_assoc] using blank c List.mem_cons_self
    rcases space with rfl | rfl | rfl | rfl <;> exact .cons (by decide)

/-- A text of a part is read whole, whatever follows. One unit of fuel a character is enough. -/
theorem Written.isScanned {part : Part} {s : List Char} (w : Written part s) {fuel : Nat}
    (enough : s.length ≤ fuel) {rest : List Char} (ends : EndsNumber rest) :
    part.IsScanned fuel (s ++ rest) rest := by
  have closing {c : Char} (bracket : c = ']' ∨ c = '\x7d' ∨ c = ',') (t : List Char) :
      EndsNumber (c :: t) := by
    rcases bracket with rfl | rfl | rfl <;> exact .cons (by decide)
  induction w generalizing fuel rest with
  | null | true | false | emptyList | emptyRecord =>
    cases fuel with
    | zero => simp at enough
    | succ fuel => rfl
  | @int n fits =>
    cases fuel with
    | zero =>
      obtain ⟨c, others, written, -⟩ := exists_signed (n < 0) n.natAbs
      simp [written] at enough
    | succ fuel => exact scanValue_signed fits ends fuel
  | text s =>
    cases fuel with
    | zero => simp [quote] at enough
    | succ fuel => exact scanValue_quote s rest fuel
  | list blank items ih =>
    cases fuel with
    | zero => simp at enough
    | succ fuel =>
      simp only [List.length_cons, List.length_append] at enough
      simp only [Part.IsScanned, List.cons_append, List.append_assoc]
      exact scanValue_list ((scanItems_gap blank _ _).trans (ih (by omega) ends))
  | record blank members ih =>
    cases fuel with
    | zero => simp at enough
    | succ fuel =>
      simp only [List.length_cons, List.length_append] at enough
      simp only [Part.IsScanned, List.cons_append, List.append_assoc]
      exact scanValue_record ((scanMembers_gap blank _ _).trans (ih (by omega) ends))
  | lastItem item blank ih =>
    cases fuel with
    | zero => simp at enough
    | succ fuel =>
      simp only [List.length_cons, List.length_append] at enough
      simp only [Part.IsScanned, List.append_assoc, List.singleton_append]
      refine scanItems_last
        (ih (by omega) (endsNumber_gap blank (closing (.inl rfl) _))) ?_
      rw [skipSpace_gap blank, skipSpace_cons rfl]
  | item item blank items ih ihs =>
    cases fuel with
    | zero => simp at enough
    | succ fuel =>
      simp only [List.length_cons, List.length_append] at enough
      simp only [Part.IsScanned, List.append_assoc, List.cons_append]
      refine scanItems_next (ih (by omega) (closing (.inr (.inr rfl)) _))
        (skipSpace_cons rfl _) ?_
      rw [scanItems_gap blank]
      exact ihs (by omega) ends
  | lastMember name blank value blank' ih =>
    cases fuel with
    | zero => simp at enough
    | succ fuel =>
      simp only [List.length_cons, List.length_append] at enough
      simp only [Part.IsScanned, List.append_assoc, List.cons_append, List.nil_append]
      exact scanMembers_last name blank blank'
        (ih (by omega) (endsNumber_gap blank' (closing (.inr (.inl rfl)) _)))
  | member name blank value blank' members ih ihs =>
    cases fuel with
    | zero => simp at enough
    | succ fuel =>
      simp only [List.length_cons, List.length_append] at enough
      simp only [Part.IsScanned, List.append_assoc, List.cons_append]
      refine scanMembers_next name blank (ih (by omega) (closing (.inr (.inr rfl)) _)) ?_
      rw [scanMembers_gap blank']
      exact ihs (by omega) ends

/-- The tree of a text is read from it. -/
theorem Written.treeOfChars? {d : Data} {s : List Char} (w : Written (.value d) s) :
    treeOfChars? s = some d := by
  have scanned : scanValue (2 * s.length + 2) (s ++ []) = some (d, []) :=
    w.isScanned (by omega) .nil
  rw [List.append_nil] at scanned
  simp [Json.treeOfChars?, scanned, skipSpace]

/-! ## The texts that are written -/

section Layout

variable {write : Data → List Char} {moreItems : List Data → List Char}
  {moreMembers : List (String × Data) → List Char} {gap space last : List Char}

/-- Items with one gap after each comma and another before the bracket. -/
theorem written_items (blank : IsGap gap) (blank' : IsGap last)
    (ends : moreItems [] = last ++ [']'])
    (goesOn : ∀ d ds, moreItems (d :: ds) = ',' :: (gap ++ (write d ++ moreItems ds))) {d : Data}
    {ds : List Data} (first : Written (.value d) (write d))
    (others : ∀ d' ∈ ds, Written (.value d') (write d')) :
    Written (.items (d :: ds)) (write d ++ moreItems ds) := by
  induction ds generalizing d with
  | nil =>
    rw [ends]
    exact .lastItem first blank'
  | cons d' ds ih =>
    rw [goesOn]
    obtain ⟨next, later⟩ := List.forall_mem_cons.mp others
    exact .item first blank (ih next later)

/-- Members with one gap after each comma, a second after each colon and a third before the
brace. -/
theorem written_members (blank : IsGap gap) (blank' : IsGap space) (blank'' : IsGap last)
    (ends : moreMembers [] = last ++ ['\x7d'])
    (goesOn : ∀ name d ms, moreMembers ((name, d) :: ms) =
      ',' :: (gap ++ (quote name ++ ':' :: (space ++ write d ++ moreMembers ms))))
    (name : String) {d : Data} {ms : List (String × Data)} (first : Written (.value d) (write d))
    (others : ∀ m ∈ ms, Written (.value m.2) (write m.2)) :
    Written (.members ((name, d) :: ms))
      (quote name ++ ':' :: (space ++ write d ++ moreMembers ms)) := by
  induction ms generalizing name d with
  | nil =>
    rw [ends]
    exact .lastMember name blank' first blank''
  | cons m ms ih =>
    obtain ⟨name', d'⟩ := m
    rw [goesOn]
    obtain ⟨next, later⟩ := List.forall_mem_cons.mp others
    exact .member name blank' first blank (ih name' next later)

end Layout

theorem isGap_nil : IsGap [] := nofun

theorem isGap_newline (level : Nat) : IsGap (newline level) := by
  intro c member
  rcases List.mem_cons.mp member with rfl | space
  · rfl
  · rw [List.eq_of_mem_replicate space]
    rfl

theorem isGap_space : IsGap [' '] := by
  intro c member
  rw [List.mem_singleton.mp member]
  rfl

theorem written_indented {d : Data} (plain : d.IsPlain) (level : Nat) :
    Written (.value d) (indentedChars level d) := by
  induction plain generalizing level with
  | null => exact .null
  | bool b => cases b <;> first | exact .true | exact .false
  | @int n fits =>
    rw [indentedChars, scalar, toList_toString_int]
    · exact .int fits
    all_goals nofun
  | text s => exact .text s
  | @list items plain ih =>
    cases items with
    | nil => exact .emptyList
    | cons d ds =>
      obtain ⟨first, others⟩ := List.forall_mem_cons.mp fun d member => ih d member (level + 1)
      rw [indentedChars, List.append_assoc]
      refine .list (isGap_newline _)
        (written_items (isGap_newline (level + 1)) (isGap_newline level) ?_ ?_ first others)
      · rw [indentedItems]
      · intro d ds
        rw [indentedItems, List.append_assoc]
  | @record members plain ih =>
    cases members with
    | nil => exact .emptyRecord
    | cons m ms =>
      obtain ⟨first, others⟩ := List.forall_mem_cons.mp fun m member => ih m member (level + 1)
      rw [indentedChars, List.append_assoc]
      refine .record (isGap_newline _) (written_members (isGap_newline (level + 1)) isGap_space
        (isGap_newline level) ?_ ?_ m.1 first others)
      · rw [indentedMembers]
      · intro name d ms
        rw [indentedMembers, List.append_assoc]
        rfl

theorem written_compact {d : Data} (plain : d.IsPlain) :
    Written (.value d) (compactChars d) := by
  induction plain with
  | null => exact .null
  | bool b => cases b <;> first | exact .true | exact .false
  | @int n fits =>
    rw [compactChars, scalar, toList_toString_int]
    · exact .int fits
    all_goals nofun
  | text s => exact .text s
  | @list items plain ih =>
    cases items with
    | nil => exact .emptyList
    | cons d ds =>
      obtain ⟨first, others⟩ := List.forall_mem_cons.mp ih
      have items : Written (.items (d :: ds)) (compactChars d ++ compactItems ds) := by
        refine written_items isGap_nil isGap_nil ?_ ?_ first others
        · rw [compactItems]
          rfl
        · intro d ds
          rw [compactItems]
          rfl
      have listed := Written.list isGap_nil items
      rwa [compactChars]
  | @record members plain ih =>
    cases members with
    | nil => exact .emptyRecord
    | cons m ms =>
      obtain ⟨first, others⟩ := List.forall_mem_cons.mp ih
      have members : Written (.members (m :: ms))
          (quote m.1 ++ ':' :: (compactChars m.2 ++ compactMembers ms)) := by
        refine written_members isGap_nil isGap_nil isGap_nil ?_ ?_ m.1 first others
        · rw [compactMembers]
          rfl
        · intro name d ms
          rw [compactMembers]
          rfl
      have recorded := Written.record isGap_nil members
      rwa [compactChars]

/-- A plain tree is read from its indented text. -/
theorem tree?_indented {d : Data} (plain : d.IsPlain) : tree? (indented d) = some d := by
  rw [tree?, indented, String.toList_ofList]
  exact (written_indented plain 0).treeOfChars?

theorem tree?_compact {d : Data} (plain : d.IsPlain) : tree? (compact d) = some d := by
  rw [tree?, compact, String.toList_ofList]
  exact (written_compact plain).treeOfChars?

end Json

end MeshWatch
