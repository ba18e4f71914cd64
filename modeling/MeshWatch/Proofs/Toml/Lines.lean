import MeshWatch.Proofs.Toml.Values
import MeshWatch.Toml.Document

/-!
# Lines of TOML are read back

A pair and a header are written on a line of their own, with a bare name. `Scans` says that a text
is read as a row of lines, however much fuel is left over; a document is put together from its end
by one lemma for each kind of line.
-/
namespace MeshWatch.Toml

variable {name : String} {d : Data} {c : Char} {s more : List Char} {lines : List Line}
  {ms : List (String × Data)}

/-! ## Names -/

/-- A name that needs no quotes. -/
def IsBare (name : String) : Prop := name.toList ≠ [] ∧ ∀ c ∈ name.toList, isKeyChar c

instance : DecidablePred IsBare := fun name =>
  decidable_of_iff (name.toList ≠ [] ∧ name.toList.all isKeyChar) (by simp [IsBare])

theorem ne_of_isKeyChar (key : isKeyChar c) {d : Char} (other : isKeyChar d = false) : c ≠ d := by
  rintro rfl
  rw [other] at key
  cases key

theorem isVisible_of_isKeyChar (key : isKeyChar c) : IsVisible c := by
  have space := ne_of_isKeyChar key (d := ' ') rfl
  have tab := ne_of_isKeyChar key (d := '\t') rfl
  refine ⟨?_, ne_of_isKeyChar key rfl, ne_of_isKeyChar key rfl, ne_of_isKeyChar key rfl⟩
  simp [isSpace, space, tab]

theorem IsBare.exists_cons (bare : IsBare name) :
    ∃ c more, name.toList = c :: more ∧ isKeyChar c := by
  obtain ⟨c, more, written⟩ := List.exists_cons_of_ne_nil bare.1
  exact ⟨c, more, written, bare.2 c (written ▸ List.mem_cons_self)⟩

/-- A bare name is read as a key of one part, if nothing goes on with it. -/
theorem key?_bare (bare : IsBare name) {stop next : Char} {t : List Char}
    (ends : isKeyChar stop = false) (found : skipSpace (stop :: s) = next :: t)
    (noPoint : next ≠ '.') : key? (name.toList ++ stop :: s) = some ([name], next :: t) := by
  have taken : (name.toList ++ stop :: s).takeWhile isKeyChar = name.toList := by
    rw [List.takeWhile_append_of_pos bare.2, List.takeWhile_cons_of_neg (by simp [ends]),
      List.append_nil]
  have dropped : (name.toList ++ stop :: s).dropWhile isKeyChar = stop :: s := by
    rw [List.dropWhile_append_of_pos bare.2, List.dropWhile_cons_of_neg (by simp [ends])]
  obtain ⟨c, others, written, key⟩ := bare.exists_cons
  have part : scanKeyPart (name.toList ++ stop :: s) = some (name, stop :: s) := by
    rw [written, List.cons_append, scanKeyPart]
    · rw [← List.cons_append, ← written, taken, dropped, if_neg bare.1, String.ofList_toList]
    · exact fun _ same => ne_of_isKeyChar key rfl (List.cons.inj same).1
    · exact fun _ same => ne_of_isKeyChar key rfl (List.cons.inj same).1
  have kept : skipSpace (name.toList ++ stop :: s) = name.toList ++ stop :: s := by
    rw [written, List.cons_append, skipSpace_visible (isVisible_of_isKeyChar key)]
  rw [key?, nestingLimit, scanKey, kept, part]
  simp only [Option.bind_eq_bind, Option.bind_some, found]
  split
  · rename_i same
    exact absurd (List.cons.inj same).1 noPoint
  · rfl

/-! ## A single line -/

theorem IsInline.exists_cons (line : IsInline d) :
    ∃ c more, valueChars d = c :: more ∧ IsVisible c := by
  cases line with
  | scalar scalar =>
    obtain ⟨c, more, written, visible, -⟩ := scalar.exists_cons
    exact ⟨c, more, written, visible⟩
  | @list items _ => cases items <;> exact ⟨'[', _, rfl, by decide⟩

theorem scanLine_pair (bare : IsBare name) (line : IsInline d) (more : List Char) :
    scanLine (name.toList ++ ' ' :: '=' :: ' ' :: (valueChars d ++ '\n' :: more)) =
      some (.pair [name] d, '\n' :: more) := by
  have key : key? (name.toList ++ ' ' :: '=' :: ' ' :: (valueChars d ++ '\n' :: more)) =
      some ([name], '=' :: ' ' :: (valueChars d ++ '\n' :: more)) :=
    key?_bare bare rfl rfl (by decide)
  have value := line.scanned (.line more)
  obtain ⟨c, others, written, visible⟩ := line.exists_cons
  have kept : skipSpace (' ' :: (valueChars d ++ '\n' :: more)) = valueChars d ++ '\n' :: more := by
    rw [skipSpace_space, written, List.cons_append, skipSpace_visible visible]
  obtain ⟨first, rest, spelled, keyChar⟩ := bare.exists_cons
  have noHeader : first ≠ '[' := ne_of_isKeyChar keyChar rfl
  rw [spelled, List.cons_append] at key ⊢
  rw [scanLine, key]
  · simp only [Option.bind_eq_bind, Option.bind_some, kept, value]
    rfl
  · exact fun _ same => noHeader (List.cons.inj same).1
  · exact fun _ same => noHeader (List.cons.inj same).1

/-- The brackets on one side of a header. -/
def brackets (several : Bool) (bracket : Char) : List Char :=
  if several then [bracket, bracket] else [bracket]

theorem scanLine_header (bare : IsBare name) (several : Bool) (more : List Char) :
    scanLine (brackets several '[' ++ (name.toList ++ (brackets several ']' ++ '\n' :: more))) =
      some (.header several [name], '\n' :: more) := by
  have key (t : List Char) : key? (name.toList ++ ']' :: t) = some ([name], ']' :: t) :=
    key?_bare bare rfl rfl (by decide)
  cases several with
  | true =>
    change scanLine ('[' :: '[' :: (name.toList ++ ']' :: ']' :: '\n' :: more)) = _
    rw [scanLine, scanHeader, key]
    rfl
  | false =>
    change scanLine ('[' :: (name.toList ++ ']' :: '\n' :: more)) = _
    rw [scanLine, scanHeader, key]
    · rfl
    · intro rest same
      obtain ⟨first, others, spelled, keyChar⟩ := bare.exists_cons
      rw [spelled] at same
      exact ne_of_isKeyChar keyChar rfl (List.cons.inj same).1

/-! ## Rows of lines -/

/-- A text is read as these lines with any fuel that is more than its length. -/
def Scans (s : List Char) (lines : List Line) : Prop :=
  ∀ fuel, s.length < fuel → scanLines fuel s = some lines

namespace Scans

theorem nil : Scans [] [] := by
  intro fuel enough
  cases fuel with
  | zero => cases enough
  | succ fuel => rfl

theorem blank (scans : Scans more lines) : Scans ('\n' :: more) lines := by
  intro fuel enough
  cases fuel with
  | zero => simp at enough
  | succ fuel => exact scans fuel (by simpa using enough)

/-- A line that begins with something visible, and the lines behind it. -/
theorem line {line : Line} (visible : IsVisible c)
    (found : scanLine (c :: (s ++ '\n' :: more)) = some (line, '\n' :: more))
    (scans : Scans more lines) : Scans (c :: (s ++ '\n' :: more)) (line :: lines) := by
  intro fuel enough
  cases fuel with
  | zero => simp at enough
  | succ fuel =>
    have kept := skipSpace_visible visible (s ++ '\n' :: more)
    obtain ⟨-, notComment, notBreak, notReturn⟩ := visible
    have uncommented : skipComment (c :: (s ++ '\n' :: more)) = c :: (s ++ '\n' :: more) := by
      rw [skipComment]
      exact fun _ same => notComment (List.cons.inj same).1
    have goesOn : endLine? (c :: (s ++ '\n' :: more)) = none := by
      rw [endLine?, kept, uncommented]
      exact newline?_cons notBreak notReturn _
    have later : scanLines fuel more = some lines := by
      refine scans fuel ?_
      simp only [List.length_cons, List.length_append] at enough
      omega
    have broken : endLine? ('\n' :: more) = some more := rfl
    rw [scanLines, kept]
    simp only [goesOn, found, Option.bind_eq_bind, Option.bind_some, broken, later]
    rfl

end Scans

/-- A pair of a name and a value. -/
def pairLine (m : String × Data) : Line := .pair [m.1] m.2

theorem Scans.pair (bare : IsBare name) (inline : IsInline d) (scans : Scans more lines) :
    Scans (pairChars name d ++ more) (.pair [name] d :: lines) := by
  obtain ⟨c, others, written, key⟩ := bare.exists_cons
  have found := scanLine_pair bare inline more
  have spelled : pairChars name d ++ more =
      c :: ((others ++ ' ' :: '=' :: ' ' :: valueChars d) ++ '\n' :: more) := by
    rw [pairChars, written]
    simp
  rw [spelled]
  refine scans.line (isVisible_of_isKeyChar key) ?_
  rw [written] at found
  simpa using found

theorem Scans.pairs (flat : ∀ m ∈ ms, IsBare m.1 ∧ IsInline m.2) (scans : Scans more lines) :
    Scans (pairsChars ms ++ more) (ms.map pairLine ++ lines) := by
  induction ms with
  | nil => exact scans
  | cons m ms ih =>
    obtain ⟨⟨bare, inline⟩, later⟩ := List.forall_mem_cons.mp flat
    have written : pairsChars (m :: ms) ++ more = pairChars m.1 m.2 ++ (pairsChars ms ++ more) := by
      rw [pairsChars, List.flatMap_cons, List.append_assoc]
      rfl
    rw [written]
    exact (ih later).pair bare inline

/-- A table stands behind an empty line and its header. -/
theorem Scans.table {several : Bool} {opening closing : String}
    (opens : opening.toList = brackets several '[')
    (closes : closing.toList = brackets several ']') (bare : IsBare name)
    (flat : ∀ m ∈ ms, IsBare m.1 ∧ IsInline m.2) (scans : Scans more lines) :
    Scans (tableChars opening closing name (.record ms) ++ more)
      (.header several [name] :: (ms.map pairLine ++ lines)) := by
  have found := scanLine_header bare several (pairsChars ms ++ more)
  obtain ⟨brackets', written⟩ : ∃ t, brackets several '[' = '[' :: t := by
    cases several <;> exact ⟨_, rfl⟩
  have spelled : tableChars opening closing name (.record ms) ++ more =
      '\n' :: '[' :: ((brackets' ++ name.toList ++ brackets several ']') ++
        '\n' :: (pairsChars ms ++ more)) := by
    rw [tableChars, opens, closes, written]
    simp
  rw [spelled]
  refine ((scans.pairs flat).line (by decide) ?_).blank
  rw [written] at found
  simpa using found

end MeshWatch.Toml
