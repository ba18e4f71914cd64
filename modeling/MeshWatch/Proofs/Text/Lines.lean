import MeshWatch.Proofs.Text.Blank
import MeshWatch.Text.Lines

/-!
# Cutting and joining texts

Where a text is cut when one of its parts is known not to hold the character, and what becomes of
settings that are written one to a line: the settings of any text, joined and read again, are the
same settings.
-/
namespace MeshWatch.Text

section Cutting

variable {c : Char} {a b s : List Char}

theorem cutFirst_append (fresh : c ∉ a) : cutFirst c (a ++ c :: b) = some (a, b) := by
  induction a with
  | nil => simp [cutFirst]
  | cons x a ih =>
    obtain ⟨ne, fresh⟩ := List.ne_and_not_mem_of_not_mem_cons fresh
    simp [cutFirst, ne.symm, ih fresh]

theorem exists_cutFirst (member : c ∈ s) : ∃ front back, cutFirst c s = some (front, back) := by
  induction s with
  | nil => cases member
  | cons x s ih =>
    by_cases here : x = c
    · exact ⟨[], s, by rw [cutFirst, if_pos here]⟩
    · obtain ⟨front, back, cut⟩ := ih (List.mem_of_ne_of_mem (Ne.symm here) member)
      exact ⟨x :: front, back, by rw [cutFirst, if_neg here, cut]; rfl⟩

theorem cutLast_eq_none (fresh : c ∉ s) : cutLast c s = none := by
  induction s with
  | nil => rfl
  | cons x s ih =>
    obtain ⟨ne, fresh⟩ := List.ne_and_not_mem_of_not_mem_cons fresh
    simp [cutLast, ne.symm, ih fresh]

theorem cutLast_append (fresh : c ∉ b) : cutLast c (a ++ c :: b) = some (a, b) := by
  induction a with
  | nil => simp [cutLast, cutLast_eq_none fresh]
  | cons x a ih => simp [cutLast, ih]

theorem splitOn_eq_singleton (fresh : c ∉ s) : splitOn c s = [s] := by
  induction s with
  | nil => rfl
  | cons x s ih =>
    obtain ⟨ne, fresh⟩ := List.ne_and_not_mem_of_not_mem_cons fresh
    simp [splitOn, ne.symm, ih fresh]

theorem splitOn_append (fresh : c ∉ a) : splitOn c (a ++ c :: b) = a :: splitOn c b := by
  induction a with
  | nil => simp [splitOn]
  | cons x a ih =>
    obtain ⟨ne, fresh⟩ := List.ne_and_not_mem_of_not_mem_cons fresh
    simp [splitOn, ne.symm, ih fresh]

theorem not_mem_of_mem_splitOn {piece : List Char} (member : piece ∈ splitOn c s) :
    c ∉ piece := by
  induction s generalizing piece with
  | nil =>
    obtain rfl : piece = [] := by simpa [splitOn] using member
    exact List.not_mem_nil
  | cons x s ih =>
    rw [splitOn] at member
    split at member
    · rcases List.mem_cons.mp member with rfl | later
      · exact List.not_mem_nil
      · exact ih later
    · rename_i ne
      split at member
      · obtain rfl : piece = [x] := by simpa using member
        simpa using Ne.symm ne
      · rename_i front others split
        rcases List.mem_cons.mp member with rfl | later
        · have fresh := ih (split ▸ List.mem_cons_self)
          simpa using ⟨Ne.symm ne, fresh⟩
        · exact ih (split ▸ List.mem_cons_of_mem _ later)

/-- There is one piece more than there are places to cut. -/
theorem length_splitOn (c : Char) (s : List Char) : (splitOn c s).length = s.count c + 1 := by
  induction s with
  | nil => rfl
  | cons x s ih =>
    rw [splitOn]
    split
    · rename_i here
      rw [List.length_cons, ih, here, List.count_cons_self]
    · rename_i elsewhere
      rw [List.count_cons_of_ne elsewhere, ← ih]
      split
      · rename_i nothing
        rw [nothing] at ih
        cases ih
      · rename_i split
        rw [split, List.length_cons, List.length_cons]

end Cutting

/-! ## Joining -/

section Joining

variable {sep : String} {c : Char}

theorem joinWith_cons (sep s : String) {rest : List String} (more : rest ≠ []) :
    joinWith sep (s :: rest) = s ++ sep ++ joinWith sep rest := by
  rw [joinWith]
  exact more

theorem joinWith_append (sep : String) {front back : List String} (some : front ≠ [])
    (more : back ≠ []) :
    joinWith sep (front ++ back) = joinWith sep front ++ sep ++ joinWith sep back := by
  induction front with
  | nil => exact absurd rfl some
  | cons s front ih =>
    by_cases last : front = []
    · subst last
      exact joinWith_cons sep s more
    · rw [List.cons_append, joinWith_cons sep s (List.append_ne_nil_of_left_ne_nil last back),
        ih last, joinWith_cons sep s last]
      simp only [String.append_assoc]

/-- The separator apart, what stands in a joined text stands in one of its parts. -/
theorem mem_joinWith_iff (fresh : c ∉ sep.toList) (parts : List String) :
    c ∈ (joinWith sep parts).toList ↔ ∃ s ∈ parts, c ∈ s.toList := by
  induction parts with
  | nil => simp [joinWith]
  | cons s rest ih =>
    by_cases last : rest = []
    · subst last
      simp [joinWith]
    · rw [joinWith_cons sep s last]
      simp [String.toList_append, fresh, ih]

end Joining

/-! ## Lines -/

theorem splitOn_joinLines {parts : List String} (some : parts ≠ [])
    (oneLine : ∀ s ∈ parts, '\n' ∉ s.toList) :
    splitOn '\n' (joinLines parts).toList = parts.map String.toList := by
  induction parts with
  | nil => exact absurd rfl some
  | cons s rest ih =>
    obtain ⟨own, others⟩ := List.forall_mem_cons.mp oneLine
    cases rest with
    | nil => exact splitOn_eq_singleton own
    | cons next rest =>
      have joined : (joinLines (s :: next :: rest)).toList =
          s.toList ++ '\n' :: (joinLines (next :: rest)).toList := by
        simp [joinLines, joinWith, String.toList_append]
      rw [joined, splitOn_append own, ih (List.cons_ne_nil _ _) others]
      rfl

/-- What stands between the line breaks of a text. No line follows a line break at the end, so the
empty text has no line. -/
def lines (t : String) : List String :=
  let pieces := splitOn '\n' t.toList
  (if pieces.getLast? = some [] then pieces.dropLast else pieces).map String.ofList

theorem not_mem_of_mem_lines {t l : String} (member : l ∈ lines t) : '\n' ∉ l.toList := by
  obtain ⟨piece, cut, rfl⟩ := List.mem_map.mp member
  rw [String.toList_ofList]
  split at cut
  · exact not_mem_of_mem_splitOn ((List.dropLast_sublist _).subset cut)
  · exact not_mem_of_mem_splitOn cut

/-- Texts that are written one to a line are the lines of what is written, unless one of them has
a line break of its own. -/
theorem lines_joinLines_iff {parts : List String} (filled : ∀ s ∈ parts, s ≠ "") :
    lines (joinLines parts) = parts ↔ ∀ s ∈ parts, '\n' ∉ s.toList := by
  constructor
  · intro same s member
    exact not_mem_of_mem_lines (same ▸ member)
  · intro oneLine
    by_cases none : parts = []
    · subst none
      rfl
    · have last : parts.getLast? ≠ some "" := by
        intro empty
        exact filled "" (List.mem_of_getLast? empty) rfl
      simp [lines, splitOn_joinLines none oneLine, last]

/-! ## Settings -/

/-- A text that can stand alone on a line as it is. -/
structure IsSetting (s : String) : Prop where
  filled : s ≠ ""
  tight : trimmed s = s
  oneLine : '\n' ∉ s.toList

theorem isSetting_of_mem_items {t s : String} (member : s ∈ items t) : IsSetting s := by
  obtain ⟨piece, kept, rfl⟩ := List.mem_map.mp member
  obtain ⟨line, filled⟩ := List.mem_filter.mp kept
  obtain ⟨raw, cut, rfl⟩ := List.mem_map.mp line
  refine ⟨?_, ?_, ?_⟩
  · simpa [String.ofList_eq_empty_iff] using filled
  · rw [trimmed, String.toList_ofList, trim_trim]
  · rw [String.toList_ofList]
    exact fun inside => not_mem_of_mem_splitOn cut ((trim_sublist raw).subset inside)

theorem items_joinLines {settings : List String} (fit : ∀ s ∈ settings, IsSetting s) :
    items (joinLines settings) = settings := by
  by_cases none : settings = []
  · subst none
    rfl
  · have line (s : String) (member : s ∈ settings) : trim s.toList = s.toList := by
      rw [← toList_trimmed, (fit s member).tight]
    have trims : (settings.map String.toList).map trim = settings.map String.toList := by
      simpa using line
    have kept : (settings.map String.toList).filter (· ≠ []) = settings.map String.toList := by
      simpa using fun s member => (fit s member).filled
    rw [items, splitOn_joinLines none fun s member => (fit s member).oneLine, trims, kept,
      List.map_map]
    simp [Function.comp_def]

/-- The settings of a text do not change when they are written down and read again. -/
theorem items_joinLines_items (t : String) : items (joinLines (items t)) = items t :=
  items_joinLines fun _ => isSetting_of_mem_items

end MeshWatch.Text
