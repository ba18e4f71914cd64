import MeshWatch.Proofs.Text.Lines

/-!
# Settings of any text

A line may end at a line break or at a carriage return and a line break, and the last line need not
end at all. For settings it makes no difference, because they are trimmed and a carriage return is
blank. What is read off a text are settings, nothing but blank characters is lost, and settings
that are written down and read again are the same settings.
-/
namespace MeshWatch.Text

variable {s : List Char}

/-! ## Line endings -/

/-- A line without the carriage return that belongs to its end. -/
def withoutReturn (line : List Char) : List Char :=
  if line.getLast? = some '\r' then line.dropLast else line

/-- The lines among the pieces between line breaks. Only the last piece is not ended by a line
break: if nothing is in it, it is no line, and a carriage return at its end is its own. -/
def endedLines : List (List Char) → List (List Char)
  | [] => []
  | [last] => if last = [] then [] else [last]
  | line :: next :: rest => withoutReturn line :: endedLines (next :: rest)

theorem trim_withoutReturn (line : List Char) : trim (withoutReturn line) = trim line := by
  rw [withoutReturn]
  split
  · rename_i ended
    have whole : line = line.dropLast ++ ['\r'] :=
      (List.dropLast_append_getLast? '\r' ended).symm
    conv_rhs => rw [whole]
    exact (trim_append_of_blank (List.forall_mem_singleton.mpr rfl) _).symm
  · rfl

/-- The pieces that are filled are the same, however the lines end. -/
theorem filter_trim_endedLines (pieces : List (List Char)) :
    ((endedLines pieces).map trim).filter (· ≠ []) = (pieces.map trim).filter (· ≠ []) := by
  induction pieces using endedLines.induct with
  | case1 => rfl
  | case2 => rfl
  | case3 last filled => rw [endedLines, if_neg filled]
  | case4 line next rest ih =>
    rw [endedLines, List.map_cons, List.map_cons, trim_withoutReturn, List.filter_cons,
      List.filter_cons, ih]

/-! ## What is kept -/

/-- The characters of a text that are not blank, in their order. -/
def solid (s : List Char) : List Char := s.filter fun c => !isBlank c

theorem solid_append (s t : List Char) : solid (s ++ t) = solid s ++ solid t :=
  List.filter_append ..

theorem solid_of_blank (blank : ∀ c ∈ s, isBlank c) : solid s = [] :=
  List.filter_eq_nil_iff.mpr fun c member => by simp [blank c member]

theorem solid_trim (s : List Char) : solid (trim s) = solid s := by
  have front (u : List Char) : solid (trimStart u) = solid u := by
    conv_rhs => rw [← List.takeWhile_append_dropWhile (p := isBlank) (l := u), solid_append,
      solid_of_blank fun _ => List.mem_takeWhile_imp, List.nil_append]
    rfl
  have reverse (u : List Char) : solid u.reverse = (solid u).reverse := List.filter_reverse ..
  have back : solid (trimEnd (trimStart s)) = solid (trimStart s) := by
    rw [trimEnd, reverse, show solid (List.dropWhile isBlank _) = _ from front _, reverse,
      List.reverse_reverse]
  rw [trim, back, front]

theorem flatMap_solid_splitOn (s : List Char) :
    (splitOn '\n' s).flatMap solid = solid s := by
  induction s with
  | nil => rfl
  | cons c s ih =>
    rw [splitOn]
    split
    · rename_i lineBreak
      rw [List.flatMap_cons, ih, lineBreak]
      rfl
    · split
      · rename_i nothing
        rw [nothing] at ih
        rw [← List.singleton_append (x := c) (l := s), solid_append, ← ih]
        simp
      · rename_i piece pieces split
        rw [split, List.flatMap_cons] at ih
        rw [List.flatMap_cons, ← List.singleton_append (x := c) (l := piece), solid_append,
          ← List.singleton_append (x := c) (l := s), solid_append, ← ih, List.append_assoc]

theorem solid_joinLines (parts : List String) :
    solid (joinLines parts).toList = parts.flatMap fun part => solid part.toList := by
  induction parts with
  | nil => rfl
  | cons part rest ih =>
    cases rest with
    | nil => simp [joinLines, joinWith]
    | cons next rest =>
      have written : (joinLines (part :: next :: rest)).toList =
          part.toList ++ (['\n'] ++ (joinLines (next :: rest)).toList) := by
        simp [joinLines, joinWith, String.toList_append]
      rw [written, solid_append, solid_append, ih]
      rfl

/-- No character is lost that is not blank. -/
theorem solid_joinLines_items (t : String) : solid (joinLines (items t)).toList = solid t.toList := by
  have filled (lines : List (List Char)) :
      (lines.filter (· ≠ [])).flatMap solid = lines.flatMap solid := by
    induction lines with
    | nil => rfl
    | cons line rest ih =>
      by_cases empty : line = []
      · rw [List.filter_cons_of_neg (by simpa using empty), ih, empty]
        rfl
      · rw [List.filter_cons_of_pos (by simpa using empty), List.flatMap_cons, ih,
          List.flatMap_cons]
  rw [solid_joinLines, items, List.flatMap_map]
  simp only [String.toList_ofList]
  rw [filled, List.flatMap_map]
  simp only [solid_trim]
  exact flatMap_solid_splitOn t.toList

/-! ## Settings -/

/-- The settings of a text are its lines, wherever they end, trimmed and without the blank ones.
Each can stand alone on a line as it is, every character that is not blank stands in one of them,
in the order of the text, and written down and read again they are the same. -/
theorem items_normalised (t : String) :
    items t = (((endedLines (splitOn '\n' t.toList)).map trim).filter (· ≠ [])).map String.ofList ∧
    (∀ s ∈ items t, IsSetting s) ∧
    solid (joinLines (items t)).toList = solid t.toList ∧
    items (joinLines (items t)) = items t := by
  refine ⟨?_, fun _ => isSetting_of_mem_items, solid_joinLines_items t, items_joinLines_items t⟩
  rw [filter_trim_endedLines, items]

/-- Both line endings, a carriage return inside a line and one at the end of the text, blank lines
and blank characters beyond ASCII. -/
theorem items_normalised_mixed :
    "b\rc" ∈ items "a\r\n\u00a0 b\rc\u2003\r\r\n\n\u0085\u3000\nd\r" ∧ IsSetting "b\rc" ∧
      items (joinLines ["a", "b\rc", "d"]) = ["a", "b\rc", "d"] := by
  have settings : items "a\r\n\u00a0 b\rc\u2003\r\r\n\n\u0085\u3000\nd\r" = ["a", "b\rc", "d"] := by
    decide
  have normalised := items_normalised "a\r\n\u00a0 b\rc\u2003\r\r\n\n\u0085\u3000\nd\r"
  rw [settings] at normalised
  obtain ⟨-, each, -, again⟩ := normalised
  exact ⟨by decide, each "b\rc" (by decide), again⟩

end MeshWatch.Text
