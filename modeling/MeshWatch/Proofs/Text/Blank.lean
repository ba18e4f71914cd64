import Mathlib.Data.List.DropRight
import MeshWatch.Text.Blank

/-!
# Trimming

A trimmed text has no blank character at either end, so trimming it again changes nothing. A text
is blank when nothing is left of it.
-/
namespace MeshWatch.Text

/-! ## Characters -/

section Characters

variable {s : List Char}

theorem trimStart_trimEnd_trimStart (s : List Char) :
    trimStart (trimEnd (trimStart s)) = trimEnd (trimStart s) := by
  refine List.dropWhile_eq_self_iff.mpr ?_
  intro positive
  have front : trimEnd (trimStart s) <+: trimStart s := List.rdropWhile_prefix isBlank _
  have same := List.dropWhile_eq_self_iff.mp (List.dropWhile_idempotent isBlank s)
  rw [front.getElem positive]
  exact same (Nat.lt_of_lt_of_le positive front.length_le)

theorem trim_trim (s : List Char) : trim (trim s) = trim s := by
  rw [trim, trim, trimStart_trimEnd_trimStart]
  exact List.rdropWhile_idempotent isBlank (trimStart s)

theorem isBlank_head_trim {c : Char} {rest : List Char} (h : trim s = c :: rest) :
    isBlank c = false := by
  have start : trimStart (c :: rest) = c :: rest := by
    rw [← h, trim, trimStart_trimEnd_trimStart]
  simpa using List.dropWhile_eq_self_iff.mp start (Nat.zero_lt_succ _)

theorem trim_sublist (s : List Char) : (trim s).Sublist s :=
  (List.rdropWhile_prefix isBlank _).sublist.trans (List.dropWhile_suffix isBlank).sublist

theorem trim_eq_nil_iff : trim s = [] ↔ ∀ c ∈ s, isBlank c := by
  rw [trim, show trimEnd (trimStart s) = List.rdropWhile isBlank (trimStart s) from rfl,
    List.rdropWhile_eq_nil_iff]
  constructor
  · intro rest c member
    rw [← List.takeWhile_append_dropWhile (p := isBlank) (l := s)] at member
    rcases List.mem_append.mp member with front | back
    · exact List.mem_takeWhile_imp front
    · exact rest c back
  · intro all c member
    exact all c ((List.dropWhile_suffix isBlank).subset member)

theorem trimEnd_isPrefix (s : List Char) : trimEnd s <+: s := List.rdropWhile_prefix isBlank s

/-- What is cut off at the end goes on into the front only if nothing is left of the back. -/
theorem trimEnd_append (a b : List Char) :
    trimEnd (a ++ b) = if trimEnd b = [] then trimEnd a else a ++ trimEnd b := by
  rw [trimEnd, List.reverse_append, List.dropWhile_append, trimEnd, trimEnd]
  split
  · rename_i nothing
    rw [if_pos (by simpa using nothing)]
  · rename_i something
    rw [if_neg (by simpa using something), List.reverse_append, List.reverse_reverse]

theorem trimEnd_append_of_blank {b : List Char} (blank : ∀ c ∈ b, isBlank c) (a : List Char) :
    trimEnd (a ++ b) = trimEnd a := by
  have nothing : trimEnd b = [] := List.rdropWhile_eq_nil_iff.mpr blank
  rw [trimEnd_append, if_pos nothing]

theorem trim_append_of_blank {b : List Char} (blank : ∀ c ∈ b, isBlank c) (s : List Char) :
    trim (s ++ b) = trim s := by
  have nothing : b.dropWhile isBlank = [] := List.dropWhile_eq_nil_iff.mpr blank
  rw [trim, trimStart, List.dropWhile_append]
  split
  · rename_i front
    rw [trim, trimStart, nothing, List.isEmpty_iff.mp front]
  · rw [trimEnd_append_of_blank blank, trim, trimStart]

theorem mem_trimEnd_append_iff {c : Char} {a : List Char} (fresh : c ∉ a) (b : List Char) :
    c ∈ trimEnd (a ++ b) ↔ c ∈ trimEnd b := by
  rw [trimEnd_append]
  split
  · rename_i nothing
    have fresh' : c ∉ trimEnd a := fun inside => fresh ((trimEnd_isPrefix a).subset inside)
    simp [nothing, fresh']
  · simp [fresh]

theorem trimEnd_append_cons {c : Char} (solid : isBlank c = false) (a b : List Char) :
    trimEnd (a ++ c :: b) = a ++ c :: trimEnd b := by
  have kept : trimEnd (c :: b) = c :: trimEnd b := by
    rw [← List.singleton_append, trimEnd_append]
    split
    · rename_i nothing
      rw [nothing]
      simp [trimEnd, solid]
    · rfl
  rw [trimEnd_append, kept, if_neg (List.cons_ne_nil _ _)]

/-- A text without blank characters is its own trim. -/
theorem trim_eq_self (h : ∀ c ∈ s, isBlank c = false) : trim s = s := by
  have start : trimStart s = s := by
    refine List.dropWhile_eq_self_iff.mpr ?_
    intro positive
    simp [h _ (List.getElem_mem positive)]
  rw [trim, start]
  refine List.rdropWhile_eq_self_iff.mpr ?_
  intro filled
  simp [h _ (List.getLast_mem filled)]

/-- Only blank characters are lost. -/
theorem mem_trim {c : Char} (filled : isBlank c = false) (member : c ∈ s) : c ∈ trim s := by
  have kept {u : List Char} (inside : c ∈ u) : c ∈ u.dropWhile isBlank := by
    rw [← List.takeWhile_append_dropWhile (p := isBlank) (l := u)] at inside
    rcases List.mem_append.mp inside with front | back
    · have blank := List.mem_takeWhile_imp front
      rw [filled] at blank
      cases blank
    · exact back
  exact List.mem_reverse.mpr (kept (List.mem_reverse.mpr (kept member)))

end Characters

/-! ## Texts -/

section Texts

variable {s : String}

theorem toList_trimmed (s : String) : (trimmed s).toList = trim s.toList := String.toList_ofList

theorem trimmed_trimmed (s : String) : trimmed (trimmed s) = trimmed s := by
  rw [trimmed, toList_trimmed, trim_trim, trimmed]

theorem trimmed_eq_empty_iff : trimmed s = "" ↔ allBlank s := by
  rw [trimmed, String.ofList_eq_empty_iff, trim_eq_nil_iff, allBlank, List.all_eq_true]

theorem allBlank_trimmed (s : String) : allBlank (trimmed s) = allBlank s := by
  rw [Bool.eq_iff_iff, ← trimmed_eq_empty_iff, trimmed_trimmed, trimmed_eq_empty_iff]

theorem nonBlank_eq (s : String) :
    nonBlank s = if allBlank s then none else some (trimmed s) := by
  rw [nonBlank]
  simp only [trimmed_eq_empty_iff]

theorem nonBlank_trimmed (s : String) : nonBlank (trimmed s) = nonBlank s := by
  rw [nonBlank_eq, nonBlank_eq, allBlank_trimmed, trimmed_trimmed]

theorem getD_nonBlank (s : String) : (nonBlank s).getD "" = trimmed s := by
  rw [nonBlank]
  split
  · rename_i empty
    rw [empty, Option.getD_none]
  · rw [Option.getD_some]

end Texts

end MeshWatch.Text
