/-!
# Places in bytes

Cutting a text at places counted in the bytes of UTF-8. A place inside a character is no place
to cut.
-/
namespace MeshWatch.Text

/-- How many bytes a text takes. -/
def byteCount : List Char → Nat
  | [] => 0
  | c :: rest => c.utf8Size + byteCount rest

/-- The first `n` bytes of a text, and the rest. -/
def cutBytes (n : Nat) : List Char → Option (List Char × List Char)
  | [] => if n = 0 then some ([], []) else none
  | c :: rest =>
    if n = 0 then some ([], c :: rest)
    else if n < c.utf8Size then none
    else (cutBytes (n - c.utf8Size) rest).map fun (before, after) => (c :: before, after)

theorem cutBytes_byteCount (s t : List Char) : cutBytes (byteCount s) (s ++ t) = some (s, t) := by
  induction s with
  | nil => cases t <;> simp [byteCount, cutBytes]
  | cons c rest ih =>
    have positive := c.utf8Size_pos
    have whole : ¬ c.utf8Size + byteCount rest < c.utf8Size := by omega
    simp [byteCount, cutBytes, ih, whole, Nat.ne_of_gt positive]

theorem byteCount_append (s t : List Char) : byteCount (s ++ t) = byteCount s + byteCount t := by
  induction s with
  | nil => rw [List.nil_append, byteCount, Nat.zero_add]
  | cons c s ih => rw [List.cons_append, byteCount, byteCount, ih, Nat.add_assoc]

/-- A text is cut behind a front that takes as many bytes as are asked for. -/
theorem cutBytes_eq_some_iff {n : Nat} {s front back : List Char} :
    cutBytes n s = some (front, back) ↔ s = front ++ back ∧ byteCount front = n := by
  constructor
  · intro cut
    induction s generalizing n front with
    | nil =>
      rw [cutBytes] at cut
      split at cut
      · rename_i zero
        cases cut
        exact ⟨rfl, zero.symm⟩
      · cases cut
    | cons c s ih =>
      rw [cutBytes] at cut
      split at cut
      · rename_i zero
        cases cut
        exact ⟨rfl, zero.symm⟩
      · split at cut
        · cases cut
        · rename_i fits
          obtain ⟨⟨before, after⟩, rest, same⟩ := Option.map_eq_some_iff.mp cut
          cases same
          obtain ⟨whole, count⟩ := ih rest
          rw [whole, byteCount, count]
          exact ⟨rfl, by omega⟩
  · rintro ⟨rfl, rfl⟩
    exact cutBytes_byteCount front back

/-- What lies between two places of a text. -/
def betweenBytes? (start stop : Nat) (s : List Char) : Option (List Char) :=
  (cutBytes stop s).bind fun (front, _) => (cutBytes start front).map (·.2)

end MeshWatch.Text
