import MeshWatch.Proofs.Data.Arrangement

/-!
# How deep a tree is nested

The room that is left for lists and records decides whether a tree has a value, and not which
value that is.
-/
namespace MeshWatch.Data

mutual

/-- How many lists and records of a tree lie inside each other, at most. -/
def nesting : Data → Nat
  | .list items => itemsNesting items + 1
  | .record members => membersNesting members + 1
  | _ => 0

def itemsNesting : List Data → Nat
  | [] => 0
  | item :: rest => max (nesting item) (itemsNesting rest)

def membersNesting : List (String × Data) → Nat
  | [] => 0
  | (_, value) :: rest => max (nesting value) (membersNesting rest)

end

mutual

/-- A tree that is nested no deeper has the same value, however much room is left. -/
theorem value?_eq_of_nesting_le {room room' : Nat} : ∀ {d : Data},
    d.nesting ≤ room → d.nesting ≤ room' → value? room d = value? room' d
  | .list items, fits, fits' => by
    rw [nesting] at fits fits'
    obtain ⟨k, rfl⟩ := Nat.exists_eq_add_of_le' fits
    obtain ⟨k', rfl⟩ := Nat.exists_eq_add_of_le' fits'
    have inner : values? (k + itemsNesting items) items = values? (k' + itemsNesting items) items :=
      values?_eq_of_nesting_le (Nat.le_add_left ..) (Nat.le_add_left ..)
    rw [← Nat.add_assoc, ← Nat.add_assoc, value?, value?, inner]
  | .record members, fits, fits' => by
    rw [nesting] at fits fits'
    obtain ⟨k, rfl⟩ := Nat.exists_eq_add_of_le' fits
    obtain ⟨k', rfl⟩ := Nat.exists_eq_add_of_le' fits'
    have inner : memberValues? (k + membersNesting members) members =
        memberValues? (k' + membersNesting members) members :=
      memberValues?_eq_of_nesting_le (Nat.le_add_left ..) (Nat.le_add_left ..)
    rw [← Nat.add_assoc, ← Nat.add_assoc, value?, value?, inner]
  | .null, _, _ | .bool _, _, _ | .int _, _, _ | .double _, _, _ | .text _, _, _
  | .unreadable, _, _ => by simp only [value?]

theorem values?_eq_of_nesting_le {room room' : Nat} : ∀ {items : List Data},
    itemsNesting items ≤ room → itemsNesting items ≤ room' →
    values? room items = values? room' items
  | [], _, _ => rfl
  | item :: rest, fits, fits' => by
    rw [itemsNesting, Nat.max_le] at fits fits'
    rw [values?, values?, value?_eq_of_nesting_le fits.1 fits'.1,
      values?_eq_of_nesting_le fits.2 fits'.2]

theorem memberValues?_eq_of_nesting_le {room room' : Nat} : ∀ {members : List (String × Data)},
    membersNesting members ≤ room → membersNesting members ≤ room' →
    memberValues? room members = memberValues? room' members
  | [], _, _ => rfl
  | (name, value) :: rest, fits, fits' => by
    rw [membersNesting, Nat.max_le] at fits fits'
    rw [memberValues?, memberValues?, value?_eq_of_nesting_le fits.1 fits'.1,
      memberValues?_eq_of_nesting_le fits.2 fits'.2]

end

end MeshWatch.Data
