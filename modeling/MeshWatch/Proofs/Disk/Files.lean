import MeshWatch.Disk

/-!
# Files are read as they were written

Writing a file changes what is at its own location and nothing else. There was no directory at
that location, so every path leads where it led before.
-/
namespace MeshWatch.Disk

variable {d d' : Disk} {p q : Location} {i : Item}

theorem isGiven_eq_false (free : d.itemAt? p ≠ some .directory) : p.isGiven = false := by
  cases given : p.isGiven with
  | false => rfl
  | true => exact absurd (by rw [itemAt?, if_pos given]) free

theorem itemAt?_set_self (free : p.isGiven = false) : (d.set p i).itemAt? p = some i := by
  simp [itemAt?, set, free]

theorem lookup_filter_ne (items : List (Location × Item)) (other : q ≠ p) :
    (items.filter fun (r, _) => r ≠ p).lookup q = items.lookup q := by
  induction items with
  | nil => rfl
  | cons item items ih =>
    obtain ⟨r, i⟩ := item
    by_cases here : r = p
    · subst here
      have elsewhere : (q == r) = false := by simpa using other
      rw [List.filter_cons_of_neg (by simp), ih, List.lookup_cons, elsewhere]
    · rw [List.filter_cons_of_pos (by simpa using here), List.lookup_cons, List.lookup_cons, ih]

theorem itemAt?_set_of_ne (other : q ≠ p) : (d.set p i).itemAt? q = d.itemAt? q := by
  have elsewhere : (q == p) = false := by simpa using other
  rw [itemAt?, itemAt?, set, List.lookup_cons, elsewhere]
  exact congrArg (fun found => if q.isGiven then some .directory else found)
    (lookup_filter_ne d.items other)

/-- A path leads to the same location when a file is put where there is no directory. -/
theorem follow?_set_file {c : Contents} (free : d.itemAt? p ≠ some .directory) (start : Location)
    (names : List String) : (d.set p (.file c)).follow? start names = d.follow? start names := by
  induction names generalizing start with
  | nil => rfl
  | cons name names ih =>
    rw [follow?, follow?, ih]
    by_cases here : start = p
    · subst here
      simp [itemAt?_set_self (isGiven_eq_false free), free]
    · rw [itemAt?_set_of_ne here]

theorem readText?_write {path : Path} {s : String} (written : d.write path (.text s) = some d') :
    d'.readText? path = some s := by
  obtain ⟨location, leads, put⟩ := Option.bind_eq_some_iff.mp written
  split at put
  · cases put
  · rename_i free
    obtain rfl := Option.some.inj put
    have same : (d.set location (.file (.text s))).location? path = some location := by
      rw [← leads, location?, location?, follow?_set_file free]
    simp [readText?, read?, item?, same, itemAt?_set_self (isGiven_eq_false free),
      Contents.text?]

end MeshWatch.Disk
