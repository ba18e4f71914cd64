import MeshWatch.Proofs.Disk.Files

/-!
# Which directories are made

Making the directories of a path adds exactly those that are missing on the way before it stops,
and everything that is there stays as it is. Which ones are missing is read off the disk as it
was, also for a way that comes back to a directory it has just made.
-/
namespace MeshWatch.Disk

variable {d d₁ d₂ : Disk} {new other : List Location} {p q : Location} {path : Path}

/-- The directories that are missing on the way from a directory on. The way stops at a file and
at a name that is too long. -/
def missingAlong (d : Disk) (p : Location) : List String → List Location
  | [] => []
  | name :: rest =>
    let next := p.enter name
    if Path.nameLimit < name.utf8ByteSize then []
    else
      match d.itemAt? next with
      | some .directory => d.missingAlong next rest
      | some (.file _) => []
      | none => next :: d.missingAlong next rest

/-- The directories that are missing on the way to a path, the last one included. -/
def missing (d : Disk) (path : Path) : List Location :=
  if path.isAdmissible then
    d.missingAlong path.start (if path.endsAtPoint then path.steps.dropLast else path.steps)
  else []

/-- The second disk is the first one with directories where nothing was. -/
structure Gains (d : Disk) (new : List Location) (d₁ : Disk) : Prop where
  free : ∀ q ∈ new, d.itemAt? q = none
  items : ∀ q, d₁.itemAt? q = if q ∈ new then some .directory else d.itemAt? q

namespace Gains

theorem refl (d : Disk) : d.Gains [] d := ⟨by simp, by simp⟩

theorem congr (gains : d.Gains new d₁) (same : ∀ q, q ∈ new ↔ q ∈ other) : d.Gains other d₁ :=
  ⟨fun q member => gains.free q ((same q).mpr member), fun q => by
    simp only [gains.items, same]⟩

/-- What was there is still there. -/
theorem keeps {i : Item} (gains : d.Gains new d₁) (was : d.itemAt? q = some i) :
    d₁.itemAt? q = some i := by
  have old : q ∉ new := fun member => by simp [gains.free q member] at was
  rw [gains.items, if_neg old, was]

theorem unchanged_iff (gains : d.Gains new d₁) :
    (∀ q, d₁.itemAt? q = d.itemAt? q) ↔ new = [] := by
  constructor
  · intro same
    refine List.eq_nil_iff_forall_not_mem.mpr fun q member => ?_
    have there : d₁.itemAt? q = some .directory := by rw [gains.items, if_pos member]
    rw [same, gains.free q member] at there
    cases there
  · rintro rfl q
    simp [gains.items]

/-- One directory more. It may be one of the new ones. -/
theorem set_directory (gains : d.Gains new d₁) (absent : d.itemAt? p = none) :
    d.Gains (new ++ [p]) (d₁.set p .directory) where
  free := by
    intro q member
    rcases List.mem_append.mp member with before | now
    · exact gains.free q before
    · rwa [List.mem_singleton.mp now]
  items := by
    intro q
    by_cases here : q = p
    · subst here
      have given : q.isGiven = false := Disk.isGiven_eq_false (by rw [absent]; simp)
      simp [itemAt?_set_self given]
    · simp [itemAt?_set_of_ne here, gains.items, here]

theorem makeAlong (gains : d.Gains new d₁) (p : Location) (names : List String) :
    d.Gains (new ++ d.missingAlong p names) (d₁.makeAlong p names).1 := by
  induction names generalizing p new d₁ with
  | nil => simpa [missingAlong, Disk.makeAlong] using gains
  | cons name rest ih =>
    rw [missingAlong, Disk.makeAlong]
    by_cases long : Path.nameLimit < name.utf8ByteSize
    · simpa [long] using gains
    simp only [long, if_false]
    cases was : d.itemAt? (p.enter name) with
    | some i =>
      rw [gains.keeps was]
      cases i with
      | directory => exact ih gains (p.enter name)
      | file c => simpa using gains
    | none =>
      by_cases member : p.enter name ∈ new
      · -- The way has come back to a directory that it has made.
        have made : d₁.itemAt? (p.enter name) = some .directory := by
          rw [gains.items, if_pos member]
        rw [made]
        exact (ih gains (p.enter name)).congr fun q => by grind
      · have absent : d₁.itemAt? (p.enter name) = none := by
          rw [gains.items, if_neg member, was]
        rw [absent]
        exact (ih (gains.set_directory was) (p.enter name)).congr fun q => by simp

theorem makeDirectory (gains : d.Gains new d₁) (path : Path) :
    d.Gains (new ++ d.missing path) (d₁.makeDirectory path).1 := by
  by_cases admissible : path.isAdmissible
  · by_cases point : path.endsAtPoint
    · simpa [Disk.makeDirectory, missing, admissible, point] using gains.makeAlong _ _
    · simpa [Disk.makeDirectory, missing, admissible, point] using gains.makeAlong _ _
  · simpa [Disk.makeDirectory, missing, admissible] using gains

end Gains

/-! ### The file at the end of a way -/

/-- A file that is written is at a location of its own, and every other one is as it was. -/
theorem write_cases {c : Contents} (written : d.write path c = some d₁) :
    ∃ target, d₁.location? path = some target ∧ d.location? path = some target ∧
      d.itemAt? target ≠ some .directory ∧
      ∀ q, d₁.itemAt? q = if q = target then some (.file c) else d.itemAt? q := by
  obtain ⟨target, leads, put⟩ := Option.bind_eq_some_iff.mp written
  split at put
  · cases put
  rename_i free
  obtain rfl := Option.some.inj put
  refine ⟨target, ?_, leads, free, fun q => ?_⟩
  · rw [← leads, location?, location?, follow?_set_file free]
  · by_cases here : q = target
    · subst here
      rw [itemAt?_set_self (isGiven_eq_false free), if_pos rfl]
    · rw [itemAt?_set_of_ne here, if_neg here]

/-- A file that is made sure of keeps what it holds. -/
theorem touch_cases (touched : d.touch path = some d₁) :
    ∃ target, d₁.location? path = some target ∧ d.itemAt? target ≠ some .directory ∧
      ∀ q, d₁.itemAt? q =
        if q = target then some ((d.itemAt? target).getD (.file (.text ""))) else d.itemAt? q := by
  rw [touch] at touched
  split at touched
  · rename_i c found
    obtain rfl := Option.some.inj touched
    obtain ⟨target, leads, there⟩ := Option.bind_eq_some_iff.mp found
    refine ⟨target, leads, by simp [there], fun q => ?_⟩
    split
    · rename_i here
      simp [here, there]
    · rfl
  · rename_i noFile
    obtain ⟨target, leadsThen, leads, free, items⟩ := write_cases touched
    have absent : d.itemAt? target = none := by
      cases found : d.itemAt? target with
      | none => rfl
      | some i =>
        cases i with
        | directory => exact absurd found free
        | file c => exact absurd (by rw [item?, leads, Option.bind_some, found]) (noFile c)
    exact ⟨target, leadsThen, free, fun q => by rw [items, absent, Option.getD_none]⟩

end MeshWatch.Disk
