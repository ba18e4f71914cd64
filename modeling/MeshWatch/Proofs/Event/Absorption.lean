import Mathlib.Data.List.Infix
import MeshWatch.Event.History

/-!
# What a history takes over from a batch

There are four ways in which a batch is absorbed. They are listed once; that a history only grows,
by as many records as are reported, and ends like the last batch that was not empty, is read off
the list.
-/
namespace MeshWatch.History

variable {h : History} {batch : List RawRecord} {raw : RawRecord}

theorem afterLast?_eq_none : afterLast? raw batch = none ↔ raw ∉ batch := by
  induction batch with
  | nil => simp [afterLast?]
  | cons r rest ih =>
    rw [afterLast?]
    cases found : afterLast? raw rest with
    | none =>
      have absent : raw ∉ rest := ih.mp found
      by_cases same : r = raw
      · simp [same]
      · simp [same, absent, Ne.symm same]
    | some after =>
      have present : raw ∈ rest := by
        by_contra absent
        rw [ih.mpr absent] at found
        cases found
      simp [present]

/-- What follows the last occurrence follows some occurrence and holds no other. -/
theorem afterLast?_eq_some {after : List RawRecord} (found : afterLast? raw batch = some after) :
    ∃ before, batch = before ++ raw :: after ∧ raw ∉ after := by
  induction batch with
  | nil => cases found
  | cons r rest ih =>
    rw [afterLast?] at found
    cases later : afterLast? raw rest with
    | some after' =>
      rw [later] at found
      obtain rfl := Option.some.inj found
      obtain ⟨before, rfl, absent⟩ := ih later
      exact ⟨r :: before, rfl, absent⟩
    | none =>
      rw [later] at found
      dsimp only at found
      split at found
      · rename_i same
        obtain rfl := Option.some.inj found
        exact ⟨[], by rw [same, List.nil_append], afterLast?_eq_none.mp later⟩
      · cases found

/-- The ways in which a batch is taken: what is reported, and the records that are appended. -/
inductive Takes (h : History) : List RawRecord → Absorption × List RawRecord → Prop
  | empty : Takes h [] (.nothing, [])
  | seed {batch : List RawRecord} (vacant : h.last? = none) (some_record : batch ≠ []) :
      Takes h batch (.new batch.length, batch)
  /-- The batch ends with the history's last record. -/
  | same {before : List RawRecord} {last : RawRecord} (tail : h.last? = some last) :
      Takes h (before ++ [last]) (.nothing, [])
  | follow {before after : List RawRecord} {last : RawRecord} (tail : h.last? = some last)
      (latest : last ∉ after) (some_record : after ≠ []) :
      Takes h (before ++ last :: after) (.new after.length, after)
  | wrap {batch : List RawRecord} {last : RawRecord} (tail : h.last? = some last)
      (left : last ∉ batch) (some_record : batch ≠ []) :
      Takes h batch (.gap batch.length, batch)

theorem takes_fresh (h : History) (batch : List RawRecord) : h.Takes batch (h.fresh batch) := by
  by_cases some_record : batch = []
  · subst some_record
    exact .empty
  · rw [fresh, if_neg some_record]
    cases tail : h.last? with
    | none => exact .seed tail some_record
    | some last =>
      dsimp only
      cases found : afterLast? last batch with
      | none => exact .wrap tail (afterLast?_eq_none.mp found) some_record
      | some after =>
        obtain ⟨before, rfl, latest⟩ := afterLast?_eq_some found
        cases after with
        | nil => exact .same tail
        | cons r rest => exact .follow tail latest (List.cons_ne_nil r rest)

/-! ## Growth -/

@[simp]
theorem absorb_fst : (h.absorb batch).1 = (h.fresh batch).1 := rfl

@[simp]
theorem absorb_records : (h.absorb batch).2.records = h.records ++ (h.fresh batch).2 := rfl

theorem prefix_absorb (h : History) (batch : List RawRecord) :
    h.records <+: (h.absorb batch).2.records :=
  List.prefix_append _ _

theorem Takes.appended {fresh : Absorption × List RawRecord} (taken : h.Takes batch fresh) :
    fresh.1.appended = fresh.2.length := by
  cases taken <;> rfl

/-- A history grows by as many records as are reported. -/
theorem length_absorb (h : History) (batch : List RawRecord) :
    (h.absorb batch).2.length = h.length + (h.absorb batch).1.appended := by
  rw [absorb_fst, (h.takes_fresh batch).appended]
  exact List.length_append

theorem last?_append (h : History) {records : List RawRecord} (some_record : records ≠ []) :
    History.last? ⟨h.records ++ records⟩ = records.getLast? :=
  List.getLast?_append_of_ne_nil _ some_record

theorem Takes.last? {fresh : Absorption × List RawRecord} (taken : h.Takes batch fresh)
    (some_record : batch ≠ []) : History.last? ⟨h.records ++ fresh.2⟩ = batch.getLast? := by
  cases taken with
  | empty => exact absurd rfl some_record
  | seed => exact h.last?_append some_record
  | same tail => simpa [History.last?] using tail
  | @follow before after last _ _ more =>
    rw [List.getLast?_append_of_ne_nil before (List.cons_ne_nil last after)]
    exact (h.last?_append more).trans (List.getLast?_cons_of_ne_nil more).symm
  | wrap => exact h.last?_append some_record

/-- After a batch with a record in it, the history ends with the last record of the batch. -/
theorem last?_absorb (h : History) (some_record : batch ≠ []) :
    (h.absorb batch).2.last? = batch.getLast? :=
  (h.takes_fresh batch).last? some_record

end MeshWatch.History
