import MeshWatch.Proofs.Topology.Table

/-!
# Calls on tables

A table is asked by calls that come in any order: a row is put in, or something is looked up. A
list with one row for each id can be asked the same, by searching it from the front, and so can a
map from ids to rows, which has no order. All three give the same answers, whatever the calls are.
The index of a table leads to the row of each id that was put in, and to nothing else.
-/
namespace MeshWatch.Table

variable {α : Type} {id : α → UInt64}

/-! ## Calls and answers -/

inductive Call (α : Type)
  | insert (row : α)
  | get (key : UInt64)
  | contains (key : UInt64)
  | size
  | isEmpty

inductive Answer (α : Type)
  | flag (yes : Bool)
  | row (found : Option α)
  | number (n : Nat)

/-- The rows that calls put in, those that are refused included. -/
def inserted : List (Call α) → List α
  | [] => []
  | .insert row :: calls => row :: inserted calls
  | _ :: calls => inserted calls

/-- The answer of a table to a call, and the table after it. -/
def answer (t : Table α id) : Call α → Answer α × Table α id
  | .insert row => (.flag (t.insert row).1, (t.insert row).2)
  | .get key => (.row (t.get? key), t)
  | .contains key => (.flag (t.contains key), t)
  | .size => (.number t.size, t)
  | .isEmpty => (.flag t.isEmpty, t)

/-- The answer of a list of rows to a call, and the list after it. A row goes to the end of the
list, unless there is one of its id. -/
def listAnswer (id : α → UInt64) (rows : List α) : Call α → Answer α × List α
  | .insert row =>
    if id row ∈ rows.map id then (.flag false, rows) else (.flag true, rows ++ [row])
  | .get key => (.row (rows.find? (id · = key)), rows)
  | .contains key => (.flag (key ∈ rows.map id), rows)
  | .size => (.number rows.length, rows)
  | .isEmpty => (.flag rows.isEmpty, rows)

/-- The answer of a map from ids to rows to a call, and the map after it. -/
def mapAnswer (id : α → UInt64) (m : Std.HashMap UInt64 α) :
    Call α → Answer α × Std.HashMap UInt64 α
  | .insert row =>
    if m.contains (id row) then (.flag false, m) else (.flag true, m.insert (id row) row)
  | .get key => (.row m[key]?, m)
  | .contains key => (.flag (m.contains key), m)
  | .size => (.number m.size, m)
  | .isEmpty => (.flag m.isEmpty, m)

/-- The answers to calls that are made one after the other, and the state after the last. -/
def run {σ : Type} (ask : σ → Call α → Answer α × σ) (s : σ) : List (Call α) → List (Answer α) × σ
  | [] => ([], s)
  | call :: calls =>
    ((ask s call).1 :: (run ask (ask s call).2 calls).1, (run ask (ask s call).2 calls).2)

/-- The table after some calls, the first of which finds it empty. -/
def after (id : α → UInt64) (calls : List (Call α)) : Table α id := (run answer empty calls).2

/-! ## One call -/

/-- A table that stands for a list of rows. -/
structure Represents (t : Table α id) (rows : List α) : Prop where
  indexed : t.Indexed
  listed : t.toList = rows

theorem Represents.insert_eq {t : Table α id} {rows : List α} (h : t.Represents rows) (row : α) :
    t.insert row = if id row ∈ rows.map id then (false, t)
      else (true, ⟨t.rows.push row, t.index.insert (id row) t.rows.size⟩) := by
  have known : t.contains (id row) = true ↔ id row ∈ rows.map id :=
    h.listed ▸ h.indexed.contains_iff (id row)
  rw [Table.insert]
  simp only [known]

theorem Represents.answer {t : Table α id} {rows : List α} (h : t.Represents rows) (call : Call α) :
    (t.answer call).1 = (listAnswer id rows call).1 ∧
      (t.answer call).2.Represents (listAnswer id rows call).2 := by
  have listed := h.listed
  cases call with
  | insert row =>
    have next : (t.insert row).2.Represents (listAnswer id rows (.insert row)).2 := by
      refine ⟨h.indexed.insert row, ?_⟩
      rw [h.indexed.toList_insert, listed, listAnswer]
      split <;> rfl
    refine ⟨?_, next⟩
    rw [Table.answer, h.insert_eq, listAnswer]
    split <;> rfl
  | get key =>
    refine ⟨?_, h⟩
    rw [Table.answer, listAnswer, h.indexed.get?_eq, listed]
  | contains key =>
    refine ⟨congrArg Answer.flag (Bool.eq_iff_iff.mpr ?_), h⟩
    rw [h.indexed.contains_iff, listed, decide_eq_true_iff]
  | size => exact ⟨congrArg (Answer.number ∘ List.length) listed, h⟩
  | isEmpty =>
    refine ⟨congrArg Answer.flag ?_, h⟩
    rw [← listed, toList, Array.isEmpty_toList, isEmpty]

/-- A map that stands for a list of rows. -/
structure Maps (id : α → UInt64) (m : Std.HashMap UInt64 α) (rows : List α) : Prop where
  found : ∀ key, m[key]? = rows.find? (id · = key)
  size : m.size = rows.length

theorem Maps.contains_iff {m : Std.HashMap UInt64 α} {rows : List α} (h : Maps id m rows)
    (key : UInt64) : m.contains key ↔ key ∈ rows.map id := by
  rw [Std.HashMap.contains_eq_isSome_getElem?, h.found key]
  simp

theorem Maps.insert {m : Std.HashMap UInt64 α} {rows : List α} (h : Maps id m rows) {row : α}
    (fresh : id row ∉ rows.map id) : Maps id (m.insert (id row) row) (rows ++ [row]) := by
  have unknown : id row ∉ m := fun known =>
    fresh ((h.contains_iff _).mp (Std.HashMap.contains_iff_mem.mpr known))
  refine ⟨?_, ?_⟩
  · intro key
    rw [Std.HashMap.getElem?_insert, h.found key, List.find?_append]
    by_cases here : id row = key
    · have unseen : rows.find? (id · = key) = none := by simpa [here] using fresh
      simp [here, unseen]
    · simp [here]
  · rw [Std.HashMap.size_insert, if_neg unknown, h.size, List.length_append, List.length_singleton]

theorem Maps.answer {m : Std.HashMap UInt64 α} {rows : List α} (h : Maps id m rows)
    (call : Call α) :
    (mapAnswer id m call).1 = (listAnswer id rows call).1 ∧
      Maps id (mapAnswer id m call).2 (listAnswer id rows call).2 := by
  cases call with
  | insert row =>
    rw [mapAnswer, listAnswer]
    simp only [h.contains_iff]
    split
    · exact ⟨rfl, h⟩
    · rename_i fresh
      exact ⟨rfl, h.insert fresh⟩
  | get key => exact ⟨congrArg Answer.row (h.found key), h⟩
  | contains key =>
    refine ⟨congrArg Answer.flag (Bool.eq_iff_iff.mpr ?_), h⟩
    rw [h.contains_iff, decide_eq_true_iff]
  | size => exact ⟨congrArg Answer.number h.size, h⟩
  | isEmpty =>
    refine ⟨congrArg Answer.flag ?_, h⟩
    rw [Std.HashMap.isEmpty_eq_size_eq_zero, h.size]
    cases rows <;> rfl

/-! ## Any calls -/

/-- What one call keeps, any calls keep. -/
theorem run_agrees {σ τ : Type} {R : σ → τ → Prop} {ask : σ → Call α → Answer α × σ}
    {ask' : τ → Call α → Answer α × τ}
    (step : ∀ s t, R s t → ∀ call,
      (ask s call).1 = (ask' t call).1 ∧ R (ask s call).2 (ask' t call).2)
    {s : σ} {t : τ} (h : R s t) (calls : List (Call α)) :
    (run ask s calls).1 = (run ask' t calls).1 ∧ R (run ask s calls).2 (run ask' t calls).2 := by
  induction calls generalizing s t with
  | nil => exact ⟨rfl, h⟩
  | cons call calls ih =>
    obtain ⟨same, next⟩ := step s t h call
    obtain ⟨others, last⟩ := ih next
    exact ⟨congrArg₂ List.cons same others, last⟩

/-- Only the calls that put rows in change a table. -/
theorem after_eq (calls : List (Call α)) : after id calls = ofList (inserted calls) := by
  have folded (t : Table α id) : (run answer t calls).2 =
      (inserted calls).foldl (fun t row => (t.insert row).2) t := by
    induction calls generalizing t with
    | nil => rfl
    | cons call calls ih => cases call <;> exact ih _
  exact folded empty

theorem inserted_concat (calls : List (Call α)) (row : α) :
    inserted (calls ++ [.insert row]) = inserted calls ++ [row] := by
  induction calls with
  | nil => rfl
  | cons call calls ih => cases call <;> simp [inserted, ih]

/-- If ids differ, the place of an id is that of its one row. -/
theorem findIdx?_eq_some_iff {rows : List α} (distinct : (rows.map id).Nodup) (key : UInt64)
    (place : Nat) :
    rows.findIdx? (id · = key) = some place ↔ ∃ row, rows[place]? = some row ∧ id row = key := by
  rw [List.findIdx?_eq_some_iff_getElem]
  constructor
  · rintro ⟨inside, found, -⟩
    exact ⟨rows[place], List.getElem?_eq_getElem inside, by simpa using found⟩
  · rintro ⟨row, there, found⟩
    obtain ⟨inside, rfl⟩ := List.getElem?_eq_some_iff.mp there
    refine ⟨inside, by simpa using found, ?_⟩
    intro before less sameKey
    have first : before < rows.length := Nat.lt_trans less inside
    have same : (rows.map id)[before]? = (rows.map id)[place]? := by
      simpa [first, inside, found] using sameKey
    exact Nat.ne_of_lt less ((List.getElem?_inj (by simpa using first) distinct).mp same)

/-- What holds of a table after some calls, in terms of the list that was asked the same. -/
structure Refines (id : α → UInt64) (calls : List (Call α)) : Prop where
  answers : (run answer (empty : Table α id) calls).1 = (run (listAnswer id) [] calls).1
  listed : (after id calls).toList = (run (listAnswer id) [] calls).2
  firsts : (run (listAnswer id) [] calls).2 = firsts id (inserted calls)
  known : ∀ key, key ∈ (after id calls).index ↔ key ∈ (inserted calls).map id
  placed : ∀ key place, (after id calls).index[key]? = some place ↔
    ∃ row, (after id calls).rows[place]? = some row ∧ id row = key
  insert : ∀ row, (after id calls).insert row =
    if id row ∈ (inserted calls).map id then (false, after id calls)
    else (true, after id (calls ++ [.insert row]))

theorem refines (calls : List (Call α)) : Refines id calls := by
  have empty : (empty : Table α id).Represents [] := ⟨empty_indexed, rfl⟩
  obtain ⟨same, represents⟩ := run_agrees (fun _ _ h => h.answer) empty calls
  have listed : (after id calls).toList = firsts id (inserted calls) := by
    rw [after_eq, toList_ofList]
  have indexed : (after id calls).Indexed := represents.indexed
  refine ⟨same, represents.listed, represents.listed.symm.trans listed, ?_, ?_, ?_⟩
  · intro key
    rw [← Std.HashMap.contains_iff_mem, ← id_mem_firsts, ← listed]
    exact indexed.contains_iff key
  · intro key place
    rw [indexed key, findIdx?_eq_some_iff (listed ▸ nodup_firsts _)]
    simp [toList]
  · intro row
    have next : after id (calls ++ [.insert row]) = ((after id calls).insert row).2 := by
      rw [after_eq, inserted_concat, ofList_concat, ← after_eq]
    have represents : (after id calls).Represents (firsts id (inserted calls)) := ⟨indexed, listed⟩
    rw [next, represents.insert_eq]
    simp only [id_mem_firsts]
    split <;> rfl

theorem mapAnswers (calls : List (Call α)) :
    (run (mapAnswer id) ∅ calls).1 = (run (listAnswer id) [] calls).1 := by
  have empty : Maps id ∅ [] := ⟨fun key => by simp, by simp⟩
  exact (run_agrees (fun _ _ h => h.answer) empty calls).1

/-- Tables of routes and of links answer any calls as lists with one row for each id do. A route
is found under its id with its hostname, as the first that was put in with that id, and a table of
links cannot be told from a map of the first links. -/
theorem tables_refine_lists :
    (∀ calls : List (Call Route), Refines Route.peerId calls ∧
      ∀ key, RouteTable.hostname? (after Route.peerId calls) key =
        ((inserted calls).find? (·.peerId = key)).map (·.hostname)) ∧
    ∀ calls : List (Call Link), Refines Link.peerId calls ∧
      (run answer (empty : LinkTable) calls).1 = (run (mapAnswer Link.peerId) ∅ calls).1 := by
  refine ⟨?_, ?_⟩
  · intro calls
    refine ⟨refines calls, ?_⟩
    intro key
    rw [RouteTable.hostname?, after_eq, get?_ofList]
  · intro calls
    exact ⟨refines calls, (refines calls).answers.trans (mapAnswers calls).symm⟩

end MeshWatch.Table
