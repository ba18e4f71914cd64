import MeshWatch.Proofs.Event.Absorption

/-!
# Collecting a stream through a ring

An engine appends records to a stream and shows the latest of them, as many as its ring holds. A
history that absorbs the ring at every poll has only its own last record to know what it has seen,
and a record may come again. No assumption is made on the records or on the schedule: what is
claimed is order and that no place of the stream is taken twice, and not that nothing is lost.
-/
namespace MeshWatch

/-- The engine writes a record, or the ring is polled. -/
inductive Occasion
  | append (record : RawRecord)
  | poll

/-- Everything the engine has written, and what was collected of it. -/
structure Collector where
  stream : List RawRecord
  history : History

namespace Collector

def initial : Collector := ⟨[], .empty⟩

/-- What a ring of this capacity shows of a stream, oldest first. -/
def ring (capacity : Nat) (stream : List RawRecord) : List RawRecord :=
  stream.drop (stream.length - capacity)

def step (capacity : Nat) (c : Collector) : Occasion → Collector
  | .append record => { c with stream := c.stream ++ [record] }
  | .poll => { c with history := (c.history.absorb (ring capacity c.stream)).2 }

def run (capacity : Nat) (schedule : List Occasion) : Collector :=
  schedule.foldl (step capacity) initial

variable {capacity seen : Nat} {schedule earlier : List Occasion} {c : Collector}
  {x : Occasion} {positions : List Nat} {stream : List RawRecord}

theorem run_append (capacity : Nat) (schedule : List Occasion) (x : Occasion) :
    run capacity (schedule ++ [x]) = step capacity (run capacity schedule) x :=
  List.foldl_concat ..

/-- A ring that is not empty ends like the stream. -/
theorem getLast?_ring (some_record : ring capacity stream ≠ []) :
    (ring capacity stream).getLast? = stream.getLast? := by
  rw [ring, List.getLast?_drop, if_neg]
  intro beyond
  exact some_record (List.drop_of_length_le beyond)

/-! ## One poll -/

/-- The last of the first records is found behind every earlier place. -/
theorem mem_drop_of_getLast? {last : RawRecord} {place : Nat} (before : place < seen)
    (within : seen ≤ stream.length) (tail : (stream.take seen).getLast? = some last) :
    last ∈ stream.drop place := by
  have at_place : stream[seen - 1]? = some last := by
    rw [List.getLast?_eq_getElem?, List.length_take, Nat.min_eq_left within,
      List.getElem?_take_of_lt (by omega)] at tail
    exact tail
  refine List.mem_of_getElem? (i := seen - 1 - place) ?_
  rw [List.getElem?_drop, Nat.add_sub_cancel' (by omega)]
  exact at_place

/-- A history that ends like the first `seen` records of the stream takes over an end of the
stream, and nothing of these first records. The last occurrence of its tail in the ring may be a
repetition, but it is never before the tail's own place. -/
theorem exists_drop_of_takes {h : History} {place : Nat} {fresh : Absorption × List RawRecord}
    (within : seen ≤ stream.length) (tail : h.last? = (stream.take seen).getLast?)
    (taken : h.Takes (stream.drop place) fresh) :
    ∃ from_place, seen ≤ from_place ∧ from_place ≤ stream.length ∧
      fresh.2 = stream.drop from_place := by
  generalize shown : stream.drop place = batch at taken
  cases taken with
  | empty => exact ⟨stream.length, within, Nat.le_refl _, List.drop_length.symm⟩
  | seed vacant some_record =>
    have unseen : seen = 0 := by
      rw [vacant, eq_comm, List.getLast?_eq_none_iff, List.take_eq_nil_iff] at tail
      rcases tail with none | empty
      · exact none
      · simp [empty] at within
        exact within
    have inside : place ≤ stream.length := by
      by_contra beyond
      exact some_record (shown ▸ List.drop_of_length_le (by omega))
    exact ⟨place, by omega, inside, shown.symm⟩
  | same => exact ⟨stream.length, within, Nat.le_refl _, List.drop_length.symm⟩
  | @follow before after last last_record latest =>
    have after_eq : after = stream.drop (place + (before.length + 1)) := by
      rw [← List.drop_drop, shown]
      simp
    have inside : place + (before.length + 1) ≤ stream.length := by
      have := congrArg List.length shown
      simp only [List.length_drop, List.length_append, List.length_cons] at this
      omega
    refine ⟨place + (before.length + 1), ?_, inside, after_eq⟩
    by_contra early
    refine latest (after_eq ▸ mem_drop_of_getLast? (by omega) within ?_)
    exact tail.symm.trans last_record
  | @wrap _ last last_record left some_record =>
    have inside : place ≤ stream.length := by
      by_contra beyond
      exact some_record (shown ▸ List.drop_of_length_le (by omega))
    refine ⟨place, ?_, inside, shown.symm⟩
    by_contra early
    refine left (shown ▸ mem_drop_of_getLast? (by omega) within ?_)
    exact tail.symm.trans last_record

/-! ## Every schedule -/

/-- The history holds the records at increasing places among the first `seen` of the stream, and
ends like these. -/
structure Collects (c : Collector) (positions : List Nat) (seen : Nat) : Prop where
  increasing : positions.Pairwise (· < ·)
  records : c.history.records.map some = positions.map (c.stream[·]?)
  below : ∀ place ∈ positions, place < seen
  within : seen ≤ c.stream.length
  tail : c.history.last? = (c.stream.take seen).getLast?

theorem Collects.length (inv : Collects c positions seen) :
    positions.length = c.history.length := by
  have same := congrArg List.length inv.records
  rw [List.length_map, List.length_map] at same
  exact same.symm

theorem Collects.initial : Collects .initial [] 0 where
  increasing := .nil
  records := rfl
  below := by simp
  within := Nat.le_refl 0
  tail := rfl

theorem map_getElem?_append {more : List RawRecord} (below : ∀ place ∈ positions, place < seen)
    (within : seen ≤ stream.length) :
    positions.map ((stream ++ more)[·]?) = positions.map (stream[·]?) := by
  refine List.map_congr_left fun place member => ?_
  exact List.getElem?_append_left (Nat.lt_of_lt_of_le (below place member) within)

theorem Collects.append {record : RawRecord} (inv : Collects c positions seen) :
    Collects { c with stream := c.stream ++ [record] } positions seen where
  increasing := inv.increasing
  records := inv.records.trans (map_getElem?_append inv.below inv.within).symm
  below := inv.below
  within := by
    have := inv.within
    rw [List.length_append]
    omega
  tail := by
    rw [List.take_append_of_le_length inv.within]
    exact inv.tail

theorem map_range' (stream : List RawRecord) (place : Nat) :
    (List.range' place (stream.length - place)).map (stream[·]?) =
      (stream.drop place).map some := by
  refine List.ext_getElem (by simp) fun i left right => ?_
  simp only [List.length_map, List.length_range'] at left
  simp [List.getElem?_eq_getElem (show place + i < stream.length by omega)]

/-- The places that a poll adds come after all places before. -/
theorem Collects.poll (inv : Collects c positions seen) (capacity : Nat) :
    ∃ more seen', Collects (c.step capacity .poll) (positions ++ more) seen' := by
  by_cases some_record : ring capacity c.stream = []
  · have idle : c.step capacity .poll = c := by
      simp [step, History.absorb, History.fresh, some_record]
    rw [idle]
    exact ⟨[], seen, (List.append_nil positions).symm ▸ inv⟩
  · have taken := c.history.takes_fresh (ring capacity c.stream)
    obtain ⟨place, after_seen, inside, fresh⟩ := exists_drop_of_takes inv.within inv.tail taken
    have later : ∀ p ∈ List.range' place (c.stream.length - place),
        seen ≤ p ∧ p < c.stream.length := by
      intro p member
      have := List.mem_range'_1.mp member
      omega
    refine ⟨List.range' place (c.stream.length - place), c.stream.length, ?_, ?_, ?_, ?_, ?_⟩
    · refine List.pairwise_append.mpr ⟨inv.increasing, List.pairwise_lt_range', ?_⟩
      intro p old q new
      exact Nat.lt_of_lt_of_le (inv.below p old) (later q new).1
    · have grown : (c.step capacity .poll).history.records =
          c.history.records ++ c.stream.drop place := by
        rw [← fresh]
        exact History.absorb_records
      rw [grown, List.map_append, List.map_append, inv.records, ← map_range']
      rfl
    · intro p member
      rcases List.mem_append.mp member with old | new
      · exact Nat.lt_of_lt_of_le (inv.below p old) inv.within
      · exact (later p new).2
    · exact Nat.le_refl _
    · have last := c.history.last?_absorb some_record
      have shown := getLast?_ring some_record
      have whole : c.stream.take c.stream.length = c.stream := List.take_length
      exact last.trans (shown.trans (congrArg List.getLast? whole.symm))

theorem Collects.step (inv : Collects c positions seen) (capacity : Nat) (x : Occasion) :
    ∃ more seen', Collects (c.step capacity x) (positions ++ more) seen' := by
  cases x with
  | append record => exact ⟨[], seen, (List.append_nil positions).symm ▸ inv.append⟩
  | poll => exact inv.poll capacity

theorem prefix_step (capacity : Nat) (c : Collector) (x : Occasion) :
    c.history.records <+: (c.step capacity x).history.records := by
  cases x with
  | append => exact List.prefix_refl _
  | poll => exact c.history.prefix_absorb _

theorem prefix_run (capacity : Nat) (before : earlier <+: schedule) :
    (run capacity earlier).history.records <+: (run capacity schedule).history.records := by
  obtain ⟨rest, rfl⟩ := before
  induction rest using List.reverseRecOn with
  | nil => rw [List.append_nil]
  | append_singleton rest x ih =>
    rw [← List.append_assoc, run_append]
    exact ih.trans (prefix_step capacity _ x)

/-- The places found for a schedule begin with those of every earlier part of it. -/
theorem exists_positions (capacity : Nat) (schedule : List Occasion) :
    ∃ positions seen, Collects (run capacity schedule) positions seen ∧
      ∀ earlier, earlier <+: schedule →
        (run capacity earlier).history.records.map some =
          (positions.take (run capacity earlier).history.length).map
            ((run capacity earlier).stream[·]?) := by
  induction schedule using List.reverseRecOn with
  | nil =>
    refine ⟨[], 0, .initial, fun earlier before => ?_⟩
    rw [List.prefix_nil.mp before]
    rfl
  | append_singleton schedule x ih =>
    obtain ⟨positions, seen, inv, past⟩ := ih
    obtain ⟨more, seen', inv'⟩ := inv.step capacity x
    rw [← run_append] at inv'
    refine ⟨positions ++ more, seen', inv', fun earlier before => ?_⟩
    rcases List.prefix_concat_iff.mp before with rfl | before
    · rw [← inv'.length, List.take_length]
      exact inv'.records
    · have shorter : (run capacity earlier).history.length ≤ positions.length := by
        rw [inv.length]
        exact (prefix_run capacity before).length_le
      rw [List.take_append_of_le_length shorter]
      exact past earlier before

/-- For every capacity and schedule there is one increasing sequence of places such that at every
earlier point the history held the records at the first of these places; it only grew; and the next
poll makes it longer by what it reports, and lets it end like its batch if the batch is not
empty. -/
theorem collected_in_order (capacity : Nat) (schedule : List Occasion) :
    (∃ positions : List Nat, positions.Pairwise (· < ·) ∧ ∀ earlier, earlier <+: schedule →
      (run capacity earlier).history.records.map some =
        (positions.take (run capacity earlier).history.length).map
          ((run capacity earlier).stream[·]?)) ∧
    (∀ earlier, earlier <+: schedule →
      (run capacity earlier).history.records <+: (run capacity schedule).history.records) ∧
    let c := run capacity schedule
    let batch := ring capacity c.stream
    let polled := run capacity (schedule ++ [.poll])
    polled.history.length = c.history.length + (c.history.absorb batch).1.appended ∧
      (batch ≠ [] → polled.history.last? = batch.getLast?) := by
  obtain ⟨positions, seen, inv, past⟩ := exists_positions capacity schedule
  refine ⟨⟨positions, inv.increasing, past⟩, fun _ => prefix_run capacity, ?_⟩
  dsimp only
  rw [run_append]
  exact ⟨History.length_absorb _ _, History.last?_absorb _⟩

/-- The second `a` is taken for the first and left out. -/
example : (run 2 [.append "a", .poll, .append "a", .append "b", .poll]).history =
    ⟨["a", "b"]⟩ := by decide

end Collector

end MeshWatch
