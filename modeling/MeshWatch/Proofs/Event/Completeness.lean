import MeshWatch.Proofs.Event.Collection

/-!
# Collecting a stream without loss

When no record comes twice, the last record of a history names one place of the stream, and a poll
takes over exactly what was written behind that place and is still in the ring. So the history is
at all times what the ring has shown so far, and a poll reports a gap exactly if as many records
as the ring holds were written since the last poll that found one.
-/
namespace MeshWatch.Collector

variable {capacity seen : Nat} {schedule before between : List Occasion}
  {stream records : List RawRecord} {h : History} {record : RawRecord}

/-- The records that are written in the course of a schedule. -/
def written : List Occasion → List RawRecord
  | [] => []
  | .append record :: rest => record :: written rest
  | .poll :: rest => written rest

/-- What the ring shows at the polls of a schedule that finds this stream written already. -/
def batches (capacity : Nat) (stream : List RawRecord) : List Occasion → List (List RawRecord)
  | [] => []
  | .append record :: rest => batches capacity (stream ++ [record]) rest
  | .poll :: rest => ring capacity stream :: batches capacity stream rest

/-- Whether a record was in the ring at some poll. -/
def wasShown (capacity : Nat) (schedule : List Occasion) (record : RawRecord) : Bool :=
  (batches capacity [] schedule).any (record ∈ ·)

/-- What a poll reports if `count` records were written since the last poll that found one. -/
def report (capacity count : Nat) : Absorption :=
  if count = 0 then .nothing else if count < capacity then .new count else .gap capacity

@[simp]
theorem written_append (first second : List Occasion) :
    written (first ++ second) = written first ++ written second := by
  induction first with
  | nil => rfl
  | cons x rest ih =>
    cases x with
    | append record => exact congrArg (record :: ·) ih
    | poll => exact ih

theorem batches_append (capacity : Nat) (stream : List RawRecord) (first second : List Occasion) :
    batches capacity stream (first ++ second) =
      batches capacity stream first ++ batches capacity (stream ++ written first) second := by
  induction first generalizing stream with
  | nil => simp [batches, written]
  | cons x rest ih =>
    cases x with
    | append record => simpa [batches, written] using ih (stream ++ [record])
    | poll => simpa [batches, written] using ih stream

theorem run_stream (capacity : Nat) (schedule : List Occasion) :
    (run capacity schedule).stream = written schedule := by
  induction schedule using List.reverseRecOn with
  | nil => rfl
  | append_singleton schedule x ih =>
    rw [run_append, written_append, ← ih]
    cases x with
    | append record => rfl
    | poll => exact (List.append_nil _).symm

@[simp]
theorem wasShown_append :
    wasShown capacity (schedule ++ [.append record]) = wasShown capacity schedule := by
  funext r
  simp [wasShown, batches_append, batches]

theorem wasShown_poll (r : RawRecord) : wasShown capacity (schedule ++ [.poll]) r =
    (wasShown capacity schedule r || decide (r ∈ ring capacity (written schedule))) := by
  simp [wasShown, batches_append, batches]

theorem ring_eq_nil (positive : 0 < capacity) : ring capacity stream = [] ↔ stream = [] := by
  rw [ring, List.drop_eq_nil_iff, ← List.length_eq_zero_iff]
  omega

/-! ## One poll of a stream without repetitions -/

/-- A record that does not come twice has one place. -/
theorem seen_eq (distinct : stream.Nodup) (within : seen ≤ stream.length)
    {front rest : List RawRecord} {last : RawRecord} (split : stream = front ++ last :: rest)
    (tail : (stream.take seen).getLast? = some last) : seen = front.length + 1 := by
  rcases Nat.eq_zero_or_pos seen with rfl | positive
  · simp at tail
  · rw [List.getLast?_eq_getElem?, List.length_take, Nat.min_eq_left within,
      List.getElem?_take_of_lt (by omega)] at tail
    have at_front : stream[front.length]? = some last := by simp [split]
    have inside : seen - 1 < stream.length := by omega
    have same : seen - 1 = front.length :=
      (List.getElem?_inj inside distinct).mp (tail.trans at_front.symm)
    omega

/-- A history that ends like the first `seen` records takes over what was written behind them and
is in the ring, and reports how much was written. -/
theorem takes_ring (positive : 0 < capacity) (distinct : stream.Nodup)
    (within : seen ≤ stream.length) (tail : h.last? = (stream.take seen).getLast?)
    {fresh : Absorption × List RawRecord} (taken : h.Takes (ring capacity stream) fresh) :
    fresh.2 = stream.drop (max seen (stream.length - capacity)) ∧
      (0 < seen → fresh.1 = report capacity (stream.length - seen)) := by
  have split : stream.take (stream.length - capacity) ++ ring capacity stream = stream :=
    List.take_append_drop _ stream
  have skipped : (stream.take (stream.length - capacity)).length = stream.length - capacity :=
    List.length_take_of_le (Nat.sub_le _ _)
  have size : (ring capacity stream).length = stream.length - (stream.length - capacity) :=
    List.length_drop
  have shown : ring capacity stream = stream.drop (stream.length - capacity) := rfl
  generalize ring capacity stream = batch at taken split size shown
  cases taken with
  | empty =>
    rw [List.length_nil] at size
    constructor
    · rw [List.drop_of_length_le (by omega)]
    · intro some_seen
      omega
  | seed vacant some_record =>
    rw [vacant, eq_comm, List.getLast?_eq_none_iff, List.take_eq_nil_iff] at tail
    have unseen : seen = 0 := by
      rcases tail with unseen | empty
      · exact unseen
      · subst empty
        exact Nat.le_zero.mp within
    subst unseen
    exact ⟨by rw [Nat.zero_max, shown], fun some_seen => absurd some_seen (Nat.lt_irrefl 0)⟩
  | @same before last known =>
    rw [← List.append_assoc] at split
    have all := seen_eq distinct within split.symm (tail.symm.trans known)
    rw [List.length_append, skipped] at all
    rw [List.length_append, List.length_singleton] at size
    have unchanged : stream.length - seen = 0 := by omega
    constructor
    · rw [List.drop_of_length_le (by omega)]
    · intro _
      rw [unchanged, report, if_pos rfl]
  | @follow before after last known latest some_record =>
    rw [← List.append_assoc] at split
    have found := seen_eq distinct within split.symm (tail.symm.trans known)
    have counted := congrArg List.length split
    simp only [List.length_append, List.length_cons, skipped] at found counted size
    have some_new : 0 < after.length := List.length_pos_of_ne_nil some_record
    have later : max seen (stream.length - capacity) = seen := by omega
    have count : stream.length - seen = after.length := by omega
    have front : (stream.take (stream.length - capacity) ++ before ++ [last]).length = seen := by
      rw [List.length_append, List.length_append, List.length_singleton, skipped, found]
    constructor
    · rw [later, ← split, List.append_cons, List.drop_left' front]
    · intro _
      rw [count, report, if_neg (by omega), if_pos (by omega)]
  | @wrap _ last known left some_record =>
    have behind : seen ≤ stream.length - capacity := by
      by_contra early
      refine left (shown ▸ mem_drop_of_getLast? (by omega) within ?_)
      exact tail.symm.trans known
    constructor
    · rw [Nat.max_eq_right behind]
      exact shown
    · intro some_seen
      have full : batch.length = capacity := by omega
      rw [full, report, if_neg (by omega), if_neg (by omega)]

/-! ## What was shown, in the order of the stream -/

theorem filter_mem_drop (distinct : stream.Nodup) (place : Nat) :
    stream.filter (· ∈ stream.drop place) = stream.drop place := by
  have parts := List.take_append_drop place stream
  have apart := (List.nodup_append.mp (parts.symm ▸ distinct)).2.2
  have older : (stream.take place).filter (· ∈ stream.drop place) = [] := by
    rw [List.filter_eq_nil_iff]
    intro r old
    simpa using fun new => apart r old r new rfl
  have newer : (stream.drop place).filter (· ∈ stream.drop place) = stream.drop place :=
    List.filter_eq_self.mpr fun r new => by simpa using new
  calc stream.filter (· ∈ stream.drop place)
      = (stream.take place ++ stream.drop place).filter (· ∈ stream.drop place) := by rw [parts]
    _ = stream.drop place := by rw [List.filter_append, older, newer, List.nil_append]

/-- If of the older records all those from a place on were shown, another view from this place on
adds just the new ones to what was shown. -/
theorem filter_or_mem_drop {older newer : List RawRecord} {shown : RawRecord → Bool} (place : Nat)
    (distinct : (older ++ newer).Nodup) (known : ∀ r, shown r = true → r ∈ older)
    (latest : ∀ r ∈ older.drop place, shown r = true) :
    (older ++ newer).filter (fun r => shown r || decide (r ∈ (older ++ newer).drop place)) =
      (older ++ newer).filter shown ++ newer.drop (place - older.length) := by
  obtain ⟨-, distinct', apart⟩ := List.nodup_append.mp distinct
  have unseen : newer.filter shown = [] := by
    rw [List.filter_eq_nil_iff]
    intro r new old
    exact apart r (known r old) r new rfl
  have same : older.filter (fun r => shown r || decide (r ∈ (older ++ newer).drop place)) =
      older.filter shown := by
    refine List.filter_congr fun r old => ?_
    by_cases before : shown r = true
    · simp [before]
    · have hidden : r ∉ (older ++ newer).drop place := by
        rw [List.drop_append]
        intro member
        rcases List.mem_append.mp member with again | new
        · exact before (latest r again)
        · exact apart r old r (List.mem_of_mem_drop new) rfl
      simp [hidden]
  have fresh : newer.filter (fun r => shown r || decide (r ∈ (older ++ newer).drop place)) =
      newer.filter (· ∈ newer.drop (place - older.length)) := by
    refine List.filter_congr fun r new => ?_
    have unknown : ¬ shown r = true := fun old => apart r (known r old) r new rfl
    have outside : r ∉ older.drop place := fun old =>
      apart r (List.mem_of_mem_drop old) r new rfl
    simp [unknown, List.drop_append, outside]
  rw [List.filter_append, same, fresh, filter_mem_drop distinct', List.filter_append, unseen,
    List.append_nil]

/-! ## Every schedule -/

/-- The first `seen` records were written before the last poll that found one. What the ring held
then was shown, and nothing else was shown but older records. -/
structure Complete (capacity : Nat) (schedule : List Occasion) (seen : Nat) : Prop where
  within : seen ≤ (written schedule).length
  tail : (run capacity schedule).history.last? = ((written schedule).take seen).getLast?
  records : (run capacity schedule).history.records =
    (written schedule).filter (wasShown capacity schedule)
  older : ∀ r, wasShown capacity schedule r = true → r ∈ (written schedule).take seen
  latest : ∀ r ∈ ((written schedule).take seen).drop (seen - capacity),
    wasShown capacity schedule r = true

namespace Complete

theorem initial : Complete capacity [] 0 where
  within := Nat.le_refl 0
  tail := rfl
  records := rfl
  older r shown := by simp [wasShown, batches] at shown
  latest r member := by simp [written] at member

theorem append (inv : Complete capacity schedule seen)
    (distinct : (written (schedule ++ [.append record])).Nodup) :
    Complete capacity (schedule ++ [.append record]) seen := by
  have grown : written (schedule ++ [.append record]) = written schedule ++ [record] :=
    written_append _ _
  have same : ((written schedule) ++ [record]).take seen = (written schedule).take seen :=
    List.take_append_of_le_length inv.within
  have history : (run capacity (schedule ++ [.append record])).history =
      (run capacity schedule).history := by
    rw [run_append]
    rfl
  rw [grown] at distinct
  have unseen : wasShown capacity schedule record = false := by
    by_contra shown
    have old := List.mem_of_mem_take (inv.older record (by simpa using shown))
    exact (List.nodup_append.mp distinct).2.2 record old record (by simp) rfl
  constructor
  · rw [grown, List.length_append]
    exact Nat.le_add_right_of_le inv.within
  · rw [grown, history, same]
    exact inv.tail
  · rw [grown, history, wasShown_append, List.filter_append, inv.records]
    simp [unseen]
  · rw [grown, same, wasShown_append]
    exact inv.older
  · rw [grown, same, wasShown_append]
    exact inv.latest

theorem poll (inv : Complete capacity schedule seen) (positive : 0 < capacity)
    (distinct : (written schedule).Nodup) :
    Complete capacity (schedule ++ [.poll]) (written schedule).length := by
  have same : written (schedule ++ [.poll]) = written schedule := by simp [written]
  have history : (run capacity (schedule ++ [.poll])).history =
      ((run capacity schedule).history.absorb (ring capacity (written schedule))).2 := by
    rw [run_append, ← run_stream capacity schedule]
    rfl
  have fresh := (takes_ring positive distinct inv.within inv.tail (History.takes_fresh _ _)).1
  have parts := List.take_append_drop seen (written schedule)
  have seen_length := List.length_take_of_le inv.within
  constructor
  · rw [same]
  · rw [same, history, List.take_length]
    by_cases some_record : ring capacity (written schedule) = []
    · have nothing : written schedule = [] := (ring_eq_nil positive).mp some_record
      have unchanged := inv.tail
      rw [nothing, List.take_nil] at unchanged
      rw [nothing]
      simpa [History.absorb, History.fresh, ring] using unchanged
    · rw [History.last?_absorb _ some_record]
      exact getLast?_ring some_record
  · have view : wasShown capacity (schedule ++ [.poll]) = fun r =>
        wasShown capacity schedule r || decide (r ∈ ring capacity (written schedule)) :=
      funext wasShown_poll
    have still : ∀ r ∈ ((written schedule).take seen).drop ((written schedule).length - capacity),
        wasShown capacity schedule r = true := fun r member =>
      inv.latest r ((List.drop_sublist_drop_left _ (Nat.sub_le_sub_right inv.within _)).subset
        member)
    have grown := filter_or_mem_drop _ (parts.symm ▸ distinct) inv.older still
    have place : seen + ((written schedule).length - capacity - seen) =
        max seen ((written schedule).length - capacity) := by omega
    rw [parts, seen_length, List.drop_drop, place] at grown
    rw [same, history, History.absorb_records, fresh, inv.records, view]
    exact grown.symm
  · intro r shown
    rw [same, List.take_length]
    rw [wasShown_poll, Bool.or_eq_true, decide_eq_true_eq] at shown
    rcases shown with old | new
    · exact List.mem_of_mem_take (inv.older r old)
    · exact List.mem_of_mem_drop new
  · rw [same, List.take_length]
    intro r member
    rw [wasShown_poll, Bool.or_eq_true, decide_eq_true_eq]
    exact .inr member

/-- What the next poll reports and takes over of the records behind those first ones. -/
theorem next (inv : Complete capacity schedule seen) (positive : 0 < capacity)
    (distinct : (written schedule).Nodup) (some_seen : 0 < seen) {news : List RawRecord}
    (behind : (written schedule).drop seen = news) :
    let polled := (run capacity schedule).history.absorb (ring capacity (written schedule))
    polled.1 = report capacity news.length ∧
      polled.2.records =
        (run capacity schedule).history.records ++ news.drop (news.length - capacity) := by
  have taken := takes_ring positive distinct inv.within inv.tail (History.takes_fresh _ _)
  have count : (written schedule).length - seen = news.length := by
    rw [← behind, List.length_drop]
  have place : max seen ((written schedule).length - capacity) =
      seen + (news.length - capacity) := by
    have := inv.within
    omega
  constructor
  · rw [History.absorb_fst, taken.2 some_seen, count]
  · rw [History.absorb_records, taken.1, place, ← List.drop_drop, behind]

end Complete

theorem exists_complete (positive : 0 < capacity) (distinct : (written schedule).Nodup) :
    ∃ seen, Complete capacity schedule seen := by
  induction schedule using List.reverseRecOn with
  | nil => exact ⟨0, .initial⟩
  | append_singleton schedule x ih =>
    have distinct' : (written schedule).Nodup := by
      rw [written_append] at distinct
      exact (List.nodup_append.mp distinct).1
    obtain ⟨seen, inv⟩ := ih distinct'
    cases x with
    | append record => exact ⟨seen, inv.append distinct⟩
    | poll => exact ⟨_, inv.poll positive distinct'⟩

/-- Behind a poll that found a record, up to the next one that does. -/
theorem complete_between (positive : 0 < capacity)
    (distinct : (written (before ++ .poll :: between)).Nodup)
    (found : ring capacity (written before) ≠ [])
    (last : ∀ batch ∈ batches capacity (written before) between, batch = []) :
    Complete capacity (before ++ .poll :: between) (written before).length := by
  induction between using List.reverseRecOn with
  | nil =>
    have distinct' : (written before).Nodup := by simpa [written] using distinct
    obtain ⟨seen, inv⟩ := exists_complete positive distinct'
    exact inv.poll positive distinct'
  | append_singleton between x ih =>
    rw [← List.cons_append, ← List.append_assoc] at distinct ⊢
    rw [batches_append] at last
    have distinct' : (written (before ++ .poll :: between)).Nodup := by
      rw [written_append] at distinct
      exact (List.nodup_append.mp distinct).1
    have inv := ih distinct' fun batch member => last batch (List.mem_append_left _ member)
    cases x with
    | append record => exact inv.append distinct
    | poll =>
      have nothing := last _ (List.mem_append_right _ (List.mem_singleton_self _))
      have empty := List.append_eq_nil_iff.mp ((ring_eq_nil positive).mp nothing)
      exact absurd ((ring_eq_nil positive).mpr empty.1) found

theorem report_eq_nothing {count : Nat} : report capacity count = .nothing ↔ count = 0 := by
  rw [report]
  split
  · simp [*]
  · split <;> simp [*]

theorem report_eq_new {count : Nat} :
    report capacity count = .new count ↔ 0 < count ∧ count < capacity := by
  rw [report]
  split
  · simp [*]
  · split
    · simp
      omega
    · simp
      omega

theorem report_eq_gap (positive : 0 < capacity) {count : Nat} :
    report capacity count = .gap capacity ↔ capacity ≤ count := by
  rw [report]
  split
  · simp
    omega
  · split
    · simp
      omega
    · simp
      omega

/-- For every capacity and every stream of pairwise distinct records, the history holds at all
times the records that were in the ring at some poll, in their order; and a poll reports by how
many records `news` were written since the last poll that found one, and leaves out the oldest of
these, as many as do not fit into the ring. -/
theorem collected_without_loss (positive : 0 < capacity) (distinct : (written schedule).Nodup) :
    (∀ earlier, earlier <+: schedule → (run capacity earlier).history.records =
      (written earlier).filter (wasShown capacity earlier)) ∧
    ∀ before between, schedule = before ++ .poll :: between →
      ring capacity (written before) ≠ [] →
      (∀ batch ∈ batches capacity (written before) between, batch = []) →
      let news := written between
      let h := (run capacity schedule).history
      let polled := h.absorb (ring capacity (written schedule))
      h.last? = (written before).getLast? ∧
      (polled.1 = .nothing ↔ news.length = 0) ∧
      (polled.1 = .new news.length ↔ 0 < news.length ∧ news.length < capacity) ∧
      (polled.1 = .gap capacity ↔ capacity ≤ news.length) ∧
      (news.length < capacity → polled.2.records = h.records ++ news) ∧
      (capacity ≤ news.length →
        polled.2.records = h.records ++ news.drop (news.length - capacity)) := by
  refine ⟨fun earlier part => ?_, fun before between split found last => ?_⟩
  · obtain ⟨rest, rfl⟩ := part
    rw [written_append] at distinct
    obtain ⟨seen, inv⟩ := exists_complete positive (List.nodup_append.mp distinct).1
    exact inv.records
  · subst split
    have inv := complete_between positive distinct found last
    have stream : written (before ++ .poll :: between) = written before ++ written between :=
      written_append _ _
    have some_old : 0 < (written before).length := by
      refine List.length_pos_of_ne_nil fun empty => found ?_
      rw [empty, ring_eq_nil positive]
    have behind : (written (before ++ .poll :: between)).drop (written before).length =
        written between := by
      rw [stream, List.drop_left]
    obtain ⟨reported, taken⟩ := inv.next positive distinct some_old behind
    have tail := inv.tail
    rw [stream, List.take_left] at tail
    refine ⟨tail, ?_, ?_, ?_, fun few => ?_, fun _ => taken⟩
    · rw [reported, report_eq_nothing]
    · rw [reported, report_eq_new]
    · rw [reported, report_eq_gap positive]
    · rw [taken, Nat.sub_eq_zero_of_le (Nat.le_of_lt few), List.drop_zero]

/-- A ring of two records is polled after one record, and again after three more. -/
def lateSchedule : List Occasion :=
  [.append "a", .poll, .append "b", .append "c", .append "d"]

/-- The oldest of the three is lost, and the gap is reported. -/
theorem collected_without_loss_late :
    (run 2 lateSchedule).history.records = ["a"] ∧
    ((run 2 lateSchedule).history.absorb ["c", "d"]).1 = .gap 2 ∧
    (run 2 (lateSchedule ++ [.poll])).history.records = ["a", "c", "d"] := by
  have positive : 0 < 2 := by decide
  have distinct : (written (lateSchedule ++ [.poll])).Nodup := by decide
  have distinct' : (written lateSchedule).Nodup := by decide
  refine ⟨?_, ?_, ?_⟩
  · exact (collected_without_loss positive distinct).1 lateSchedule (List.prefix_append _ _)
  · have late := (collected_without_loss positive distinct').2 [.append "a"]
      [.append "b", .append "c", .append "d"] rfl (by decide) (by decide)
    exact late.2.2.2.1.mpr (by decide)
  · exact (collected_without_loss positive distinct).1 _ (List.prefix_refl _)

end MeshWatch.Collector
