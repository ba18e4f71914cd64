import MeshWatch.Proofs.Monitor.Stopping

/-!
# The gate of a session

The calls of one session pass its gate one at a time, so a session never has two fetches in
flight. The gate belongs to the session and not to the monitor: what bounds the fetches of the
monitor is how many sessions can still fetch, and until the next start no session is added to
these.
-/
namespace MeshWatch.Monitor

variable {s s' : State} {x : Step} {a : Option (Task × Answer)} {i n : Nat} {t u : Task}

def Step.isStart : Step → Bool
  | .start _ => true
  | _ => false

namespace State

/-- How many fetches one session has in flight. -/
def fetchesOf (s : State) (i : Nat) : Nat :=
  s.tasks.countP fun t => t.session = i ∧ t.phase = .fetching

/-- A session that is live, or has a call that is past the gate. -/
def CanFetch (s : State) (i : Nat) : Prop :=
  s.Live i ∨ ∃ t ∈ s.tasks, t.session = i ∧ t.phase ≠ .waiting

theorem mem_withPhase {id : Nat} {phase : Phase} : u ∈ (s.withPhase id phase).tasks ↔
    ∃ t ∈ s.tasks, (if t.id = id then { t with phase := phase } else t) = u :=
  List.mem_map

theorem mem_of_publish {p : Progress} {id : Nat}
    (member : t ∈ ((s.publish i p).withoutTask id).tasks) : t ∈ s.tasks := by
  have old := List.mem_of_mem_filter member
  rw [publish_tasks] at old
  exact old

/-- When it is a call's turn, all calls of its session wait. -/
theorem waiting_of_isTurnOf (turn : s.isTurnOf t = true) (member : u ∈ s.tasks)
    (same : u.session = t.session) : u.phase = .waiting := by
  simp only [isTurnOf, Bool.and_eq_true, Bool.not_eq_true', List.any_eq_false] at turn
  have := turn.1.2 u member
  simpa [same] using this

end State

/-! ## One call at a time -/

/-- Calls have numbers of their own, and at most one call of a session is past waiting. -/
structure Gate (s : State) : Prop where
  numbered : ∀ t ∈ s.tasks, t.id < s.nextTask
  distinct : (s.tasks.map (·.id)).Nodup
  known : ∀ t ∈ s.tasks, t.session < s.sessions.length
  exclusive : ∀ t ∈ s.tasks, ∀ u ∈ s.tasks, t.session = u.session →
    t.phase ≠ .waiting → u.phase ≠ .waiting → t = u

namespace Gate

theorem initial : Gate .initial where
  numbered := by simp [State.initial]
  distinct := List.nodup_nil
  known := by simp [State.initial]
  exclusive := by simp [State.initial]

theorem eq_of_id (inv : Gate s) (left : t ∈ s.tasks) (right : u ∈ s.tasks) (same : t.id = u.id) :
    t = u :=
  List.inj_on_of_nodup_map inv.distinct left right same

theorem of_sublist (inv : Gate s) (fewer : s'.tasks.Sublist s.tasks)
    (next : s'.nextTask = s.nextTask) (more : s.sessions.length ≤ s'.sessions.length) :
    Gate s' where
  numbered t member := next ▸ inv.numbered t (fewer.subset member)
  distinct := inv.distinct.sublist (fewer.map _)
  known t member := Nat.lt_of_lt_of_le (inv.known t (fewer.subset member)) more
  exclusive t left u right := inv.exclusive t (fewer.subset left) u (fewer.subset right)

theorem of_begin {call : Call} (inv : Gate s) (known : i < s.sessions.length) :
    Gate { s with
      tasks := s.tasks ++ [⟨s.nextTask, i, call, .waiting⟩]
      nextTask := s.nextTask + 1 } where
  numbered t member := by
    rcases List.mem_append.mp member with old | new
    · exact Nat.lt_succ_of_lt (inv.numbered t old)
    · obtain rfl := List.mem_singleton.mp new
      exact Nat.lt_succ_self _
  distinct := by
    have fresh : s.nextTask ∉ s.tasks.map (·.id) := by
      intro member
      obtain ⟨t, old, same⟩ := List.mem_map.mp member
      have := inv.numbered t old
      omega
    rw [List.map_append]
    exact inv.distinct.append (List.nodup_singleton _) (by simpa using fresh)
  known t member := by
    rcases List.mem_append.mp member with old | new
    · exact inv.known t old
    · obtain rfl := List.mem_singleton.mp new
      exact known
  exclusive t left u right same past past' := by
    rcases List.mem_append.mp left with old | new
    · rcases List.mem_append.mp right with old' | new'
      · exact inv.exclusive t old u old' same past past'
      · obtain rfl := List.mem_singleton.mp new'
        exact absurd rfl past'
    · obtain rfl := List.mem_singleton.mp new
      exact absurd rfl past

/-- The call that moves on is the only one of its session that may be past waiting. -/
theorem withPhase {phase : Phase} (inv : Gate s) (member : t ∈ s.tasks)
    (only : ∀ u ∈ s.tasks, u.session = t.session → u.phase ≠ .waiting → u = t) :
    Gate (s.withPhase t.id phase) where
  numbered u moved := by
    obtain ⟨v, old, rfl⟩ := State.mem_withPhase.mp moved
    split <;> exact inv.numbered v old
  distinct := by
    have same : (s.withPhase t.id phase).tasks.map (·.id) = s.tasks.map (·.id) := by
      simp only [State.withPhase, List.map_map]
      refine List.map_congr_left fun u _ => ?_
      by_cases h : u.id = t.id <;> simp [h]
    rw [same]
    exact inv.distinct
  known u moved := by
    obtain ⟨v, old, rfl⟩ := State.mem_withPhase.mp moved
    split <;> exact inv.known v old
  exclusive u left v right same past past' := by
    obtain ⟨u, old, rfl⟩ := State.mem_withPhase.mp left
    obtain ⟨v, old', rfl⟩ := State.mem_withPhase.mp right
    by_cases hu : u.id = t.id
    · obtain rfl := inv.eq_of_id old member hu
      by_cases hv : v.id = u.id
      · obtain rfl := inv.eq_of_id old' old hv
        rfl
      · simp only [if_true, if_neg hv] at same past'
        exact absurd (only v old' same.symm past') fun h => hv (by rw [h])
    · by_cases hv : v.id = t.id
      · obtain rfl := inv.eq_of_id old' member hv
        simp only [if_true, if_neg hu] at same past
        exact absurd (only u old same past) fun h => hu (by rw [h])
      · simp only [if_neg hu, if_neg hv] at same past past' ⊢
        exact inv.exclusive u old v old' same past past'

theorem withoutTask {id : Nat} (inv : Gate s) : Gate (s.withoutTask id) :=
  inv.of_sublist List.filter_sublist rfl (Nat.le_refl _)

theorem publish {p : Progress} (inv : Gate s) : Gate (s.publish i p) :=
  inv.of_sublist (by rw [State.publish_tasks]) State.publish_nextTask
    (Nat.le_of_eq State.sessions_length_publish.symm)

theorem step (inv : Gate s) (change : Transition s x s' a) : Gate s' := by
  cases change with
  | start => exact inv.of_sublist (List.Sublist.refl _) rfl (by simp)
  | begin known => exact inv.of_begin known
  | refuse => exact inv.withoutTask
  | accept found turn =>
    obtain ⟨at_id, -, -⟩ := taskIn_eq_some.mp found
    refine inv.withPhase (State.mem_of_task? at_id).1 fun u member same past => ?_
    exact absurd (State.waiting_of_isTurnOf turn member same) past
  | @proceed _ t session answer found =>
    obtain ⟨at_id, asking, -⟩ := taskIn_eq_some.mp found
    have inv' : Gate (s.withProgress t.session { session.progress with status := answer }) :=
      inv.of_sublist (List.Sublist.refl _) rfl (Nat.le_of_eq (List.length_modify _ _ _).symm)
    have member := (State.mem_of_task? at_id).1
    refine inv'.withPhase member fun u other same past => ?_
    exact inv.exclusive u other t member same past (by simp [asking])
  | halt => exact inv.publish.withoutTask
  | deliver => exact inv.withoutTask
  | finish => exact inv.publish.withoutTask
  | abandon => exact inv.withoutTask
  | take => exact inv.of_sublist (List.Sublist.refl _) rfl (Nat.le_refl _)
  | cancel =>
    exact inv.of_sublist (List.Sublist.refl _) rfl (Nat.le_of_eq (List.length_modify _ _ _).symm)
  | clear => exact inv.of_sublist (List.Sublist.refl _) rfl (Nat.le_refl _)

end Gate

theorem Reachable.gate (reached : Reachable s) : Gate s :=
  Runs.invariant Gate reached .initial fun _ change inv => inv.step change

theorem Gate.fetchesOf_le_one (inv : Gate s) (i : Nat) : s.fetchesOf i ≤ 1 := by
  rw [State.fetchesOf, List.countP_eq_length_filter]
  have single : ∀ t ∈ s.tasks.filter fun t => t.session = i ∧ t.phase = .fetching,
      ∀ u ∈ s.tasks.filter fun t => t.session = i ∧ t.phase = .fetching, t = u := by
    intro t left u right
    obtain ⟨old, ht⟩ := List.mem_filter.mp left
    obtain ⟨old', hu⟩ := List.mem_filter.mp right
    simp only [decide_eq_true_eq] at ht hu
    exact inv.exclusive t old u old' (ht.1.trans hu.1.symm) (by simp [ht.2]) (by simp [hu.2])
  have distinct : (s.tasks.filter fun t => t.session = i ∧ t.phase = .fetching).Nodup :=
    inv.distinct.of_map.filter _
  generalize s.tasks.filter (fun t => t.session = i ∧ t.phase = .fetching) = fetching at *
  match fetching, single, distinct with
  | [], _, _ => exact Nat.zero_le 1
  | [_], _, _ => exact Nat.le_refl 1
  | t :: u :: rest, single, distinct =>
    have same : t = u := single t (by simp) u (by simp)
    simp [same] at distinct

/-! ## Until the next start -/

theorem Gate.lt_of_canFetch (inv : Gate s) (able : s.CanFetch i) : i < s.sessions.length := by
  rcases able with live | ⟨t, member, rfl, -⟩
  · exact live.lt
  · exact inv.known t member

/-- Without a start no session becomes live. -/
theorem Transition.live_of_live (change : Transition s x s' a) (later : x.isStart = false)
    (live : s'.Live i) : s.Live i := by
  cases control : x.isControl with
  | false => exact ((change.sameStages control).cancelled i).symm.trans live
  | true =>
    cases change with
    | start => cases later
    | take => exact live
    | cancel => exact (State.live_cancel.mp live).1
    | clear => exact live
    | _ => cases control

theorem State.canFetch_of_mem (member : t ∈ s.tasks) (past : t.phase ≠ .waiting) :
    s.CanFetch t.session :=
  .inr ⟨t, member, rfl, past⟩

/-- What one call's moving on makes past the gate: that call, and what was past it before. -/
theorem Gate.canFetch_withPhase {phase : Phase} (inv : Gate s) (member : t ∈ s.tasks)
    (moved : u ∈ (s.withPhase t.id phase).tasks) (past : u.phase ≠ .waiting) :
    u.session = t.session ∨ s.CanFetch u.session := by
  obtain ⟨v, old, same⟩ := State.mem_withPhase.mp moved
  by_cases h : v.id = t.id
  · obtain rfl := inv.eq_of_id old member h
    rw [if_pos rfl] at same
    exact .inl (same ▸ rfl)
  · rw [if_neg h] at same
    exact .inr (State.canFetch_of_mem (same ▸ old) past)

/-- A call is past the gate only if its session could fetch before. -/
theorem Gate.canFetch_of_past (inv : Gate s) (change : Transition s x s' a) (member : t ∈ s'.tasks)
    (past : t.phase ≠ .waiting) : s.CanFetch t.session := by
  cases change with
  | start => exact State.canFetch_of_mem member past
  | begin =>
    rcases List.mem_append.mp member with old | new
    · exact State.canFetch_of_mem old past
    · obtain rfl := List.mem_singleton.mp new
      exact absurd rfl past
  | refuse => exact State.canFetch_of_mem (List.mem_of_mem_filter member) past
  | accept found turn live =>
    obtain ⟨at_id, -, known⟩ := taskIn_eq_some.mp found
    refine (inv.canFetch_withPhase (State.mem_of_task? at_id).1 member past).elim ?_ id
    intro same
    refine .inl ?_
    rw [same, State.Live, State.cancelled?_of_session known, live]
  | proceed found =>
    obtain ⟨at_id, asking, -⟩ := taskIn_eq_some.mp found
    have old := (State.mem_of_task? at_id).1
    rcases inv.canFetch_withPhase old member past with same | able
    · exact same ▸ State.canFetch_of_mem old (by simp [asking])
    · exact able
  | halt => exact State.canFetch_of_mem (State.mem_of_publish member) past
  | deliver => exact State.canFetch_of_mem (List.mem_of_mem_filter member) past
  | finish => exact State.canFetch_of_mem (State.mem_of_publish member) past
  | abandon => exact State.canFetch_of_mem (List.mem_of_mem_filter member) past
  | take => exact State.canFetch_of_mem member past
  | cancel => exact State.canFetch_of_mem member past
  | clear => exact State.canFetch_of_mem member past

/-- A step other than a start adds no session to those that can fetch. -/
theorem Gate.canFetch_of_canFetch (inv : Gate s) (change : Transition s x s' a)
    (later : x.isStart = false) (able : s'.CanFetch i) : s.CanFetch i := by
  rcases able with live | ⟨t, member, rfl, past⟩
  · exact .inl (change.live_of_live later live)
  · exact inv.canFetch_of_past change member past

/-- A start adds its own session to those that can fetch. -/
theorem Transition.canFetch_of_start {name : String} (change : Transition s (.start name) s' a) :
    s'.CanFetch i ↔ s.CanFetch i ∨ i = s.sessions.length := by
  cases change with
  | start =>
    rw [State.CanFetch, State.live_append rfl]
    exact or_right_comm

/-- If one session at most can fetch, all fetches are in it. -/
theorem Gate.fetches_le_one (inv : Gate s)
    (alone : ∀ i j, s.CanFetch i → s.CanFetch j → i = j) : s.fetches ≤ 1 := by
  by_cases none : ∀ t ∈ s.tasks, t.phase ≠ .fetching
  · rw [State.fetches, List.countP_eq_zero.mpr fun t member => by simpa using none t member]
    exact Nat.zero_le 1
  · push Not at none
    obtain ⟨t, member, fetching⟩ := none
    refine Nat.le_trans ?_ (inv.fetchesOf_le_one t.session)
    refine List.countP_mono_left fun u other fetching' => ?_
    simp only [decide_eq_true_eq] at fetching' ⊢
    refine ⟨?_, fetching'⟩
    exact alone _ _ (State.canFetch_of_mem other (by simp [fetching']))
      (State.canFetch_of_mem member (by simp [fetching]))

end MeshWatch.Monitor
