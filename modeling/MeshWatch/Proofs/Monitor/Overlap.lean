import Mathlib.Data.List.Perm.Subperm
import MeshWatch.Proofs.Monitor.Gate

/-!
# Fetches that overlap

A session that is live or has a call past its gate can be brought to a fetch, whatever the other
sessions do meanwhile: its calls get their turns in order, and a call that has had its turn is not
asked again whether its session is cancelled. So two sessions that can fetch can fetch at once. One
fetch at a time is what a monitor keeps exactly as long as one session at most can fetch; a start
keeps it only if no earlier session can.
-/
namespace MeshWatch.Monitor

variable {s s' s'' : State} {i j : Nat} {t u : Task}

/-- A run that starts nothing, cancels no session and leaves the calls of all others alone. -/
structure Advances (i : Nat) (s s' : State) : Prop where
  run : Runs (fun x => x.isStart = false) s s'
  live : ∀ j, s.Live j → s'.Live j
  others : ∀ u ∈ s.tasks, u.session ≠ i → u ∈ s'.tasks

namespace Advances

theorem refl : Advances i s s where
  run := .refl
  live _ := id
  others _ member _ := member

theorem trans (first : Advances i s s') (second : Advances i s' s'') : Advances i s s'' where
  run := first.run.trans second.run
  live j live := second.live j (first.live j live)
  others u member other := second.others u (first.others u member other) other

theorem gate (advance : Advances i s s') (inv : Gate s) : Gate s' :=
  advance.run.invariant Gate inv fun _ change inv => inv.step change

end Advances

/-- A call of this session is in its fetch. -/
def State.HasFetch (s : State) (i : Nat) : Prop :=
  ∃ t ∈ s.tasks, t.session = i ∧ t.phase = .fetching

/-! ## Bringing a session to a fetch -/

theorem Moves.begin_poll (known : i < s.sessions.length) :
    Moves s (.begin i .poll)
      { s with
        tasks := s.tasks ++ [⟨s.nextTask, i, .poll, .waiting⟩]
        nextTask := s.nextTask + 1 } := by
  simp [Moves, step, known, silent]

theorem Moves.enter_live {session : Session} {id : Nat}
    (found : taskIn s id .waiting = some (t, session)) (turn : s.isTurnOf t = true)
    (live : session.cancelled = false) :
    Moves s (.enter id) (s.withPhase t.id t.call.firstPhase) := by
  have entered : (enter s t session).state = s.withPhase t.id t.call.firstPhase := by
    cases call : t.call <;> simp only [enter, live, call, Call.firstPhase]
  simp [Moves, step, found, turn, entered]

/-- Once past the gate a call is not asked whether its session is cancelled. -/
theorem Moves.status_running {session : Session} {id : Nat} {answer : EngineStatus}
    (found : taskIn s id .asking = some (t, session)) (running : answer.running = true) :
    Moves s (.status id answer)
      ((s.withProgress t.session { session.progress with status := answer }).withPhase t.id
        .fetching) := by
  have answered : (onStatus s t session answer).state =
      (s.withProgress t.session { session.progress with status := answer }).withPhase t.id
        .fetching := by
    rw [onStatus, if_pos running]
    rfl
  simp [Moves, step, found, answered]

theorem Gate.task?_of_mem (inv : Gate s) (member : t ∈ s.tasks) : s.task? t.id = some t := by
  cases found : s.task? t.id with
  | none =>
    have missing := List.find?_eq_none.mp found t member
    simp at missing
  | some u =>
    obtain ⟨other, same⟩ := State.mem_of_task? found
    rw [inv.eq_of_id other member same]

theorem Gate.taskIn_of_mem (inv : Gate s) (member : t ∈ s.tasks) :
    ∃ session, taskIn s t.id t.phase = some (t, session) := by
  have known := inv.known t member
  exact ⟨s.sessions[t.session],
    taskIn_eq_some.mpr ⟨inv.task?_of_mem member, rfl, List.getElem?_eq_getElem known⟩⟩

theorem State.mem_withPhase_self {phase : Phase} (member : t ∈ s.tasks) :
    { t with phase := phase } ∈ (s.withPhase t.id phase).tasks :=
  State.mem_withPhase.mpr ⟨t, member, if_pos rfl⟩

theorem Gate.mem_withPhase_of_ne {phase : Phase} (inv : Gate s) (member : t ∈ s.tasks)
    (other : u ∈ s.tasks) (apart : u.session ≠ t.session) :
    u ∈ (s.withPhase t.id phase).tasks := by
  have distinct : u.id ≠ t.id := fun same => apart (inv.eq_of_id other member same ▸ rfl)
  exact State.mem_withPhase.mpr ⟨u, other, if_neg distinct⟩

/-- A call that is past the gate comes to its fetch, cancelled or not. -/
theorem Gate.fetch_of_past (inv : Gate s) (member : t ∈ s.tasks) (past : t.phase ≠ .waiting) :
    ∃ s', Advances t.session s s' ∧ s'.HasFetch t.session := by
  cases phase : t.phase with
  | waiting => exact absurd phase past
  | fetching => exact ⟨s, .refl, t, member, rfl, phase⟩
  | asking =>
    obtain ⟨session, found⟩ := inv.taskIn_of_mem member
    rw [phase] at found
    have running : (EngineStatus.started session.name).running = true := rfl
    have move := Moves.status_running found running
    refine ⟨_, ⟨.tail .refl rfl move, fun j live => ?_, fun u other apart => ?_⟩, ?_⟩
    · rw [State.Live, State.cancelled?_withPhase, State.cancelled?_withProgress]
      exact live
    · exact inv.mem_withPhase_of_ne member other apart
    · exact ⟨_, State.mem_withPhase_self member, rfl, rfl⟩

/-- The first call of a session gets its turn when no call of the session is past the gate. -/
theorem State.isTurnOf_of_first (first : s.tasks.find? (fun u => u.session == i) = some t)
    (closed : ∀ u ∈ s.tasks, u.session = i → u.phase = .waiting) :
    t ∈ s.tasks ∧ t.session = i ∧ t.phase = .waiting ∧ s.isTurnOf t = true := by
  have member := List.mem_of_find?_eq_some first
  have own : t.session = i := by simpa using List.find?_some first
  have waiting := closed t member own
  refine ⟨member, own, waiting, ?_⟩
  have none_past : s.tasks.any (fun u => u.session == t.session && u.phase ≠ .waiting) = false := by
    refine List.any_eq_false.mpr fun u other => ?_
    by_cases same : u.session = i
    · simp [closed u other same]
    · simp [own, same]
  rw [State.isTurnOf, none_past, own, first]
  simp [waiting]

/-- Of a live session the first call that waits comes to its fetch. -/
theorem Gate.fetch_of_first (inv : Gate s) (live : s.Live i)
    (first : s.tasks.find? (fun u => u.session == i) = some t)
    (closed : ∀ u ∈ s.tasks, u.session = i → u.phase = .waiting) :
    ∃ s', Advances i s s' ∧ s'.HasFetch i := by
  obtain ⟨member, rfl, waiting, turn⟩ := State.isTurnOf_of_first first closed
  obtain ⟨session, found⟩ := inv.taskIn_of_mem member
  have open_gate : session.cancelled = false := by
    obtain ⟨-, -, known⟩ := taskIn_eq_some.mp found
    rw [State.Live, State.cancelled?_of_session known] at live
    exact Option.some.inj live
  rw [waiting] at found
  have move := Moves.enter_live found turn open_gate
  have entering : Advances t.session s (s.withPhase t.id t.call.firstPhase) :=
    ⟨.tail .refl rfl move, fun _ live => live,
      fun u other apart => inv.mem_withPhase_of_ne member other apart⟩
  have entered : { t with phase := t.call.firstPhase } ∈
      (s.withPhase t.id t.call.firstPhase).tasks := State.mem_withPhase_self member
  obtain ⟨s', fetching, done⟩ :=
    (entering.gate inv).fetch_of_past entered t.call.firstPhase_ne_waiting
  exact ⟨s', entering.trans fetching, done⟩

/-- A session that can fetch comes to a fetch while the others stay where they are. -/
theorem Gate.fetch_of_canFetch (inv : Gate s) (able : s.CanFetch i) :
    ∃ s', Advances i s s' ∧ s'.HasFetch i := by
  by_cases closed : ∀ u ∈ s.tasks, u.session = i → u.phase = .waiting
  · rcases able with live | ⟨t, member, rfl, past⟩
    · cases first : s.tasks.find? (fun u => u.session == i) with
      | some t => exact inv.fetch_of_first live first closed
      | none =>
        -- With no call of its own yet, the session begins a cycle.
        let t : Task := ⟨s.nextTask, i, .poll, .waiting⟩
        let begun : State := { s with tasks := s.tasks ++ [t], nextTask := s.nextTask + 1 }
        have move : Moves s (.begin i .poll) begun := .begin_poll live.lt
        have beginning : Advances i s begun :=
          ⟨.tail .refl rfl move, fun _ live => live,
            fun u other _ => List.mem_append_left _ other⟩
        have first' : begun.tasks.find? (fun u => u.session == i) = some t := by
          simp [begun, List.find?_append, first, t]
        have closed' : ∀ u ∈ begun.tasks, u.session = i → u.phase = .waiting := by
          intro u other own
          rcases List.mem_append.mp other with old | new
          · exact closed u old own
          · obtain rfl := List.mem_singleton.mp new
            rfl
        obtain ⟨s', fetching, done⟩ := (beginning.gate inv).fetch_of_first live first' closed'
        exact ⟨s', beginning.trans fetching, done⟩
    · exact absurd (closed t member rfl) past
  · push Not at closed
    obtain ⟨t, member, rfl, past⟩ := closed
    exact inv.fetch_of_past member past

/-! ## Two sessions at once -/

theorem Advances.canFetch (advance : Advances i s s') (apart : j ≠ i) (able : s.CanFetch j) :
    s'.CanFetch j := by
  rcases able with live | ⟨t, member, rfl, past⟩
  · exact .inl (advance.live j live)
  · exact State.canFetch_of_mem (advance.others t member apart) past

theorem State.two_le_fetches (left : s.HasFetch i) (right : s.HasFetch j) (apart : i ≠ j) :
    2 ≤ s.fetches := by
  obtain ⟨t, member, rfl, fetching⟩ := left
  obtain ⟨u, member', rfl, fetching'⟩ := right
  have distinct : t ≠ u := fun same => apart (same ▸ rfl)
  have pair : [t, u] ⊆ s.tasks.filter (·.phase = .fetching) := by
    intro v listed
    rcases List.mem_pair.mp listed with rfl | rfl
    · exact List.mem_filter.mpr ⟨member, by simpa using fetching⟩
    · exact List.mem_filter.mpr ⟨member', by simpa using fetching'⟩
  rw [State.fetches, List.countP_eq_length_filter]
  exact (List.subperm_of_subset (by simpa using distinct) pair).length_le

/-- Two sessions that can fetch come to fetch at once. -/
theorem Gate.overlap_of_canFetch (inv : Gate s) (left : s.CanFetch i) (right : s.CanFetch j)
    (apart : i ≠ j) : ∃ s', Runs (fun x => x.isStart = false) s s' ∧ 2 ≤ s'.fetches := by
  obtain ⟨s₁, first, t, member, own, fetching⟩ := inv.fetch_of_canFetch left
  have inv₁ := first.gate inv
  obtain ⟨s₂, second, done⟩ := inv₁.fetch_of_canFetch (first.canFetch apart.symm right)
  have kept : s₂.HasFetch i := ⟨t, second.others t member (own ▸ apart), own, fetching⟩
  exact ⟨s₂, first.run.trans second.run, State.two_le_fetches kept done apart⟩

/-- Without a start one fetch at most is in flight, whatever happens, exactly if one session at
most can fetch. -/
theorem Gate.bounded_iff_alone (inv : Gate s) :
    (∀ s', Runs (fun x => x.isStart = false) s s' → s'.fetches ≤ 1) ↔
      ∀ i j, s.CanFetch i → s.CanFetch j → i = j := by
  constructor
  · intro bounded i j left right
    by_contra apart
    obtain ⟨s', run, overlap⟩ := inv.overlap_of_canFetch left right apart
    have := bounded s' run
    omega
  · intro alone s' run
    have kept : Gate s' ∧ ∀ i, s'.CanFetch i → s.CanFetch i :=
      run.invariant (fun s' => Gate s' ∧ ∀ i, s'.CanFetch i → s.CanFetch i) ⟨inv, fun _ => id⟩
        fun later change ⟨inv, before⟩ => ⟨inv.step change, fun i able =>
          before i (inv.canFetch_of_canFetch change later able)⟩
    exact kept.1.fetches_le_one fun i j left right =>
      alone i j (kept.2 i left) (kept.2 j right)

/-- Every session has one fetch at most in flight. The monitor has, from some state to the next
start, exactly if one session at most can fetch in that state; and from a start to the next one
exactly if no earlier session can fetch at the start: each is cancelled, with none of its calls
past the gate. -/
theorem fetches_le_one_iff (reached : Reachable s) :
    (∀ i, s.fetchesOf i ≤ 1) ∧
    ((∀ s', Runs (fun x => x.isStart = false) s s' → s'.fetches ≤ 1) ↔
      ∀ i j, s.CanFetch i → s.CanFetch j → i = j) ∧
    ∀ name s₁, Moves s (.start name) s₁ →
      ((∀ s', Runs (fun x => x.isStart = false) s₁ s' → s'.fetches ≤ 1) ↔
        ∀ i, ¬ s.CanFetch i) := by
  have inv := reached.gate
  refine ⟨inv.fetchesOf_le_one, inv.bounded_iff_alone, fun name s₁ move => ?_⟩
  rw [(reached.move move).gate.bounded_iff_alone]
  obtain ⟨_, change⟩ := move.transition
  simp only [change.canFetch_of_start]
  constructor
  · intro alone i able
    have same := alone i s.sessions.length (.inl able) (.inr rfl)
    have := inv.lt_of_canFetch able
    omega
  · rintro none i j (able | rfl) (able' | rfl)
    · exact absurd able (none i)
    · exact absurd able (none i)
    · exact absurd able' (none j)
    · rfl

/-- A refresh fetches when its session is stopped for good. -/
def fetchAcrossStop : List Step := refreshedStop ++ [.stopClear 0]

/-- A start in this state is one that lets fetches overlap. -/
theorem fetches_le_one_iff_across_stop :
    ¬ ∀ s', Runs (fun x => x.isStart = false)
      (State.replay (fetchAcrossStop ++ [.start "mesh-a"])) s' → s'.fetches ≤ 1 := by
  have reached : Reachable (.replay fetchAcrossStop) := .replay rfl
  have move : Moves (.replay fetchAcrossStop) (.start "mesh-a")
      (.replay (fetchAcrossStop ++ [.start "mesh-a"])) := rfl
  intro bounded
  have none := ((fetches_le_one_iff reached).2.2 "mesh-a" _ move).mp bounded
  exact none 0 (.inr ⟨⟨0, 0, .refresh, .fetching⟩, .head _, rfl, by simp⟩)

/-- The first cycle of the next session fetches while that refresh does. -/
theorem two_fetches_across_stop :
    let steps := fetchAcrossStop ++ [.start "mesh-a", .begin 1 .poll, .enter 1,
      .status 1 (.started "mesh-a")]
    Reachable (.replay steps) ∧ (State.replay steps).fetches = 2 :=
  ⟨.replay rfl, rfl⟩

end MeshWatch.Monitor
