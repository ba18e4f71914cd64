import MeshWatch.Proofs.Monitor.Overlap

/-!
# Sessions that follow one another

A stop takes its session out of the place before it cancels the session and clears the view, and a
start may come in between. While the new session is installed, the old one can then still publish,
and the rest of its stop clears what the new session shows. Only stops that are under way when a
session starts can do this: if there is none, the view belongs to the session until it is taken
out.
-/
namespace MeshWatch.Monitor

variable {s s' s₁ : State} {x : Step} {a : Option (Task × Answer)} {o : Outcome} {i j : Nat}
  {name : String} {session : Session} {t : Task} {stage : StopStage} {old : List Nat}

/-- The step ends a cycle of this session, which publishes if it can. -/
def State.EndsCycle (s : State) (x : Step) (i : Nat) : Prop :=
  ∃ o t result, step s x = some o ∧ o.answer = some (t, .cycle result) ∧ t.session = i

/-- While a session is installed, the view changes only when a cycle of it ends, or one of a
session that was taken out and not yet cancelled, or when a stop clears the view. -/
theorem Lifecycle.view_change (inv : Lifecycle s) (taken : Monitor.step s x = some o)
    (occupied : s.installed = some i) :
    (o.state.view = s.view ∧ o.state.published = s.published) ∨ s.EndsCycle x i ∨
      ∃ j stage, (j, stage) ∈ s.stops ∧ (s.EndsCycle x j ∨ x = .stopClear j) := by
  have change := Transition.of_step taken
  have publishing : ∀ t result, o.answer = some (t, .cycle result) → s.Live t.session →
      s.EndsCycle x i ∨ ∃ j stage, (j, stage) ∈ s.stops ∧ (s.EndsCycle x j ∨ x = .stopClear j) := by
    intro t result ended live
    rcases (inv.live_iff _).mp live with installed | pending
    · have same : t.session = i := Option.some.inj (installed.symm.trans occupied)
      exact .inl ⟨o, t, result, taken, ended, same⟩
    · exact .inr ⟨t.session, .taken, pending, .inl ⟨o, t, result, taken, ended, rfl⟩⟩
  generalize o.state = s' at change
  generalize o.answer = answer at change publishing
  cases change with
  | start vacant => simp [vacant] at occupied
  | @halt _ t =>
    by_cases live : s.Live t.session
    · exact .inr (publishing t _ rfl live)
    · exact .inl (State.publish_view_of_not_live live)
  | @finish _ t =>
    by_cases live : s.Live t.session
    · exact .inr (publishing t _ rfl live)
    · exact .inl (State.publish_view_of_not_live live)
  | @clear j pending => exact .inr (.inr ⟨j, .cancelled, pending, .inr rfl⟩)
  | begin => exact .inl ⟨rfl, rfl⟩
  | refuse => exact .inl ⟨rfl, rfl⟩
  | accept => exact .inl ⟨rfl, rfl⟩
  | proceed => exact .inl ⟨rfl, rfl⟩
  | deliver => exact .inl ⟨rfl, rfl⟩
  | abandon => exact .inl ⟨rfl, rfl⟩
  | take => exact .inl ⟨rfl, rfl⟩
  | cancel => exact .inl ⟨rfl, rfl⟩

/-! ## From a start to the next take -/

/-- This session is installed, and only these sessions have a stop under way. -/
structure Window (i : Nat) (old : List Nat) (s : State) : Prop where
  installed : s.installed = some i
  pending : ∀ j stage, (j, stage) ∈ s.stops → j ∈ old

theorem Window.step (window : Window i old s) (change : Transition s x s' a)
    (kept : x ≠ .stopTake) : Window i old s' := by
  cases control : x.isControl with
  | false =>
    have same := change.sameStages control
    exact ⟨same.installed ▸ window.installed, same.stops ▸ window.pending⟩
  | true =>
    cases change with
    | start vacant =>
      have occupied := window.installed
      simp [vacant] at occupied
    | take => exact absurd rfl kept
    | cancel =>
      refine ⟨window.installed, fun j stage member => ?_⟩
      obtain ⟨stage', before⟩ := mem_of_mem_markCancelled member
      exact window.pending j stage' before
    | clear =>
      exact ⟨window.installed, fun j stage member =>
        window.pending j stage (List.mem_of_mem_filter member)⟩
    | _ => cases control

theorem Moves.of_start (move : Moves s (.start name) s₁) :
    s₁ = { s.replaceView .cleared with
      sessions := s.sessions ++ [⟨name, false, .initial⟩]
      installed := some s.sessions.length } := by
  obtain ⟨_, change⟩ := move.transition
  cases change with
  | start => rfl

/-! ## A view that is cleared by an earlier stop -/

theorem Moves.status_stopped {id : Nat} {answer : EngineStatus}
    (found : taskIn s id .asking = some (t, session)) (stopped : answer.running = false) :
    Moves s (.status id answer)
      ((s.publish t.session { session.progress with status := answer }).withoutTask t.id) := by
  have answered : (onStatus s t session answer).state =
      (s.publish t.session { session.progress with status := answer }).withoutTask t.id := by
    rw [onStatus, if_neg (Bool.eq_false_iff.mp stopped)]
    rfl
  simp [Moves, Monitor.step, found, answered]

theorem State.publish_status {p : Progress} (live : s.Live i) :
    (s.publish i p).view.status = p.status := by
  rw [State.publish_view_of_live live]
  split
  · rename_i shown
    simp only [Progress.isShownBy, Bool.and_eq_true, decide_eq_true_eq] at shown
    exact shown.1.1.1.1.symm
  · rfl

/-- A live session without calls can come to show any status of an engine that is not running. -/
theorem Gate.show_status (inv : Gate s) (live : s.Live i) (idle : ∀ t ∈ s.tasks, t.session ≠ i)
    (status : EngineStatus) (stopped : status.running = false) :
    ∃ s', Runs (· ≠ .stopTake) s s' ∧ s'.view.status = status ∧ s'.stops = s.stops := by
  let t : Task := ⟨s.nextTask, i, .poll, .waiting⟩
  let begun : State := { s with tasks := s.tasks ++ [t], nextTask := s.nextTask + 1 }
  have beginning : Moves s (.begin i .poll) begun := .begin_poll live.lt
  have inv₁ : Gate begun := inv.of_begin live.lt
  have first : begun.tasks.find? (fun u => u.session == i) = some t := by
    have none_before : s.tasks.find? (fun u => u.session == i) = none :=
      List.find?_eq_none.mpr fun u member => by simpa using idle u member
    simp [begun, List.find?_append, none_before, t]
  have closed : ∀ u ∈ begun.tasks, u.session = i → u.phase = .waiting := by
    intro u member own
    rcases List.mem_append.mp member with before | new
    · exact absurd own (idle u before)
    · obtain rfl := List.mem_singleton.mp new
      rfl
  obtain ⟨member, -, -, turn⟩ := State.isTurnOf_of_first first closed
  obtain ⟨session, found⟩ := inv₁.taskIn_of_mem member
  have open_gate : session.cancelled = false := by
    obtain ⟨-, -, known⟩ := taskIn_eq_some.mp found
    have alive : begun.Live i := live
    rw [State.Live, State.cancelled?_of_session known] at alive
    exact Option.some.inj alive
  have entering : Moves begun (.enter t.id) (begun.withPhase t.id .asking) :=
    .enter_live found turn open_gate
  have inv₂ : Gate (begun.withPhase t.id .asking) := by
    obtain ⟨_, change⟩ := entering.transition
    exact inv₁.step change
  have asking : { t with phase := .asking } ∈ (begun.withPhase t.id .asking).tasks :=
    State.mem_withPhase_self member
  obtain ⟨session', found'⟩ := inv₂.taskIn_of_mem asking
  have answering := Moves.status_stopped found' stopped
  have run : Runs (· ≠ .stopTake) s (begun.withPhase t.id .asking) :=
    (Runs.refl.tail (by simp) beginning).tail (by simp) entering
  have alive : (begun.withPhase t.id .asking).Live i := live
  exact ⟨_, run.tail (by simp) answering, State.publish_status alive, State.publish_stops⟩

/-- A stop that is under way comes to its last step without touching the view. -/
theorem Moves.before_clear (pending : (j, stage) ∈ s.stops) :
    ∃ s', Runs (· ≠ .stopTake) s s' ∧ s'.view = s.view ∧ (j, .cancelled) ∈ s'.stops := by
  cases stage with
  | cancelled => exact ⟨s, .refl, rfl, pending⟩
  | taken =>
    have move : Moves s (.stopCancel j)
        { s.modifySession j fun session => { session with cancelled := true } with
          stops := s.stops.map (markCancelled j) } := by
      simp [Moves, Monitor.step, pending, silent, markCancelled]
    have marked : (j, StopStage.cancelled) ∈ s.stops.map (markCancelled j) :=
      List.mem_map.mpr ⟨_, pending, if_pos rfl⟩
    exact ⟨_, Runs.refl.tail (by simp) move, rfl, marked⟩

/-- Behind a start with a stop under way, a view of the new session can be cleared. -/
theorem Reachable.cleared_by_stop (reached : Reachable s) (move : Moves s (.start name) s₁)
    (pending : (j, stage) ∈ s.stops) : ∃ s₂ s₃, Runs (· ≠ .stopTake) s₁ s₂ ∧
      Moves s₂ (.stopClear j) s₃ ∧ s₃.view ≠ s₂.view := by
  have inv := (reached.move move).gate
  have life := (reached.move move).lifecycle
  have started := move.of_start
  have installed : s₁.installed = some s.sessions.length := by rw [started]
  have live : s₁.Live s.sessions.length := (life.live_iff _).mpr (.inl installed)
  have idle : ∀ t ∈ s₁.tasks, t.session ≠ s.sessions.length := by
    intro t member
    rw [started] at member
    exact Nat.ne_of_lt (reached.gate.known t member)
  obtain ⟨s₂, run, shown, stops⟩ :=
    inv.show_status live idle { EngineStatus.stopped with instanceName := "stopped" } rfl
  have pending₂ : (j, stage) ∈ s₂.stops := by
    rw [stops, started]
    exact pending
  obtain ⟨s₃, run', same, pending₃⟩ := Moves.before_clear pending₂
  have clearing : Moves s₃ (.stopClear j) { s₃.replaceView .cleared with
      stops := s₃.stops.filter fun stop => stop ≠ (j, .cancelled) } := by
    simp [Moves, Monitor.step, pending₃, silent]
  refine ⟨s₃, _, run.trans run', clearing, fun cleared => ?_⟩
  have differs : "" ≠ "stopped" := by decide
  have name_shown := congrArg (·.status.instanceName) cleared
  rw [same, shown] at name_shown
  exact differs name_shown

/-- From a start to the next take, the view changes only when a cycle of the new session ends, or
through a session whose stop was under way at the start; and nothing but the new session's cycles
changes it, whatever happens, exactly if no stop was under way at the start. -/
theorem isolated_iff_no_stop (reached : Reachable s) (move : Moves s (.start name) s₁) :
    (∀ s₂ x o, Runs (· ≠ .stopTake) s₁ s₂ → Monitor.step s₂ x = some o →
      (o.state.view = s₂.view ∧ o.state.published = s₂.published) ∨
      s₂.EndsCycle x s.sessions.length ∨
      ∃ j ∈ s.stops.map Prod.fst, s₂.EndsCycle x j ∨ x = .stopClear j) ∧
    ((∀ s₂ x s₃, Runs (· ≠ .stopTake) s₁ s₂ → Moves s₂ x s₃ →
      ¬ s₂.EndsCycle x s.sessions.length → s₃.view = s₂.view) ↔ s.stops = []) := by
  have window : Window s.sessions.length (s.stops.map Prod.fst) s₁ := by
    rw [move.of_start]
    exact ⟨rfl, fun j stage member => List.mem_map_of_mem member⟩
  have changer : ∀ s₂ x o, Runs (· ≠ .stopTake) s₁ s₂ → Monitor.step s₂ x = some o →
      (o.state.view = s₂.view ∧ o.state.published = s₂.published) ∨
      s₂.EndsCycle x s.sessions.length ∨
      ∃ j ∈ s.stops.map Prod.fst, s₂.EndsCycle x j ∨ x = .stopClear j := by
    intro s₂ x o run taken
    have window₂ : Window s.sessions.length (s.stops.map Prod.fst) s₂ :=
      run.invariant _ window fun kept change inv => inv.step change kept
    have inv : Lifecycle s₂ := ((reached.move move).runs run).lifecycle
    rcases inv.view_change taken window₂.installed with same | own | ⟨j, stage, member, by_other⟩
    · exact .inl same
    · exact .inr (.inl own)
    · exact .inr (.inr ⟨j, window₂.pending j stage member, by_other⟩)
  refine ⟨changer, ?_, ?_⟩
  · intro isolated
    by_contra some_stop
    obtain ⟨⟨j, stage⟩, pending⟩ := List.exists_mem_of_ne_nil _ some_stop
    obtain ⟨s₂, s₃, run, clearing, differs⟩ := reached.cleared_by_stop move pending
    refine differs (isolated s₂ _ s₃ run clearing ?_)
    rintro ⟨o, t, result, taken, ended, -⟩
    have change := Transition.of_step taken
    rw [ended] at change
    generalize o.state = s' at change
    cases change
  · rintro calm s₂ x s₃ run moved foreign
    obtain ⟨o, taken, rfl⟩ := Option.map_eq_some_iff.mp moved
    rcases changer s₂ x o run taken with same | own | ⟨j, member, -⟩
    · exact same.1
    · exact absurd own foreign
    · simp [calm] at member

/-- A refresh fetches while the stop of its session has only taken the session out. -/
def stopBegun : List Step :=
  [.start "mesh-a", .begin 0 .refresh, .enter 0, .status 0 (.started "mesh-a"), .stopTake]

/-- The next session starts, and a cycle of it shows the status of its engine. -/
def nextShown : List Step :=
  stopBegun ++ [.start "mesh-b", .begin 1 .poll, .enter 1, .status 1 (.started "mesh-b"),
    .fetched 1 none]

/-- A start in this state is one whose session does not keep the view for itself. -/
theorem isolated_iff_no_stop_begun : ¬ ∀ s₂ x s₃,
    Runs (· ≠ .stopTake) (State.replay (stopBegun ++ [.start "mesh-b"])) s₂ → Moves s₂ x s₃ →
      ¬ s₂.EndsCycle x 1 → s₃.view = s₂.view := by
  have reached : Reachable (.replay stopBegun) := .replay rfl
  have move : Moves (.replay stopBegun) (.start "mesh-b")
      (.replay (stopBegun ++ [.start "mesh-b"])) := rfl
  intro isolated
  have calm : (State.replay stopBegun).stops = [] :=
    (isolated_iff_no_stop reached move).2.mp isolated
  cases calm

/-- With the second session installed throughout, the first one's refresh shows its own status in
place of the second one's, and its stop clears the view. -/
theorem overwritten_and_cleared_by_earlier_session :
    let late := nextShown ++ [.fetched 0 none]
    let cleared := nextShown ++ [.stopCancel 0, .stopClear 0]
    Reachable (.replay nextShown) ∧ (State.replay nextShown).view.status = .started "mesh-b" ∧
    Reachable (.replay late) ∧ (State.replay late).installed = some 1 ∧
    (State.replay late).view.status = .started "mesh-a" ∧
    Reachable (.replay cleared) ∧ (State.replay cleared).installed = some 1 ∧
    (State.replay cleared).view = .cleared :=
  ⟨.replay rfl, rfl, .replay rfl, rfl, rfl, .replay rfl, rfl, rfl⟩

end MeshWatch.Monitor
