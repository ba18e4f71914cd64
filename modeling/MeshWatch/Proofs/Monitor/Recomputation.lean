import MeshWatch.Proofs.Monitor.Journal

/-!
# The published view, computed anew

A session does not compute its view from the beginning. It keeps the translation of records that
did not change, and it publishes nothing if status, topology, latest events and the length and the
last record of the history are those of the view that is published. In observed runs neither makes
a difference: the history that is published by the live session is a beginning of the session's
own, so that equal length is equality, and the kept translation is always that of the kept records.
-/
namespace MeshWatch.Monitor

variable {s s' : State} {j j' : Journal} {x : Step} {a : Option (Task × Answer)} {i k : Nat}
  {p : Progress} {t u : Task} {session : Session} {snapshots : List Snapshot} {name : String}

/-! ## Progress -/

/-- Apart from the status, the progress is what these snapshots make of it. -/
structure Progress.Follows (p : Progress) (snapshots : List Snapshot) : Prop where
  topology : p.topology = snapshots.getLast?.map (·.topology)
  history : p.history =
    snapshots.foldl (fun h snapshot => (h.absorb snapshot.records).2) .empty
  latestRecords : p.latestRecords = (snapshots.getLast?.map (·.records)).getD []
  latest : p.latest = Event.translateAll p.latestRecords

namespace Progress.Follows

theorem initial : Progress.initial.Follows [] := ⟨rfl, rfl, rfl, rfl⟩

theorem withStatus (follows : p.Follows snapshots) (status : EngineStatus) :
    { p with status := status }.Follows snapshots :=
  ⟨follows.topology, follows.history, follows.latestRecords, follows.latest⟩

/-- A cycle that is not given a snapshot. -/
theorem afterStatus (follows : p.Follows snapshots) (status : EngineStatus) :
    { p with status := status }.Follows
      (snapshots ++ (Cycle.snapshot? ⟨status, none⟩ name).toList) := by
  have nothing : (Cycle.snapshot? ⟨status, none⟩ name).toList = [] := rfl
  rw [nothing, List.append_nil]
  exact follows.withStatus status

theorem afterSnapshot (follows : p.Follows snapshots) (snapshot : Snapshot) :
    (p.afterSnapshot snapshot).2.Follows (snapshots ++ [snapshot]) := by
  have grown : (p.history.absorb snapshot.records).2 =
      (snapshots ++ [snapshot]).foldl (fun h snapshot => (h.absorb snapshot.records).2) .empty := by
    rw [List.foldl_concat, ← follows.history]
  simp only [Progress.afterSnapshot, Progress.withLatest]
  by_cases unchanged : snapshot.records = p.latestRecords
  · rw [if_pos unchanged]
    refine ⟨by simp, grown, by simp [unchanged], follows.latest⟩
  · rw [if_neg unchanged]
    exact ⟨by simp, grown, by simp, rfl⟩

theorem afterFetch (follows : p.Follows snapshots) (status : EngineStatus)
    (answer : Option String) :
    (p.afterFetch name answer).Follows
      (snapshots ++ (Cycle.snapshot? ⟨status, answer⟩ name).toList) := by
  cases answer with
  | none => simpa [Progress.afterFetch, Cycle.snapshot?] using follows
  | some text =>
    cases decoded : Snapshot.decode text name with
    | error e =>
      simpa [Progress.afterFetch, Cycle.snapshot?, decoded, Except.toOption] using follows
    | ok snapshot =>
      simpa [Progress.afterFetch, Cycle.snapshot?, decoded, Except.toOption] using
        follows.afterSnapshot snapshot

theorem view_eq {cycles : List Cycle}
    (follows : p.Follows (cycles.filterMap (·.snapshot? name)))
    (status : cycles.getLast?.map (·.status) = some p.status) :
    p.view = View.recomputed name cycles := by
  have latest : p.latest = ((cycles.filterMap (·.snapshot? name)).getLast?.map
      fun snapshot => Event.translateAll snapshot.records).getD [] := by
    rw [follows.latest, follows.latestRecords]
    cases (cycles.filterMap (·.snapshot? name)).getLast? <;> rfl
  simp only [Progress.view, View.recomputed, status, Option.getD_some]
  rw [← follows.topology, ← follows.history, ← latest]

end Progress.Follows

@[simp]
theorem Progress.status_afterFetch (p : Progress) (name : String) (answer : Option String) :
    (p.afterFetch name answer).status = p.status := by
  unfold Progress.afterFetch
  split
  · rfl
  · split
    · rfl
    · simp only [Progress.afterSnapshot, Progress.withLatest]
      split <;> rfl

theorem Progress.prefix_afterFetch (p : Progress) (name : String) (answer : Option String) :
    p.history.records <+: (p.afterFetch name answer).history.records := by
  unfold Progress.afterFetch
  split
  · exact List.prefix_refl _
  · split
    · exact List.prefix_refl _
    · simp only [Progress.afterSnapshot, Progress.withLatest]
      split <;> exact p.history.prefix_absorb _

/-! ## Publishing -/

/-- A view whose history is a beginning of the session's own is compared rightly. -/
theorem Progress.eq_of_isShownBy {v : View} (shown : p.isShownBy v = true)
    (older : v.history.records <+: p.history.records) : v = p.view := by
  simp only [Progress.isShownBy, Bool.and_eq_true, decide_eq_true_eq, beq_iff_eq] at shown
  obtain ⟨⟨⟨⟨status, length⟩, -⟩, topology⟩, latest⟩ := shown
  have records : v.history.records = p.history.records := older.eq_of_length length.symm
  cases v
  simp only [Progress.view, View.mk.injEq]
  exact ⟨status.symm, topology.symm, congrArg History.mk records, latest.symm⟩

theorem State.publish_view (live : s.Live i)
    (older : s.view.history.records <+: p.history.records) : (s.publish i p).view = p.view := by
  rw [State.publish_view_of_live live]
  split
  · rename_i shown
    exact Progress.eq_of_isShownBy shown older
  · rfl

/-! ## The journal of a step -/

namespace Journal

theorem cycles_close {c : Cycle} :
    (j.close i c).cycles k = j.cycles k ++ if i = k then [c] else [] := by
  by_cases same : i = k <;> simp [close, cycles, same]

theorem filterMap_close {c : Cycle} :
    ((j.close i c).cycles i).filterMap (·.snapshot? name) =
      (j.cycles i).filterMap (·.snapshot? name) ++ (c.snapshot? name).toList := by
  rw [cycles_close, if_pos rfl, List.filterMap_append]
  cases found : c.snapshot? name <;> simp [found]

theorem note_running {id : Nat} {answer : EngineStatus}
    (found : taskIn s id .asking = some (t, session)) (running : answer.running = true) :
    j.note s (.status id answer) = j.ask id answer := by
  simp [note, found, running]

theorem note_stopped {id : Nat} {answer : EngineStatus}
    (found : taskIn s id .asking = some (t, session)) (stopped : answer.running = false) :
    j.note s (.status id answer) = j.close t.session ⟨answer, none⟩ := by
  simp [note, found, stopped]

theorem note_raw {id : Nat} {answer : Option String}
    (found : taskIn s id .fetching = some (t, session)) (raw : t.call = .rawSnapshot) :
    j.note s (.fetched id answer) = j := by
  cases asked : j.asked.lookup id <;> simp [note, found, asked, raw]

theorem note_fetched {id : Nat} {answer : Option String} {status : EngineStatus}
    (found : taskIn s id .fetching = some (t, session)) (cycle : t.call ≠ .rawSnapshot)
    (asked : j.asked.lookup id = some status) :
    j.note s (.fetched id answer) = j.close t.session ⟨status, answer⟩ := by
  simp [note, found, asked, cycle]

end Journal

/-! ## What the journal says about the state -/

/-- Every session follows its cycles, every fetch knows the status answer before it, and what is
published began with a live session's history. -/
structure Recorded (s : State) (j : Journal) : Prop where
  follows : ∀ i session, s.session? i = some session →
    session.progress.Follows ((j.cycles i).filterMap (·.snapshot? session.name))
  asked : ∀ t ∈ s.tasks, t.call ≠ .rawSnapshot → t.phase = .fetching →
    j.asked.lookup t.id = (s.session? t.session).map (·.progress.status)
  shown : ∀ i session, s.session? i = some session → s.Live i →
    s.view.history.records <+: session.progress.history.records
  known : ∀ i, s.sessions.length ≤ i → j.cycles i = []

namespace Recorded

theorem initial : Recorded .initial .empty where
  follows := by simp [State.session?, State.initial]
  asked := by simp [State.initial]
  shown := by simp [State.session?, State.initial]
  known _ _ := rfl

/-- Changes that touch no progress, begin no fetch of a cycle and show no other view. -/
theorem of_same (record : Recorded s j)
    (sessions : ∀ i, (s'.session? i).map (fun session => (session.name, session.progress)) =
      (s.session? i).map fun session => (session.name, session.progress))
    (length : s'.sessions.length = s.sessions.length)
    (tasks : ∀ t ∈ s'.tasks, t.call ≠ .rawSnapshot → t.phase = .fetching → t ∈ s.tasks)
    (view : s'.view = .cleared ∨ s'.view = s.view ∧ ∀ i, s'.Live i → s.Live i) :
    Recorded s' j := by
  have old : ∀ i session, s'.session? i = some session → ∃ before, s.session? i = some before ∧
      before.name = session.name ∧ before.progress = session.progress := by
    intro i session found
    have same := sessions i
    rw [found, Option.map_some, eq_comm] at same
    obtain ⟨before, found', same⟩ := Option.map_eq_some_iff.mp same
    exact ⟨before, found', (Prod.mk.inj same).1, (Prod.mk.inj same).2⟩
  constructor
  · intro i session found
    obtain ⟨before, found', named, progressed⟩ := old i session found
    rw [← named, ← progressed]
    exact record.follows i before found'
  · intro t member cycle fetching
    have statuses := congrArg (Option.map fun pair => pair.2.status) (sessions t.session)
    rw [Option.map_map, Option.map_map] at statuses
    exact (record.asked t (tasks t member cycle fetching) cycle fetching).trans statuses.symm
  · intro i session found live
    rcases view with cleared | ⟨same, lives⟩
    · rw [cleared]
      exact List.nil_prefix
    · obtain ⟨before, found', -, progressed⟩ := old i session found
      rw [same, ← progressed]
      exact record.shown i before found' (lives i live)
  · rw [length]
    exact record.known

theorem of_start (record : Recorded s j) (gate : Gate s) :
    Recorded { s.replaceView .cleared with
      sessions := s.sessions ++ [⟨name, false, .initial⟩]
      installed := some s.sessions.length } j where
  follows i session found := by
    rcases Nat.lt_or_ge i s.sessions.length with before | after
    · exact record.follows i session ((List.getElem?_append_left before).symm.trans found)
    · have only : session = ⟨name, false, .initial⟩ := by
        have member := List.mem_of_getElem? ((List.getElem?_append_right after).symm.trans found)
        exact List.mem_singleton.mp member
      rw [record.known i after, only]
      exact .initial
  asked t member cycle fetching := by
    have before := gate.known t member
    refine (record.asked t member cycle fetching).trans ?_
    exact congrArg (Option.map _) (List.getElem?_append_left before).symm
  shown i session found live := List.nil_prefix
  known i after := by
    rw [List.length_append] at after
    exact record.known i (by omega)

theorem follows_withProgress (record : Recorded s j) (found : s.session? i = some session)
    (own : p.Follows ((j'.cycles i).filterMap (·.snapshot? session.name)))
    (others : ∀ k, i ≠ k → j'.cycles k = j.cycles k) :
    ∀ k session', (s.withProgress i p).session? k = some session' →
      session'.progress.Follows ((j'.cycles k).filterMap (·.snapshot? session'.name)) := by
  intro k session' found'
  by_cases same : i = k
  · subst same
    rw [State.session?_withProgress_self found] at found'
    obtain rfl := Option.some.inj found'
    exact own
  · rw [State.session?_withProgress_ne same] at found'
    rw [others k same]
    exact record.follows k session' found'

/-- A fetch other than the call at hand is in another session. -/
theorem asked_withProgress (record : Recorded s j) (gate : Gate s) (member : t ∈ s.tasks)
    (past : t.phase ≠ .waiting) (other : u ∈ s.tasks) (distinct : u.id ≠ t.id)
    (cycle : u.call ≠ .rawSnapshot) (fetching : u.phase = .fetching) :
    j.asked.lookup u.id =
      ((s.withProgress t.session p).session? u.session).map (·.progress.status) := by
  have apart : t.session ≠ u.session := by
    intro same
    exact distinct (congrArg Task.id
      (gate.exclusive u other t member same.symm (by simp [fetching]) past))
  rw [State.session?_withProgress_ne apart]
  exact record.asked u other cycle fetching

theorem shown_publish (record : Recorded s j) (alone : ∀ i k, s.Live i → s.Live k → i = k)
    (found : s.session? i = some session)
    (grown : session.progress.history.records <+: p.history.records) :
    ∀ k session', (s.withProgress i p).session? k = some session' → s.Live k →
      (s.publish i p).view.history.records <+: session'.progress.history.records := by
  intro k session' found' live
  by_cases same : i = k
  · subst same
    rw [State.session?_withProgress_self found] at found'
    obtain rfl := Option.some.inj found'
    rw [State.publish_view live ((record.shown i session found live).trans grown)]
    exact List.prefix_refl _
  · rw [State.session?_withProgress_ne same] at found'
    have dead : ¬ s.Live i := fun live' => same (alone i k live' live)
    rw [(State.publish_view_of_not_live dead).1]
    exact record.shown k session' found' live

theorem known_close {c : Cycle} (record : Recorded s j) (found : s.session? i = some session) :
    ∀ k, s.sessions.length ≤ k → (j.close i c).cycles k = [] := by
  intro k after
  have distinct : i ≠ k := by
    have := State.lt_of_session found
    omega
  rw [Journal.cycles_close, if_neg distinct, List.append_nil, record.known k after]

theorem of_proceed {id : Nat} {answer : EngineStatus} (record : Recorded s j) (gate : Gate s)
    (found : taskIn s id .asking = some (t, session)) :
    Recorded ((s.withProgress t.session { session.progress with status := answer }).withPhase t.id
      .fetching) (j.ask id answer) := by
  obtain ⟨at_id, asking, in_session⟩ := taskIn_eq_some.mp found
  obtain ⟨member, rfl⟩ := State.mem_of_task? at_id
  constructor
  · exact record.follows_withProgress in_session ((record.follows _ _ in_session).withStatus answer)
      fun _ _ => rfl
  · intro u moved cycle fetching
    obtain ⟨v, other, rfl⟩ := State.mem_withPhase.mp moved
    by_cases same : v.id = t.id
    · obtain rfl := gate.eq_of_id other member same
      rw [if_pos rfl, State.session?_withPhase, State.session?_withProgress_self in_session]
      simp [Journal.ask]
    · rw [if_neg same] at cycle fetching ⊢
      have kept : (j.ask t.id answer).asked.lookup v.id = j.asked.lookup v.id := by
        have differs : (v.id == t.id) = false := by simpa using same
        simp [Journal.ask, List.lookup_cons, differs]
      rw [kept]
      exact record.asked_withProgress gate member (by simp [asking]) other same cycle fetching
  · intro k session' found' live
    rw [State.Live, State.cancelled?_withPhase, State.cancelled?_withProgress] at live
    rw [State.session?_withPhase] at found'
    by_cases same : t.session = k
    · subst same
      rw [State.session?_withProgress_self in_session] at found'
      obtain rfl := Option.some.inj found'
      exact record.shown t.session session in_session live
    · rw [State.session?_withProgress_ne same] at found'
      exact record.shown k session' found' live
  · intro k after
    exact record.known k (Nat.le_trans (Nat.le_of_eq (List.length_modify _ _ _).symm) after)

/-- A cycle ends: its session publishes, and the journal has one entry more. -/
theorem of_publish {c : Cycle} (record : Recorded s j) (gate : Gate s)
    (alone : ∀ i k, s.Live i → s.Live k → i = k) (member : t ∈ s.tasks) (past : t.phase ≠ .waiting)
    (found : s.session? t.session = some session)
    (grown : session.progress.history.records <+: p.history.records)
    (follows : p.Follows ((j.cycles t.session).filterMap (·.snapshot? session.name) ++
      (c.snapshot? session.name).toList)) :
    Recorded ((s.publish t.session p).withoutTask t.id) (j.close t.session c) := by
  constructor
  · intro k session' found'
    rw [State.session?_withoutTask, State.session?_publish] at found'
    refine record.follows_withProgress found ?_ (fun k other => ?_) k session' found'
    · rw [Journal.filterMap_close]
      exact follows
    · rw [Journal.cycles_close, if_neg other, List.append_nil]
  · intro u kept cycle fetching
    obtain ⟨other, distinct⟩ := List.mem_filter.mp kept
    rw [State.publish_tasks] at other
    rw [State.session?_withoutTask, State.session?_publish]
    exact record.asked_withProgress gate member past other (by simpa using distinct) cycle fetching
  · intro k session' found' live
    rw [State.session?_withoutTask, State.session?_publish] at found'
    rw [State.Live, State.cancelled?_withoutTask, State.cancelled?_publish] at live
    exact record.shown_publish alone found grown k session' found' live
  · intro k after
    have length : ((s.publish t.session p).withoutTask t.id).sessions.length = s.sessions.length :=
      State.sessions_length_publish
    exact record.known_close found k (length ▸ after)

/-- The status answer that a cycle has got before its fetch. -/
theorem lookup_asked {id : Nat} (record : Recorded s j)
    (found : taskIn s id .fetching = some (t, session)) (cycle : t.call ≠ .rawSnapshot) :
    j.asked.lookup id = some session.progress.status := by
  obtain ⟨at_id, fetching, in_session⟩ := taskIn_eq_some.mp found
  obtain ⟨member, rfl⟩ := State.mem_of_task? at_id
  rw [record.asked t member cycle fetching, in_session, Option.map_some]

theorem of_halt {id : Nat} {answer : EngineStatus} (record : Recorded s j) (gate : Gate s)
    (alone : ∀ i k, s.Live i → s.Live k → i = k)
    (found : taskIn s id .asking = some (t, session)) :
    Recorded ((s.publish t.session { session.progress with status := answer }).withoutTask t.id)
      (j.close t.session ⟨answer, none⟩) := by
  obtain ⟨at_id, asking, in_session⟩ := taskIn_eq_some.mp found
  exact record.of_publish gate alone (State.mem_of_task? at_id).1 (by simp [asking]) in_session
    (List.prefix_refl _) ((record.follows _ _ in_session).afterStatus answer)

theorem of_finish {id : Nat} {answer : Option String} (record : Recorded s j) (gate : Gate s)
    (alone : ∀ i k, s.Live i → s.Live k → i = k)
    (found : taskIn s id .fetching = some (t, session)) :
    Recorded ((s.publish t.session
      (session.progress.afterFetch session.name answer)).withoutTask t.id)
      (j.close t.session ⟨session.progress.status, answer⟩) := by
  obtain ⟨at_id, fetching, in_session⟩ := taskIn_eq_some.mp found
  exact record.of_publish gate alone (State.mem_of_task? at_id).1 (by simp [fetching]) in_session
    (Progress.prefix_afterFetch ..) ((record.follows _ _ in_session).afterFetch _ answer)

theorem of_stop (record : Recorded s j) (change : Transition s x s' a) (stop : x.isStop = true) :
    Recorded s' j := by
  cases change with
  | take =>
    exact record.of_same (fun _ => rfl) rfl (fun _ member _ _ => member)
      (.inr ⟨rfl, fun _ live => live⟩)
  | @cancel i =>
    refine record.of_same (fun k => ?_) (List.length_modify _ _ _) (fun _ member _ _ => member)
      (.inr ⟨rfl, fun k live => (State.live_cancel.mp live).1⟩)
    by_cases same : i = k
    · subst same
      simp only [State.session?, State.modifySession, List.getElem?_modify_eq]
      cases s.sessions[i]? <;> rfl
    · simp [State.session?, State.modifySession, same]
  | clear =>
    exact record.of_same (fun _ => rfl) rfl (fun _ member _ _ => member) (.inl rfl)
  | _ => cases stop

theorem step (record : Recorded s j) (gate : Gate s) (alone : ∀ i k, s.Live i → s.Live k → i = k)
    (change : Transition s x s' a) (other : x.isStop = false) : Recorded s' (j.note s x) := by
  have without : ∀ id, Recorded (s.withoutTask id) j := fun id =>
    record.of_same (fun _ => rfl) rfl (fun _ member _ _ => List.mem_of_mem_filter member)
      (.inr ⟨rfl, fun _ live => live⟩)
  cases change with
  | start => exact record.of_start gate
  | begin =>
    refine record.of_same (fun _ => rfl) rfl (fun t member _ fetching => ?_)
      (.inr ⟨rfl, fun _ live => live⟩)
    rcases List.mem_append.mp member with old | new
    · exact old
    · obtain rfl := List.mem_singleton.mp new
      cases fetching
  | refuse => exact without _
  | @accept _ t _ found =>
    obtain ⟨at_id, -, -⟩ := taskIn_eq_some.mp found
    refine record.of_same (fun _ => rfl) rfl (fun u moved cycle fetching => ?_)
      (.inr ⟨rfl, fun _ live => live⟩)
    obtain ⟨v, old, rfl⟩ := State.mem_withPhase.mp moved
    by_cases same : v.id = t.id
    · obtain rfl := gate.eq_of_id old (State.mem_of_task? at_id).1 same
      rw [if_pos rfl] at cycle fetching
      exact absurd fetching (v.call.firstPhase_ne_fetching cycle)
    · rw [if_neg same]
      exact old
  | proceed found running =>
    rw [Journal.note_running found running]
    exact record.of_proceed gate found
  | halt found stopped =>
    rw [Journal.note_stopped found stopped]
    exact record.of_halt gate alone found
  | deliver found raw =>
    rw [Journal.note_raw found raw]
    exact without _
  | finish found cycle =>
    rw [Journal.note_fetched found cycle (record.lookup_asked found cycle)]
    exact record.of_finish gate alone found
  | abandon => exact without _
  | _ => cases other

end Recorded

theorem Observed.recorded (observed : Observed s j) : Recorded s j := by
  induction observed with
  | initial => exact .initial
  | step before other taken ih =>
    exact ih.step before.reachable.gate (fun _ _ => before.alone) (.of_step taken) other
  | stop _ take cancel clear ih =>
    obtain ⟨_, taking⟩ := take.transition
    obtain ⟨_, cancelling⟩ := cancel.transition
    obtain ⟨_, clearing⟩ := clear.transition
    exact ((ih.of_stop taking rfl).of_stop cancelling rfl).of_stop clearing rfl

theorem Journal.getLast?_close {c : Cycle} : ((j.close i c).cycles i).getLast? = some c := by
  rw [cycles_close, if_pos rfl]
  exact List.getLast?_concat

/-- What a live session publishes at the end of a cycle. -/
theorem Recorded.published {c : Cycle} (record : Recorded s j) (live : s.Live i)
    (found : s.session? i = some session)
    (grown : session.progress.history.records <+: p.history.records)
    (follows : p.Follows ((j.cycles i).filterMap (·.snapshot? session.name) ++
      (c.snapshot? session.name).toList))
    (status : c.status = p.status) :
    (s.publish i p).view = View.recomputed session.name ((j.close i c).cycles i) := by
  have older : s.view.history.records <+: p.history.records :=
    (record.shown i session found live).trans grown
  rw [State.publish_view live older]
  refine Progress.Follows.view_eq ?_ ?_
  · rw [Journal.filterMap_close]
    exact follows
  · rw [Journal.getLast?_close, Option.map_some, status]

/-- Whenever a cycle of a live session comes to its end, with success or not, the view that is
published afterwards is the one computed anew from the answers to the session's cycles, those of
this cycle included. -/
theorem published_view_recomputed {o : Outcome} {result : Except CycleError Report}
    (observed : Observed s j) (taken : step s x = some o)
    (ended : o.answer = some (t, .cycle result)) (live : s.Live t.session) :
    ∃ session, s.session? t.session = some session ∧
      o.state.view = View.recomputed session.name ((j.note s x).cycles t.session) := by
  have record := observed.recorded
  have change := Transition.of_step taken
  rw [ended] at change
  generalize o.state = s' at change
  cases change with
  | refuse found _ cancelled =>
    obtain ⟨-, -, in_session⟩ := taskIn_eq_some.mp found
    rw [State.Live, State.cancelled?_of_session in_session, cancelled] at live
    cases live
  | @halt _ _ session answer found stopped =>
    obtain ⟨-, -, in_session⟩ := taskIn_eq_some.mp found
    refine ⟨session, in_session, ?_⟩
    rw [Journal.note_stopped found stopped]
    exact record.published live in_session (List.prefix_refl _)
      ((record.follows _ _ in_session).afterStatus answer) rfl
  | @finish _ _ session answer found cycle =>
    obtain ⟨-, -, in_session⟩ := taskIn_eq_some.mp found
    refine ⟨session, in_session, ?_⟩
    rw [Journal.note_fetched found cycle (record.lookup_asked found cycle)]
    exact record.published live in_session (Progress.prefix_afterFetch ..)
      ((record.follows _ _ in_session).afterFetch _ answer) (Progress.status_afterFetch ..).symm

/-- The first poll of a session is dropped while it fetches, a refresh goes on to its fetch. -/
def droppedFetch : List Step :=
  [.start "mesh-a", .begin 0 .poll, .enter 0, .status 0 (.started "first"), .abandon 0,
    .begin 0 .refresh, .enter 1, .status 1 (.started "second")]

/-- The refresh gets no snapshot; of the dropped poll nothing is published. -/
theorem published_view_recomputed_after_dropped_fetch :
    ∃ o, step (.replay droppedFetch) (.fetched 1 none) = some o ∧
      o.state.view = View.recomputed "mesh-a" [⟨.started "second", none⟩] := by
  have asking := Observed.initial
    |>.step (x := .start "mesh-a") rfl rfl
    |>.step (x := .begin 0 .poll) rfl rfl
    |>.step (x := .enter 0) rfl rfl
    |>.step (x := .status 0 (.started "first")) rfl rfl
    |>.step (x := .abandon 0) rfl rfl
  have fetching := asking
    |>.step (x := .begin 0 .refresh) rfl rfl
    |>.step (x := .enter 1) rfl rfl
    |>.step (x := .status 1 (.started "second")) rfl rfl
  obtain ⟨session, found, same⟩ := published_view_recomputed
    (t := ⟨1, 0, .refresh, .fetching⟩) (x := .fetched 1 none) fetching rfl rfl rfl
  obtain rfl := Option.some.inj found
  exact ⟨_, rfl, same⟩

end MeshWatch.Monitor
