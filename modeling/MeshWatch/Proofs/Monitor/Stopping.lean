import Mathlib.Data.List.Nodup
import MeshWatch.Proofs.Monitor.Transition

/-!
# Stopping a session

A session is installed, then taken out of its place, then cancelled, then done with, and other
steps may come between these. The invariant ties the mark of being cancelled to the stage that a
session is in, for every session that was ever started. From it follows that a session whose stop
has cleared the view never publishes again, however late its calls go on, and that the view is
cleared whenever nothing is installed and no stop is under way.
-/
namespace MeshWatch.Monitor

variable {s s' : State} {x : Step} {a : Option (Task × Answer)} {i j : Nat}

/-- Starting and stopping, as opposed to the steps of calls. -/
def Step.isControl : Step → Bool
  | .start _ | .stopTake | .stopCancel _ | .stopClear _ => true
  | _ => false

/-- The session that a step belongs to. -/
def State.sessionOf? (s : State) : Step → Option Nat
  | .start _ => some s.sessions.length
  | .begin i _ => some i
  | .enter id | .status id _ | .fetched id _ | .abandon id => (s.task? id).map (·.session)
  | .stopTake => s.installed
  | .stopCancel i | .stopClear i => some i

theorem State.sessionOf?_of_taskIn {id : Nat} {phase : Phase} {t : Task} {session : Session}
    (found : taskIn s id phase = some (t, session)) :
    (s.task? id).map (·.session) = some t.session := by
  rw [(taskIn_eq_some.mp found).1, Option.map_some]

/-! ## What the steps of calls leave alone -/

structure SameStages (s s' : State) : Prop where
  length : s'.sessions.length = s.sessions.length
  cancelled : ∀ i, s'.cancelled? i = s.cancelled? i
  installed : s'.installed = s.installed
  stops : s'.stops = s.stops

theorem Transition.sameStages (change : Transition s x s' a) (call : x.isControl = false) :
    SameStages s s' := by
  cases change with
  | begin => exact ⟨rfl, fun _ => rfl, rfl, rfl⟩
  | refuse => exact ⟨rfl, fun _ => rfl, rfl, rfl⟩
  | accept => exact ⟨rfl, fun _ => rfl, rfl, rfl⟩
  | proceed => exact ⟨List.length_modify _ _ _, fun _ => State.cancelled?_withProgress, rfl, rfl⟩
  | halt =>
    exact ⟨State.sessions_length_publish, fun _ => State.cancelled?_publish,
      State.publish_installed, State.publish_stops⟩
  | deliver => exact ⟨rfl, fun _ => rfl, rfl, rfl⟩
  | finish =>
    exact ⟨State.sessions_length_publish, fun _ => State.cancelled?_publish,
      State.publish_installed, State.publish_stops⟩
  | abandon => exact ⟨rfl, fun _ => rfl, rfl, rfl⟩
  | _ => cases call

/-- A call shows nothing unless its session is live. -/
theorem Transition.view_of_not_live (change : Transition s x s' a) (call : x.isControl = false)
    (dead : ∀ i, s.sessionOf? x = some i → ¬ s.Live i) :
    s'.view = s.view ∧ s'.published = s.published := by
  cases change with
  | begin => exact ⟨rfl, rfl⟩
  | refuse => exact ⟨rfl, rfl⟩
  | accept => exact ⟨rfl, rfl⟩
  | proceed => exact ⟨rfl, rfl⟩
  | halt found => exact State.publish_view_of_not_live (dead _ (State.sessionOf?_of_taskIn found))
  | deliver => exact ⟨rfl, rfl⟩
  | finish found =>
    exact State.publish_view_of_not_live (dead _ (State.sessionOf?_of_taskIn found))
  | abandon => exact ⟨rfl, rfl⟩
  | _ => cases call

/-! ## The stages of a session -/

/-- Every session is installed, or on its way through a stop, or cancelled for good. -/
structure Lifecycle (s : State) : Prop where
  live_iff : ∀ i, s.Live i ↔ s.installed = some i ∨ (i, .taken) ∈ s.stops
  known : ∀ i stage, (i, stage) ∈ s.stops → i < s.sessions.length
  apart : ∀ i stage, s.installed = some i → (i, stage) ∉ s.stops
  once : (s.stops.map Prod.fst).Nodup

theorem Lifecycle.of_sameStages (inv : Lifecycle s) (same : SameStages s s') : Lifecycle s' where
  live_iff i := by
    rw [State.Live, same.cancelled, same.installed, same.stops]
    exact inv.live_iff i
  known := by
    rw [same.length, same.stops]
    exact inv.known
  apart := by
    rw [same.installed, same.stops]
    exact inv.apart
  once := by
    rw [same.stops]
    exact inv.once

theorem Lifecycle.initial : Lifecycle .initial where
  live_iff i := by simp [State.Live, State.cancelled?, State.session?, State.initial]
  known := by simp [State.initial]
  apart := by simp [State.initial]
  once := List.nodup_nil

theorem Lifecycle.installed_lt (inv : Lifecycle s) (installed : s.installed = some i) :
    i < s.sessions.length :=
  ((inv.live_iff i).mpr (.inl installed)).lt

theorem State.live_append {session : Session} {v : Option Nat}
    (fresh : session.cancelled = false) :
    { s.replaceView .cleared with sessions := s.sessions ++ [session], installed := v }.Live i ↔
      s.Live i ∨ i = s.sessions.length := by
  rcases Nat.lt_trichotomy i s.sessions.length with before | same | after
  · simp [State.Live, State.cancelled?, State.session?, List.getElem?_append_left before,
      Nat.ne_of_lt before]
  · subst same
    simp [State.Live, State.cancelled?, State.session?, fresh]
  · have beyond : s.sessions[i]? = none := List.getElem?_eq_none (Nat.le_of_lt after)
    have beyond' : (s.sessions ++ [session])[i]? = none :=
      List.getElem?_eq_none (by rw [List.length_append]; exact after)
    simp [State.Live, State.cancelled?, State.session?, beyond, beyond', Nat.ne_of_gt after]

theorem State.live_cancel {stops : List (Nat × StopStage)} :
    { s.modifySession i fun session => { session with cancelled := true } with
      stops := stops }.Live j ↔ s.Live j ∧ j ≠ i := by
  by_cases same : i = j
  · subst same
    simp [State.Live, State.cancelled?, State.session?, State.modifySession]
  · simp [State.Live, State.cancelled?, State.session?, State.modifySession, same, Ne.symm same]

theorem Lifecycle.of_start {name : String} (inv : Lifecycle s) (vacant : s.installed = none) :
    Lifecycle { s.replaceView .cleared with
      sessions := s.sessions ++ [⟨name, false, .initial⟩]
      installed := some s.sessions.length } where
  live_iff i := by
    rw [State.live_append rfl, inv.live_iff, vacant]
    simp [State.replaceView, or_comm, eq_comm]
  known i stage pending := by
    have := inv.known i stage pending
    simpa using Nat.lt_succ_of_lt this
  apart i stage installed pending := by
    have := inv.known i stage pending
    simp at installed
    omega
  once := inv.once

theorem Lifecycle.of_take (inv : Lifecycle s) (installed : s.installed = some i) :
    Lifecycle { s with installed := none, stops := s.stops ++ [(i, .taken)] } where
  live_iff j := by
    have live : s.Live j ↔ i = j ∨ (j, .taken) ∈ s.stops := by
      simpa [installed] using inv.live_iff j
    refine live.trans ?_
    simp [or_comm, eq_comm]
  known j stage pending := by
    rcases List.mem_append.mp pending with old | new
    · exact inv.known j stage old
    · obtain ⟨rfl, rfl⟩ := Prod.mk.inj (List.mem_singleton.mp new)
      exact inv.installed_lt installed
  apart j stage impossible := by cases impossible
  once := by
    have fresh : i ∉ s.stops.map Prod.fst := by
      intro member
      obtain ⟨⟨j, stage⟩, pending, rfl⟩ := List.mem_map.mp member
      exact inv.apart j stage installed pending
    rw [List.map_append]
    exact inv.once.append (List.nodup_singleton i) (by simpa using fresh)

/-- What the second step of a stop does to the list of stops. -/
def markCancelled (i : Nat) (stop : Nat × StopStage) : Nat × StopStage :=
  if stop = (i, .taken) then (i, .cancelled) else stop

@[simp]
theorem markCancelled_fst {stop : Nat × StopStage} : (markCancelled i stop).1 = stop.1 := by
  rw [markCancelled]
  split
  · rename_i same
    rw [same]
  · rfl

theorem map_fst_markCancelled (stops : List (Nat × StopStage)) :
    (stops.map (markCancelled i)).map Prod.fst = stops.map Prod.fst := by
  rw [List.map_map]
  exact List.map_congr_left fun _ _ => markCancelled_fst

theorem mem_of_mem_markCancelled {stops : List (Nat × StopStage)} {stage : StopStage}
    (member : (j, stage) ∈ stops.map (markCancelled i)) : ∃ stage', (j, stage') ∈ stops := by
  obtain ⟨⟨k, stage'⟩, old, same⟩ := List.mem_map.mp member
  have key : k = j := markCancelled_fst.symm.trans (congrArg Prod.fst same)
  exact ⟨stage', key ▸ old⟩

/-- Only the stop of the cancelled session leaves the first stage. -/
theorem taken_mem_markCancelled {stops : List (Nat × StopStage)} :
    (j, StopStage.taken) ∈ stops.map (markCancelled i) ↔ (j, .taken) ∈ stops ∧ j ≠ i := by
  rw [List.mem_map]
  constructor
  · rintro ⟨stop, member, same⟩
    rw [markCancelled] at same
    split at same
    · cases same
    · rename_i other
      subst same
      exact ⟨member, fun h => other (by rw [h])⟩
  · rintro ⟨member, other⟩
    exact ⟨_, member, if_neg (by simpa using other)⟩

theorem Lifecycle.of_cancel (inv : Lifecycle s) (pending : (i, StopStage.taken) ∈ s.stops) :
    Lifecycle { s.modifySession i fun session => { session with cancelled := true } with
      stops := s.stops.map (markCancelled i) } where
  live_iff j := by
    have free : s.installed ≠ some i := fun installed => inv.apart i _ installed pending
    rw [State.live_cancel, inv.live_iff, taken_mem_markCancelled]
    constructor
    · rintro ⟨installed | taken, other⟩
      · exact .inl installed
      · exact .inr ⟨taken, other⟩
    · rintro (installed | ⟨taken, other⟩)
      · exact ⟨.inl installed, fun same => free (same ▸ installed)⟩
      · exact ⟨.inr taken, other⟩
  known j stage member := by
    obtain ⟨stage', old⟩ := mem_of_mem_markCancelled member
    simpa [State.modifySession] using inv.known j stage' old
  apart j stage installed member := by
    obtain ⟨stage', old⟩ := mem_of_mem_markCancelled member
    exact inv.apart j stage' installed old
  once := by
    rw [map_fst_markCancelled]
    exact inv.once

theorem Lifecycle.of_clear (inv : Lifecycle s) :
    Lifecycle { s.replaceView .cleared with
      stops := s.stops.filter fun stop => stop ≠ (i, .cancelled) } where
  live_iff j := by
    have kept : (j, StopStage.taken) ∈ (s.stops.filter fun stop => stop ≠ (i, .cancelled)) ↔
        (j, .taken) ∈ s.stops := by
      simp
    rw [kept]
    exact inv.live_iff j
  known j stage member := inv.known j stage (List.mem_of_mem_filter member)
  apart j stage installed member := inv.apart j stage installed (List.mem_of_mem_filter member)
  once := inv.once.sublist (List.filter_sublist.map _)

theorem Lifecycle.step (inv : Lifecycle s) (change : Transition s x s' a) : Lifecycle s' := by
  cases control : x.isControl with
  | false => exact inv.of_sameStages (change.sameStages control)
  | true =>
    cases change with
    | start vacant => exact inv.of_start vacant
    | take installed => exact inv.of_take installed
    | cancel pending => exact inv.of_cancel pending
    | clear => exact inv.of_clear
    | _ => cases control

theorem Reachable.lifecycle (reached : Reachable s) : Lifecycle s :=
  Runs.invariant Lifecycle reached .initial fun _ change inv => inv.step change

/-- Induction over the reachable states, with the stages of the sessions known. -/
theorem Reachable.invariant (P : State → Prop) (reached : Reachable s) (start : P .initial)
    (keep : ∀ {s x s' a}, Lifecycle s → Transition s x s' a → P s → P s') : P s := by
  have both : Lifecycle s ∧ P s :=
    Runs.invariant (fun s => Lifecycle s ∧ P s) reached ⟨.initial, start⟩
      fun _ change ⟨inv, holds⟩ => ⟨inv.step change, keep inv change holds⟩
  exact both.2

/-! ## After a stop -/

/-- A session that was started and whose stop is complete. -/
structure State.Ended (s : State) (i : Nat) : Prop where
  started : i < s.sessions.length
  removed : s.installed ≠ some i
  complete : ∀ stage, (i, stage) ∉ s.stops

theorem State.Ended.not_live (ended : s.Ended i) (inv : Lifecycle s) : ¬ s.Live i := by
  rw [inv.live_iff]
  rintro (installed | taken)
  · exact ended.removed installed
  · exact ended.complete _ taken

theorem Lifecycle.ended_of_clear (inv : Lifecycle s) (change : Transition s (.stopClear i) s' a) :
    s'.Ended i := by
  cases change with
  | clear pending =>
    refine ⟨inv.known i _ pending, fun installed => inv.apart i _ installed pending, ?_⟩
    intro stage member
    obtain ⟨kept, other⟩ := List.mem_filter.mp member
    have same : (i, stage) = (i, StopStage.cancelled) :=
      List.inj_on_of_nodup_map inv.once kept pending rfl
    simp [same] at other

theorem State.Ended.step (ended : s.Ended i) (change : Transition s x s' a) : s'.Ended i := by
  cases control : x.isControl with
  | false =>
    have same := change.sameStages control
    exact ⟨same.length ▸ ended.started, same.installed ▸ ended.removed, same.stops ▸ ended.complete⟩
  | true =>
    have started := ended.started
    cases change with
    | start =>
      refine ⟨by simpa using Nat.lt_succ_of_lt started, ?_, ended.complete⟩
      simpa using Nat.ne_of_gt started
    | take installed =>
      refine ⟨started, by simp, fun stage member => ?_⟩
      rcases List.mem_append.mp member with old | new
      · exact ended.complete stage old
      · obtain ⟨rfl, -⟩ := Prod.mk.inj (List.mem_singleton.mp new)
        exact ended.removed installed
    | cancel =>
      refine ⟨by simpa [State.modifySession] using started, ended.removed, fun stage member => ?_⟩
      obtain ⟨stage', old⟩ := mem_of_mem_markCancelled member
      exact ended.complete stage' old
    | clear =>
      exact ⟨started, ended.removed, fun stage member =>
        ended.complete stage (List.mem_of_mem_filter member)⟩
    | _ => cases control

/-- No step of a session that has ended shows anything, or is a part of another stop of it. -/
theorem State.Ended.view_stays (ended : s.Ended i) (inv : Lifecycle s)
    (change : Transition s x s' a) (own : s.sessionOf? x = some i) :
    s'.view = s.view ∧ s'.published = s.published := by
  cases control : x.isControl with
  | false =>
    refine change.view_of_not_live control fun j same => ?_
    obtain rfl := Option.some.inj (own.symm.trans same)
    exact ended.not_live inv
  | true =>
    cases change with
    | start => exact absurd (Option.some.inj own) (Nat.ne_of_gt ended.started)
    | take => exact ⟨rfl, rfl⟩
    | cancel => exact ⟨rfl, rfl⟩
    | clear pending =>
      obtain rfl := Option.some.inj own
      exact absurd pending (ended.complete _)
    | _ => cases control

/-- With nothing installed and no stop under way the view is the cleared one. -/
theorem Lifecycle.cleared_step (inv : Lifecycle s) (change : Transition s x s' a)
    (cleared : s.installed = none → s.stops = [] → s.view = .cleared) :
    s'.installed = none → s'.stops = [] → s'.view = .cleared := by
  intro vacant complete
  cases control : x.isControl with
  | false =>
    have same := change.sameStages control
    have vacant' : s.installed = none := same.installed ▸ vacant
    have complete' : s.stops = [] := same.stops ▸ complete
    have dead : ∀ i, ¬ s.Live i := fun i => by simp [inv.live_iff, vacant', complete']
    rw [(change.view_of_not_live control fun i _ => dead i).1]
    exact cleared vacant' complete'
  | true =>
    cases change with
    | start => cases vacant
    | take => simp at complete
    | cancel pending =>
      rw [List.map_eq_nil_iff.mp complete] at pending
      cases pending
    | clear => rfl
    | _ => cases control

theorem Reachable.cleared (reached : Reachable s) (vacant : s.installed = none)
    (complete : s.stops = []) : s.view = .cleared := by
  have cleared : s.installed = none → s.stops = [] → s.view = .cleared :=
    reached.invariant (fun s => s.installed = none → s.stops = [] → s.view = .cleared)
      (fun _ _ => rfl) fun inv change => inv.cleared_step change
  exact cleared vacant complete

/-- Once the stop of a session has cleared the view, no later step of that session changes what
is published; and in every state with nothing installed and no stop under way the cleared view is
published. -/
theorem cleared_view_stays (reached : Reachable s) :
    (∀ i s₁ s₂ x s₃, Moves s (.stopClear i) s₁ → Runs (fun _ => True) s₁ s₂ →
      s₂.sessionOf? x = some i → Moves s₂ x s₃ →
        s₃.view = s₂.view ∧ s₃.published = s₂.published) ∧
    (s.installed = none → s.stops = [] → s.view = .cleared) := by
  refine ⟨?_, reached.cleared⟩
  intro i s₁ s₂ x s₃ cleared run own move
  obtain ⟨_, clearing⟩ := cleared.transition
  have ended : s₁.Ended i := reached.lifecycle.ended_of_clear clearing
  have ended' : s₂.Ended i :=
    run.invariant (fun s => s.Ended i) ended fun _ change h => h.step change
  have inv : Lifecycle s₂ := ((reached.move cleared).runs run).lifecycle
  obtain ⟨_, change⟩ := move.transition
  exact ended'.view_stays inv change own

/-- A session is taken out and cancelled while a refresh of it fetches. -/
def refreshedStop : List Step :=
  [.start "mesh-a", .begin 0 .refresh, .enter 0, .status 0 (.started "mesh-a"), .stopTake,
    .stopCancel 0]

/-- The stop of the first session ends, the next session starts, and a cycle of it publishes. -/
def nextSession : List Step :=
  [.start "mesh-b", .begin 1 .poll, .enter 1, .status 1 (.started "mesh-b"), .fetched 1 none]

/-- The view is cleared, the next session publishes, and its view stays when the refresh of the
stopped session comes to an end. -/
theorem cleared_view_stays_for_late_refresh :
    let cleared := refreshedStop ++ [.stopClear 0]
    let shown := cleared ++ nextSession
    (State.replay cleared).view = .cleared ∧
    (State.replay shown).view.status = .started "mesh-b" ∧
    (State.replay (shown ++ [.fetched 0 (some "late")])).view = (State.replay shown).view := by
  have reached : Reachable (.replay refreshedStop) := .replay rfl
  have clears : Moves (.replay refreshedStop) (.stopClear 0)
      (.replay (refreshedStop ++ [.stopClear 0])) := rfl
  refine ⟨(cleared_view_stays (reached.move clears)).2 rfl rfl, rfl, ?_⟩
  exact ((cleared_view_stays reached).1 0 _ _ (.fetched 0 (some "late")) _ clears
    (Runs.of_after? nextSession (fun _ _ => trivial) rfl) rfl rfl).1

end MeshWatch.Monitor
