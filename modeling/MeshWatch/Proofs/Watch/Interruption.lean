import MeshWatch.Proofs.Monitor.Growth
import MeshWatch.Proofs.Monitor.Reporting
import MeshWatch.Proofs.Watch.Printing
import MeshWatch.Watch.Follow

/-!
# What an interrupted watcher brings back

A watcher brings back the history of the view that it looked at last, and not of the one that is
published when the session is stopped: between its last look and the stop views may be published,
and when a view and the shutdown are both there, either may be taken first. What it brings back is
always a beginning of the published history, and it is all of it exactly if the views that were
missed have no further record.
-/
namespace MeshWatch.Watch

open Monitor (State Step Outcome View Moves Reachable Alone Lifecycle Transition Progress)

variable {s s₁ s₂ : State} {x : Step} {o : Outcome} {w : Watcher} {v : View} {views : List View}
  {signals : List Signal} {name : String} {i : Nat}

/-! ## A watched monitor -/

/-- What a step of the monitor tells a watcher. -/
def announced (s s' : State) : List Signal :=
  if s'.published = s.published then [] else [.publish s'.view]

/-- Steps of a monitor that start and stop no session, with looks and shutdowns between them in
any order, and the signals that they are for a watcher. -/
inductive Signalled (s : State) : List Signal → State → Prop
  | quiet : Signalled s [] s
  | step {signals : List Signal} {s' : State} {x : Step} {o : Outcome}
    (before : Signalled s signals s') (own : x.isControl = false)
    (taken : Monitor.step s' x = some o) : Signalled s (signals ++ announced s' o.state) o.state
  | look {signals : List Signal} {s' : State} (before : Signalled s signals s') :
    Signalled s (signals ++ [.look]) s'
  | shutDown {signals : List Signal} {s' : State} (before : Signalled s signals s')
    (succeeds : Bool) : Signalled s (signals ++ [.shutDown succeeds]) s'

theorem Signalled.silent (before : Signalled s₁ signals s₂) (own : x.isControl = false)
    (taken : Monitor.step s₂ x = some o) (unpublished : o.state.published = s₂.published) :
    Signalled s₁ signals o.state := by
  have after := before.step own taken
  rwa [announced, if_pos unpublished, List.append_nil] at after

theorem Signalled.silent_move (before : Signalled s₁ signals s₂) (own : x.isControl = false)
    (move : Moves s₂ x s) (unpublished : s.published = s₂.published) :
    Signalled s₁ signals s := by
  obtain ⟨o, taken, rfl⟩ := Option.map_eq_some_iff.mp move
  exact before.silent own taken unpublished

namespace Watcher

/-- The views that are missed after a signal; a look makes up for all of them. -/
def stillMissed (w : Watcher) (views : List View) : Signal → List View
  | .publish v => views ++ [v]
  | .look => if w.phase = .watching then [] else views
  | .shutDown _ => views

/-- The views that are published after the last look. -/
def missed (w : Watcher) (signals : List Signal) : List View :=
  (signals.foldl (fun (w, views) x => (w.step x, w.stillMissed views x)) (w, [])).2

theorem foldl_step_missed (w : Watcher) (signals : List Signal) :
    signals.foldl (fun (w, views) x => (w.step x, w.stillMissed views x)) (w, []) =
      (w.follow signals, w.missed signals) := by
  have followed : ∀ (w : Watcher) (views : List View),
      (signals.foldl (fun (w, views) x => (w.step x, stillMissed w views x)) (w, views)).1 =
        w.follow signals := by
    induction signals with
    | nil => exact fun _ _ => rfl
    | cons x rest ih => exact fun w views => ih (w.step x) _
  rw [← followed w []]
  rfl

theorem follow_concat (w : Watcher) (signals : List Signal) (x : Signal) :
    w.follow (signals ++ [x]) = (w.follow signals).step x :=
  List.foldl_concat ..

theorem missed_concat (w : Watcher) (signals : List Signal) (x : Signal) :
    w.missed (signals ++ [x]) = (w.follow signals).stillMissed (w.missed signals) x := by
  rw [missed, List.foldl_concat, foldl_step_missed]

end Watcher

/-! ## How far the watcher is behind -/

theorem continues_last {row : List View} {last : View} (grown : row.IsChain Continues)
    (ends : row.getLast? = some last) : ∀ v ∈ row, Continues v last := by
  obtain ⟨before, rfl⟩ := List.getLast?_eq_some_iff.mp ends
  have ordered := List.isChain_iff_pairwise.mp grown
  intro v member
  rcases List.mem_append.mp member with earlier | at_end
  · exact (List.pairwise_append.mp ordered).2.2 v earlier last List.mem_cons_self
  · rw [List.mem_singleton.mp at_end]
    exact List.prefix_refl _

/-- From the view looked at last over the missed ones to the published one, histories grow. -/
structure Behind (s : State) (w : Watcher) (views : List View) : Prop where
  latest : w.latest = s.view
  grown : (w.last :: views).IsChain Continues
  ends : (w.last :: views).getLast? = some s.view
  seen : w.unseen = false → views = []

namespace Behind

theorem new (s : State) : Behind s (.new s.view) [] := ⟨rfl, .singleton _, rfl, fun _ => rfl⟩

theorem publish (behind : Behind s₁ w views) (longer : Continues s₁.view s₂.view) :
    Behind s₂ (w.step (.publish s₂.view)) (w.stillMissed views (.publish s₂.view)) where
  latest := rfl
  grown := by
    refine List.isChain_append.mpr ⟨behind.grown, .singleton _, ?_⟩
    intro last ends v begins
    obtain rfl : s₁.view = last := Option.some.inj (behind.ends.symm.trans ends)
    obtain rfl : s₂.view = v := Option.some.inj begins
    exact longer
  ends := by
    change ((w.last :: views) ++ [s₂.view]).getLast? = _
    exact List.getLast?_concat
  seen := nofun

theorem look (behind : Behind s w views) :
    Behind s (w.step .look) (w.stillMissed views .look) := by
  rw [Watcher.step, Watcher.stillMissed]
  by_cases watching : w.phase = .watching
  · by_cases unseen : w.unseen
    · rw [if_pos ⟨watching, unseen⟩, if_pos watching]
      refine ⟨behind.latest, .singleton _, ?_, fun _ => rfl⟩
      exact congrArg some behind.latest
    · have none_missed := behind.seen (Bool.eq_false_iff.mpr unseen)
      rw [if_neg (not_and_of_not_right _ unseen), if_pos watching, ← none_missed]
      exact behind
  · rw [if_neg (not_and_of_not_left _ watching), if_neg watching]
    exact behind

theorem shutDown (behind : Behind s w views) (succeeds : Bool) :
    Behind s (w.step (.shutDown succeeds)) (w.stillMissed views (.shutDown succeeds)) := by
  rw [Watcher.step, Watcher.stillMissed]
  split
  · exact ⟨behind.latest, behind.grown, behind.ends, behind.seen⟩
  · exact behind

/-- The histories of the missed views lie between the one brought back and the published one. -/
theorem history_eq_iff (behind : Behind s w views) :
    Continues w.last s.view ∧
      (w.history = s.view.history ↔ ∀ v ∈ views, v.history = w.history) := by
  have within : Continues w.last s.view :=
    continues_last behind.grown behind.ends w.last List.mem_cons_self
  refine ⟨within, ?_, ?_⟩
  · intro complete v member
    have ordered := List.isChain_iff_pairwise.mp behind.grown
    have from_last : Continues w.last v := (List.pairwise_cons.mp ordered).1 v member
    have up_to : Continues v s.view :=
      continues_last behind.grown behind.ends v (List.mem_cons_of_mem _ member)
    have no_more : v.history.records.length ≤ w.last.history.records.length := by
      have same : w.last.history = s.view.history := complete
      rw [same]
      exact up_to.length_le
    have records : w.last.history.records = v.history.records :=
      List.IsPrefix.eq_of_length_le from_last no_more
    exact congrArg History.mk records.symm
  · intro none_new
    rcases List.mem_cons.mp (List.mem_of_getLast? behind.ends) with same | later
    · rw [same]
      rfl
    · exact (none_new _ later).symm

end Behind

/-- What is signalled of a session that has the view for itself leaves the watcher behind by the
missed views and by nothing else. -/
theorem Signalled.behind (run : Signalled s₁ signals s₂) (reached : Reachable s₁)
    (alone : Alone i s₁) :
    Reachable s₂ ∧ Alone i s₂ ∧
      Behind s₂ ((Watcher.new s₁.view).follow signals) ((Watcher.new s₁.view).missed signals) := by
  induction run with
  | quiet => exact ⟨reached, alone, .new s₁⟩
  | @step signals s' x o before own taken ih =>
    obtain ⟨reached', alone', behind⟩ := ih
    have move : Moves s' x o.state := by rw [Moves, taken]; rfl
    obtain ⟨still_alone, same | ⟨counted, longer⟩⟩ :=
      alone'.step reached'.lifecycle (.of_step taken) own
    · refine ⟨reached'.move move, still_alone, ?_⟩
      rw [announced, if_pos same.2, List.append_nil]
      exact ⟨behind.latest.trans same.1.symm, behind.grown, same.1 ▸ behind.ends, behind.seen⟩
    · refine ⟨reached'.move move, still_alone, ?_⟩
      rw [announced, if_neg (by omega), Watcher.follow_concat, Watcher.missed_concat]
      exact behind.publish longer
  | look before ih =>
    obtain ⟨reached', alone', behind⟩ := ih
    rw [Watcher.follow_concat, Watcher.missed_concat]
    exact ⟨reached', alone', behind.look⟩
  | shutDown before succeeds ih =>
    obtain ⟨reached', alone', behind⟩ := ih
    rw [Watcher.follow_concat, Watcher.missed_concat]
    exact ⟨reached', alone', behind.shutDown succeeds⟩

/-- Whenever a session that was started while no stop was under way is about to be stopped, the
watcher brings back a beginning of the published history; and it brings back all of it exactly if
no view that was published after its last look has another history than the one it saw then. -/
theorem brought_back_iff (reached : Reachable s) (calm : s.stops = [])
    (move : Moves s (.start name) s₁) (run : Signalled s₁ signals s₂) :
    ((Watcher.new s₁.view).follow signals).history.records <+: s₂.view.history.records ∧
    (((Watcher.new s₁.view).follow signals).history = s₂.view.history ↔
      ∀ v ∈ (Watcher.new s₁.view).missed signals,
        v.history = ((Watcher.new s₁.view).follow signals).history) := by
  obtain ⟨-, -, behind⟩ := run.behind (reached.move move) (move.alone calm)
  exact behind.history_eq_iff

/-- The session of a watcher, and the same session when its first poll fetches. -/
def watchedStart : State := .replay [.start "mesh-a"]

def watchedFetch : State :=
  .replay [.start "mesh-a", .begin 0 .poll, .enter 0, .status 0 (.started "mesh-a")]

theorem watchedStart_moves : Moves .initial (.start "mesh-a") watchedStart := rfl

/-- Until its first fetch ends, the session tells its watcher nothing. -/
theorem signalled_watchedFetch : Signalled watchedStart [] watchedFetch := by
  have begun : Signalled watchedStart [] (.replay [.start "mesh-a", .begin 0 .poll]) :=
    Signalled.quiet.silent_move (x := .begin 0 .poll) rfl rfl rfl
  have entered : Signalled watchedStart []
      (.replay [.start "mesh-a", .begin 0 .poll, .enter 0]) :=
    begun.silent_move (x := .enter 0) rfl rfl rfl
  exact entered.silent_move (x := .status 0 (.started "mesh-a")) rfl rfl rfl

/-- A first fetch that brings nothing publishes the engine's status. The view is missed, and
nothing is lost by that. -/
theorem brought_back_iff_status_missed : ∃ signals s,
    Reachable .initial ∧ State.initial.stops = [] ∧
    Moves .initial (.start "mesh-a") watchedStart ∧ Signalled watchedStart signals s ∧
    ((Watcher.new watchedStart.view).follow signals).phase = .interrupted ∧
    (Watcher.new watchedStart.view).missed signals = [s.view] ∧
    ((Watcher.new watchedStart.view).follow signals).history = s.view.history := by
  have fetched : Signalled watchedStart _ _ :=
    .step (x := .fetched 0 none) signalled_watchedFetch rfl rfl
  have run := fetched.shutDown true
  refine ⟨_, _, .refl, rfl, watchedStart_moves, run, rfl, rfl, ?_⟩
  refine (brought_back_iff .refl rfl watchedStart_moves run).2.mpr ?_
  intro v member
  rw [List.mem_singleton.mp member]
  rfl

/-- The first snapshot is published with the records that it holds. -/
theorem fetched_decoded {text : String} {snapshot : Snapshot}
    (decoded : Snapshot.decode text "mesh-a" = .ok snapshot) : ∃ o,
    Monitor.step watchedFetch (.fetched 0 (some text)) = some o ∧
      o.state.view.history.records = (History.empty.absorb snapshot.records).2.records := by
  let session : Monitor.Session :=
    ⟨"mesh-a", false, { Progress.initial with status := .started "mesh-a" }⟩
  have found : Monitor.taskIn watchedFetch 0 .fetching =
      some (⟨0, 0, .poll, .fetching⟩, session) := rfl
  have live : watchedFetch.Live 0 := rfl
  let next := (session.progress.afterSnapshot snapshot).2
  have published := State.publish_view (p := next) live List.nil_prefix
  have absorbed : next.history.records = (History.empty.absorb snapshot.records).2.records :=
    congrArg History.records (Progress.withLatest_view _ _).2
  refine ⟨_, by rw [Monitor.step, found]; rfl, ?_⟩
  simp only [Monitor.onFetched, Monitor.onSnapshot, session, decoded, Monitor.endCycle]
  change (watchedFetch.publish 0 next).view.history.records = _
  rw [published]
  exact absorbed

theorem fetched_oneRecord : ∃ o,
    Monitor.step watchedFetch (.fetched 0 (some Monitor.oneRecord.text)) = some o ∧
      o.state.view.history.records = ["ready"] := by
  obtain ⟨snapshot, decoded, one⟩ := exists_of_toOption_map Monitor.records_oneRecord
  obtain ⟨o, taken, absorbed⟩ := fetched_decoded decoded
  exact ⟨o, taken, absorbed.trans (by rw [one]; rfl)⟩

/-- The shutdown is taken before the look that the record waits for. -/
theorem interrupted_before_look : ∃ signals s,
    Moves .initial (.start "mesh-a") watchedStart ∧ Signalled watchedStart signals s ∧
    ((Watcher.new watchedStart.view).follow signals).phase = .interrupted ∧
    s.view.history.records = ["ready"] ∧
    ((Watcher.new watchedStart.view).follow signals).history.records = [] := by
  obtain ⟨o, taken, collected⟩ := fetched_oneRecord
  have run := (Signalled.step signalled_watchedFetch rfl taken).shutDown true
  refine ⟨_, _, watchedStart_moves, run, ?_, collected, ?_⟩
  · rw [Watcher.follow_concat, announced]
    split <;> rfl
  · rw [Watcher.follow_concat, announced]
    split <;> rfl

end MeshWatch.Watch
