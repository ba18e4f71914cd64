import MeshWatch.Proofs.Monitor.Isolation
import MeshWatch.Proofs.Monitor.Recomputation

/-!
# Published histories grow

While a session is installed and no stop is under way, what is published goes on from what was
published before: no step but a start or a stop takes a record away or exchanges one.
-/
namespace MeshWatch.Monitor

variable {s s' : State} {x : Step} {a : Option (Task × Answer)} {i k : Nat} {p : Progress}
  {session : Session}

/-- A publication that changes nothing that is seen, or one of a longer or equal history. -/
def State.GrowsTo (s s' : State) : Prop :=
  (s'.view = s.view ∧ s'.published = s.published) ∨
  (s'.published = s.published + 1 ∧ s.view.history.records <+: s'.view.history.records)

/-- This session has the view for itself, and the view began with the session's history. -/
structure Alone (i : Nat) (s : State) : Prop where
  window : Window i [] s
  shown : ∀ session, s.session? i = some session →
    s.view.history.records <+: session.progress.history.records

theorem State.publish_growsTo (found : s.session? i = some session)
    (longer : s.view.history.records <+: p.history.records) : s.GrowsTo (s.publish i p) := by
  rw [State.publish_of_session found]
  split
  · exact .inl ⟨rfl, rfl⟩
  · exact .inr ⟨rfl, longer⟩

/-- Whoever publishes, the view stays a beginning of the installed session's history. -/
theorem Alone.publish (alone : Alone i s) (life : Lifecycle s)
    (found : s.session? k = some session)
    (grown : session.progress.history.records <+: p.history.records) :
    s.GrowsTo (s.publish k p) ∧ ∀ session', (s.publish k p).session? i = some session' →
      (s.publish k p).view.history.records <+: session'.progress.history.records := by
  by_cases own : k = i
  · subst own
    have longer := (alone.shown session found).trans grown
    refine ⟨State.publish_growsTo found longer, ?_⟩
    intro session' found'
    rw [State.session?_publish, State.session?_withProgress_self found] at found'
    obtain rfl := Option.some.inj found'
    rw [State.publish_of_session found]
    split
    · exact longer
    · exact List.prefix_refl _
  · -- A session that is live is installed or about to be stopped, and no stop is under way.
    have dead : ¬ s.Live k := by
      intro live
      rcases (life.live_iff k).mp live with installed | pending
      · exact own (Option.some.inj (installed.symm.trans alone.window.installed))
      · exact List.not_mem_nil (alone.window.pending k .taken pending)
    have same := State.publish_view_of_not_live (p := p) dead
    refine ⟨.inl same, ?_⟩
    intro session' found'
    rw [State.session?_publish, State.session?_withProgress_ne own] at found'
    rw [same.1]
    exact alone.shown session' found'

/-- No step but a start or a stop takes anything from the published history. -/
theorem Alone.step (alone : Alone i s) (life : Lifecycle s) (change : Transition s x s' a)
    (own : x.isControl = false) : Alone i s' ∧ s.GrowsTo s' := by
  have window : Window i [] s' := by
    refine alone.window.step change ?_
    rintro rfl
    cases own
  cases change with
  | begin => exact ⟨⟨window, alone.shown⟩, .inl ⟨rfl, rfl⟩⟩
  | refuse => exact ⟨⟨window, alone.shown⟩, .inl ⟨rfl, rfl⟩⟩
  | accept => exact ⟨⟨window, alone.shown⟩, .inl ⟨rfl, rfl⟩⟩
  | deliver => exact ⟨⟨window, alone.shown⟩, .inl ⟨rfl, rfl⟩⟩
  | abandon => exact ⟨⟨window, alone.shown⟩, .inl ⟨rfl, rfl⟩⟩
  | @proceed _ t session _ found =>
    obtain ⟨-, -, in_session⟩ := taskIn_eq_some.mp found
    refine ⟨⟨window, ?_⟩, .inl ⟨rfl, rfl⟩⟩
    intro session' found'
    rw [State.session?_withPhase] at found'
    by_cases same : t.session = i
    · rw [same] at in_session found'
      rw [State.session?_withProgress_self in_session] at found'
      obtain rfl := Option.some.inj found'
      exact alone.shown session in_session
    · rw [State.session?_withProgress_ne same] at found'
      exact alone.shown session' found'
  | @halt _ _ session answer found =>
    obtain ⟨-, -, in_session⟩ := taskIn_eq_some.mp found
    obtain ⟨grows, shown⟩ := alone.publish (p := { session.progress with status := answer }) life
      in_session (List.prefix_refl _)
    exact ⟨⟨window, shown⟩, grows⟩
  | finish found =>
    obtain ⟨-, -, in_session⟩ := taskIn_eq_some.mp found
    obtain ⟨grows, shown⟩ := alone.publish life in_session (Progress.prefix_afterFetch ..)
    exact ⟨⟨window, shown⟩, grows⟩
  | _ => cases own

/-- A session that starts when no stop is under way has the view for itself. -/
theorem Moves.alone {name : String} (move : Moves s (.start name) s') (calm : s.stops = []) :
    Alone s.sessions.length s' := by
  rw [move.of_start]
  refine ⟨⟨rfl, ?_⟩, fun _ _ => List.nil_prefix⟩
  intro j stage pending
  exact absurd pending (calm ▸ List.not_mem_nil)

end MeshWatch.Monitor
