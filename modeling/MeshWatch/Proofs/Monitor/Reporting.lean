import MeshWatch.Proofs.Monitor.Stopping
import MeshWatch.Proofs.Snapshot.Reading
import MeshWatch.Snapshot.Draft

/-!
# What a cycle reports and what is shown

A cycle that succeeds reports how many peers and records there are after it. The report is made
from the session's progress, and the mark of being cancelled is looked at only when the view is
replaced. So a session that is not cancelled shows what it reports; a session that was cancelled
during the fetch reports success as well, and shows nothing of it.
-/
namespace MeshWatch.Monitor

variable {s : State} {x : Step} {o : Outcome} {t u : Task} {i id : Nat} {p : Progress}
  {v : View} {r : Report} {session : Session}

/-- The view has as many records and peers as the report says. -/
def View.Shows (v : View) (r : Report) : Prop :=
  v.history.length = r.historyLength ∧ v.peers.length = r.peers

/-- Whether a view is replaced by a progress that it shows already makes no difference. -/
theorem Progress.shows_of_isShownBy (shown : p.isShownBy v = true) (fits : p.view.Shows r) :
    v.Shows r := by
  simp only [Progress.isShownBy, Bool.and_eq_true, decide_eq_true_eq, beq_iff_eq] at shown
  obtain ⟨⟨⟨⟨-, length⟩, -⟩, topology⟩, -⟩ := shown
  obtain ⟨records, peers⟩ := fits
  constructor
  · exact length.symm.trans records
  · rw [View.peers, ← topology]
    exact peers

theorem Progress.withLatest_view (p : Progress) (records : List RawRecord) :
    (p.withLatest records).topology = p.topology ∧ (p.withLatest records).history = p.history := by
  rw [Progress.withLatest]
  split
  · exact ⟨rfl, rfl⟩
  · exact ⟨rfl, rfl⟩

/-- A session's progress shows what its cycle reports. -/
theorem Progress.shows_of_fetchResult {name : String} {answer : Option String}
    (success : p.fetchResult name answer = .ok r) : (p.afterFetch name answer).view.Shows r := by
  cases answer with
  | none => cases success
  | some text =>
    cases decoded : Snapshot.decode text name with
    | error e =>
      rw [Progress.fetchResult, decoded] at success
      cases success
    | ok snapshot =>
      simp only [Progress.fetchResult, decoded, Except.ok.injEq] at success
      subst success
      simp only [Progress.afterFetch, decoded]
      constructor
      · rfl
      · have kept := (Progress.withLatest_view { p with
            history := (p.history.absorb snapshot.records).2
            topology := some snapshot.topology } snapshot.records).1
        simp only [View.peers, Progress.view, Progress.afterSnapshot, kept]
        rfl

/-- No cycle ends with success when it gets its turn. -/
theorem no_report_at_turn (taken : step s (.enter id) = some o) :
    o.answer ≠ some (t, .cycle (.ok r)) := by
  obtain ⟨⟨u, session⟩, -, entered⟩ := Option.bind_eq_some_iff.mp taken
  dsimp only at entered
  split at entered
  · obtain rfl := Option.some.inj entered
    cases gate : session.cancelled <;> cases call : u.call <;> simp [enter, gate, call]
  · cases entered

/-- A cycle succeeds at the end of its fetch, and publishes in the same step. -/
theorem publish_of_report (taken : step s x = some o)
    (ended : o.answer = some (t, .cycle (.ok r))) :
    ∃ p : Progress, p.view.Shows r ∧ o.state.view = (s.publish t.session p).view ∧
      o.state.published = (s.publish t.session p).published := by
  have change := Transition.of_step taken
  have turn : ∀ id, x ≠ .enter id := by
    rintro id rfl
    exact no_report_at_turn taken ended
  rw [ended] at change
  generalize o.state = s' at change
  generalize result : some (t, Answer.cycle (.ok r)) = a at change
  cases change with
  | refuse => exact absurd rfl (turn _)
  | halt => cases result
  | deliver => cases result
  | @finish _ u session answer found =>
    obtain ⟨rfl, success⟩ := Prod.mk.inj (Option.some.inj result)
    refine ⟨session.progress.afterFetch session.name answer, ?_, rfl, rfl⟩
    exact Progress.shows_of_fetchResult (Answer.cycle.inj success).symm
  | _ => cases result

/-- When a cycle has reported success, what it reports is shown if its session is installed or a
stop has taken the session out but not cancelled it yet; in all other cases the cycle has changed
nothing that is shown. -/
theorem report_is_shown_iff (reached : Reachable s) (taken : step s x = some o)
    (ended : o.answer = some (t, .cycle (.ok r))) :
    (o.state.view.Shows r ↔
      s.installed = some t.session ∨ (t.session, .taken) ∈ s.stops ∨ s.view.Shows r) ∧
    (s.installed ≠ some t.session → (t.session, .taken) ∉ s.stops →
      o.state.view = s.view ∧ o.state.published = s.published) := by
  obtain ⟨p, fits, view, published⟩ := publish_of_report taken ended
  have live_iff := reached.lifecycle.live_iff t.session
  have of_live (live : s.Live t.session) : o.state.view.Shows r := by
    rw [view, State.publish_view_of_live live]
    split
    · rename_i shown
      exact Progress.shows_of_isShownBy shown fits
    · exact fits
  have of_dead (dead : ¬ s.Live t.session) :
      o.state.view = s.view ∧ o.state.published = s.published := by
    rw [view, published]
    exact State.publish_view_of_not_live dead
  constructor
  · rw [← or_assoc, ← live_iff]
    constructor
    · intro shows
      by_cases live : s.Live t.session
      · exact .inl live
      · exact .inr ((of_dead live).1 ▸ shows)
    · rintro (live | shows)
      · exact of_live live
      · by_cases live : s.Live t.session
        · exact of_live live
        · exact (of_dead live).1.symm ▸ shows
  · intro removed complete
    refine of_dead fun live => ?_
    rcases live_iff.mp live with installed | pending
    · exact removed installed
    · exact complete pending

/-- The session of a refresh is stopped, and the view cleared, while the refresh fetches. -/
def stoppedRefresh : State := .replay (refreshedStop ++ [.stopClear 0])

theorem stoppedRefresh_reachable : Reachable stoppedRefresh := .replay rfl

/-- The refresh succeeds if it gets a snapshot. -/
theorem stoppedRefresh_succeeds {text : String} {snapshot : Snapshot}
    (decoded : Snapshot.decode text "mesh-a" = .ok snapshot) : ∃ o r,
    step stoppedRefresh (.fetched 0 (some text)) = some o ∧
      o.answer = some (⟨0, 0, .refresh, .fetching⟩, .cycle (.ok r)) ∧
      r.historyLength = snapshot.records.length := by
  let t : Task := ⟨0, 0, .refresh, .fetching⟩
  let session : Session :=
    ⟨"mesh-a", true, { Progress.initial with status := .started "mesh-a" }⟩
  have found : taskIn stoppedRefresh 0 .fetching = some (t, session) := rfl
  have taken : step stoppedRefresh (.fetched 0 (some text)) =
      some (onFetched stoppedRefresh t session (some text)) := by
    rw [step, found]
    rfl
  let after := session.progress.afterSnapshot snapshot
  have absorbed : after.2.history = (History.empty.absorb snapshot.records).2 :=
    (Progress.withLatest_view _ _).2
  have taken_over : (History.empty.fresh snapshot.records).2 = snapshot.records := by
    rw [History.fresh]
    split
    · exact (‹snapshot.records = []›).symm
    · rfl
  refine ⟨_, ⟨after.1, snapshot.peers.length, after.2.history.length⟩, taken, ?_, ?_⟩
  · simp only [onFetched, onSnapshot, session, decoded, endCycle]
    rfl
  · rw [absorbed]
    exact congrArg List.length taken_over

/-- An engine with one record and no peers. -/
def oneRecord : Snapshot.Draft := { Snapshot.Draft.new "mesh-a" with records := ["ready"] }

theorem records_oneRecord :
    (Snapshot.decode oneRecord.text "mesh-a").toOption.map (·.records) = some ["ready"] := by
  decide +kernel

/-- The view stays cleared, although the refresh reports a record. -/
theorem report_is_shown_iff_late : ∃ o r,
    step stoppedRefresh (.fetched 0 (some oneRecord.text)) = some o ∧
      o.answer = some (⟨0, 0, .refresh, .fetching⟩, .cycle (.ok r)) ∧ r.historyLength = 1 ∧
      o.state.view = stoppedRefresh.view := by
  obtain ⟨snapshot, decoded, one⟩ := exists_of_toOption_map records_oneRecord
  obtain ⟨o, r, taken, ended, records⟩ := stoppedRefresh_succeeds decoded
  have removed : stoppedRefresh.installed ≠ some 0 := nofun
  have complete : (0, StopStage.taken) ∉ stoppedRefresh.stops := by decide
  have kept := (report_is_shown_iff stoppedRefresh_reachable taken ended).2 removed complete
  exact ⟨o, r, taken, ended, records.trans (congrArg List.length one), kept.1⟩

/-- The refresh of a stopped session reports success and a record, and no record is shown. -/
theorem report_of_stopped_session_not_shown : Reachable stoppedRefresh ∧ ∃ o r,
    step stoppedRefresh (.fetched 0 (some oneRecord.text)) = some o ∧
      o.answer = some (⟨0, 0, .refresh, .fetching⟩, .cycle (.ok r)) ∧ ¬ o.state.view.Shows r := by
  obtain ⟨snapshot, decoded, one⟩ := exists_of_toOption_map records_oneRecord
  obtain ⟨o, r, taken, ended, records⟩ := stoppedRefresh_succeeds decoded
  refine ⟨stoppedRefresh_reachable, o, r, taken, ended, fun shows => ?_⟩
  obtain ⟨p, -, view, -⟩ := publish_of_report taken ended
  have cancelled : stoppedRefresh.cancelled? 0 = some true := rfl
  have dead : ¬ stoppedRefresh.Live 0 := by simp [State.Live, cancelled]
  rw [(State.publish_view_of_not_live dead).1] at view
  have empty : o.state.view.history.length = 0 := congrArg (·.history.length) view
  have counted := shows.1.symm.trans empty
  rw [records, one] at counted
  cases counted

end MeshWatch.Monitor
