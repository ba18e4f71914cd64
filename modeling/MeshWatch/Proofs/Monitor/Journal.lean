import MeshWatch.Proofs.Event.Absorption
import MeshWatch.Proofs.Monitor.Gate

/-!
# What the engine has answered

A journal keeps, for every session, what the engine answered to the cycles that came to their end;
a cycle that was dropped on the way leaves no entry. A view can be computed from these answers
alone. The journal is no part of the monitor: it is written beside a run, from the steps and the
states in which they are taken.
-/
namespace MeshWatch.Monitor

/-- The answers to one cycle. The engine is asked for no snapshot if it is not running. -/
structure Cycle where
  status : EngineStatus
  answer : Option String

/-- The snapshot of a cycle, if there is one and it can be decoded. -/
def Cycle.snapshot? (c : Cycle) (name : String) : Option Snapshot :=
  c.answer.bind fun text => (Snapshot.decode text name).toOption

structure Journal where
  /-- The status answers to calls whose fetch has begun. -/
  asked : List (Nat × EngineStatus)
  /-- The cycles that have ended, each with its session, in order. -/
  ended : List (Nat × Cycle)

namespace Journal

def empty : Journal := ⟨[], []⟩

def ask (j : Journal) (id : Nat) (status : EngineStatus) : Journal :=
  { j with asked := (id, status) :: j.asked }

def close (j : Journal) (i : Nat) (c : Cycle) : Journal := { j with ended := j.ended ++ [(i, c)] }

/-- The cycles of one session that have ended, in the order of their fetches. -/
def cycles (j : Journal) (i : Nat) : List Cycle :=
  (j.ended.filter (·.1 = i)).map (·.2)

/-- What a step adds to the journal. -/
def note (s : State) (j : Journal) : Step → Journal
  | .status id answer =>
    match taskIn s id .asking with
    | some (t, _) => if answer.running then j.ask id answer else j.close t.session ⟨answer, none⟩
    | none => j
  | .fetched id answer =>
    match taskIn s id .fetching, j.asked.lookup id with
    | some (t, _), some status =>
      if t.call = .rawSnapshot then j else j.close t.session ⟨status, answer⟩
    | _, _ => j
  | _ => j

end Journal

/-- The view that a session's cycles amount to, computed from the first one on. -/
def View.recomputed (name : String) (cycles : List Cycle) : View :=
  let snapshots := cycles.filterMap (·.snapshot? name)
  { status := (cycles.getLast?.map (·.status)).getD .stopped
    topology := snapshots.getLast?.map (·.topology)
    history := snapshots.foldl (fun h snapshot => (h.absorb snapshot.records).2) .empty
    latest := (snapshots.getLast?.map fun snapshot => Event.translateAll snapshot.records).getD [] }

def Step.isStop : Step → Bool
  | .stopTake | .stopCancel _ | .stopClear _ => true
  | _ => false

/-- Runs in which the three steps of a stop are taken one right after the other, with the journal
that is written along the way. -/
inductive Observed : State → Journal → Prop
  | initial : Observed .initial .empty
  | step {s : State} {j : Journal} {x : Step} {o : Outcome} (before : Observed s j)
      (other : x.isStop = false) (taken : step s x = some o) : Observed o.state (j.note s x)
  | stop {s s₁ s₂ s₃ : State} {j : Journal} {i : Nat} (before : Observed s j)
      (take : Moves s .stopTake s₁) (cancel : Moves s₁ (.stopCancel i) s₂)
      (clear : Moves s₂ (.stopClear i) s₃) : Observed s₃ j

variable {s s' : State} {j j' : Journal} {x : Step} {a : Option (Task × Answer)} {i k : Nat}
  {p : Progress} {t u : Task} {session : Session}

theorem Observed.reachable (observed : Observed s j) : Reachable s := by
  induction observed with
  | initial => exact .refl
  | step _ _ taken ih => exact ih.move (by rw [Moves, taken, Option.map_some])
  | stop _ take cancel clear ih => exact ((ih.move take).move cancel).move clear

theorem Transition.stops_of_other (change : Transition s x s' a) (other : x.isStop = false) :
    s'.stops = s.stops := by
  cases control : x.isControl with
  | false => exact (change.sameStages control).stops
  | true =>
    cases change with
    | start => rfl
    | take => cases other
    | cancel => cases other
    | clear => cases other
    | _ => cases control

/-- The three steps of a stop, taken together, leave no stop under way. -/
theorem stops_after_stop {s₁ s₂ s₃ : State} {a₁ a₂ a₃ : Option (Task × Answer)}
    (calm : s.stops = []) (taking : Transition s .stopTake s₁ a₁)
    (cancelling : Transition s₁ (.stopCancel i) s₂ a₂)
    (clearing : Transition s₂ (.stopClear i) s₃ a₃) : s₃.stops = [] := by
  have first : ∃ k, s₁.stops = [(k, .taken)] := by
    cases taking with
    | @take k => exact ⟨k, by rw [calm, List.nil_append]⟩
  obtain ⟨k, first⟩ := first
  have second : s₂.stops = [(i, .cancelled)] := by
    cases cancelling with
    | cancel pending =>
      rw [first, List.mem_singleton] at pending
      rw [first, ← pending, List.map_singleton, if_pos rfl]
  cases clearing with
  | clear => simp [second]

/-- Between the steps of an observed run no stop is under way. -/
theorem Observed.calm (observed : Observed s j) : s.stops = [] := by
  induction observed with
  | initial => rfl
  | step _ other taken ih => exact ((Transition.of_step taken).stops_of_other other).trans ih
  | stop _ take cancel clear ih =>
    obtain ⟨_, taking⟩ := take.transition
    obtain ⟨_, cancelling⟩ := cancel.transition
    obtain ⟨_, clearing⟩ := clear.transition
    exact stops_after_stop ih taking cancelling clearing

/-- In an observed run one session at most is live. -/
theorem Observed.alone (observed : Observed s j) (left : s.Live i) (right : s.Live k) : i = k := by
  have inv := observed.reachable.lifecycle
  simp only [inv.live_iff, observed.calm, List.not_mem_nil, or_false] at left right
  exact Option.some.inj (left.symm.trans right)

end MeshWatch.Monitor
