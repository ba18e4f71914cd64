import Mathlib.Logic.Relation
import MeshWatch.Monitor.Machine

/-!
# Transitions of the monitor

Every step of the machine is one of twelve kinds of change. They are listed once, with all that
guards them and all that they change; what a step keeps is proved by cases on this list and not
by opening the machine again. Runs are sequences of steps of any length and in any order.
-/
namespace MeshWatch.Monitor

/-- What a session's progress becomes when a cycle's fetch ends with an answer. -/
def Progress.afterFetch (p : Progress) (name : String) : Option String → Progress
  | none => p
  | some text =>
    match Snapshot.decode text name with
    | .error _ => p
    | .ok snapshot => (p.afterSnapshot snapshot).2

/-- What a cycle reports when its fetch ends with an answer. -/
def Progress.fetchResult (p : Progress) (name : String) :
    Option String → Except CycleError Report
  | none => .error .noData
  | some text =>
    match Snapshot.decode text name with
    | .error e => .error (.malformed e)
    | .ok snapshot => .ok ⟨(p.afterSnapshot snapshot).1, snapshot.peers.length,
        (p.afterSnapshot snapshot).2.history.length⟩

/-- Where a call goes on when it gets its turn. -/
def Call.firstPhase : Call → Phase
  | .rawSnapshot => .fetching
  | _ => .asking

theorem Call.firstPhase_ne_waiting (c : Call) : c.firstPhase ≠ .waiting := by
  cases c <;> simp [Call.firstPhase]

theorem Call.firstPhase_ne_fetching (c : Call) (cycle : c ≠ .rawSnapshot) :
    c.firstPhase ≠ .fetching := by
  cases c <;> simp [Call.firstPhase] at cycle ⊢

namespace State
variable {s : State} {i j id : Nat} {p : Progress}

def withProgress (s : State) (i : Nat) (p : Progress) : State :=
  s.modifySession i fun session => { session with progress := p }

/-- Whether the session at a place is cancelled. -/
def cancelled? (s : State) (i : Nat) : Option Bool := (s.session? i).map (·.cancelled)

/-- A session that was started and is not cancelled. -/
def Live (s : State) (i : Nat) : Prop := s.cancelled? i = some false

theorem cancelled?_of_session {session : Session} (found : s.session? i = some session) :
    s.cancelled? i = some session.cancelled := by
  simp [cancelled?, found]

theorem lt_of_session {session : Session} (found : s.session? i = some session) :
    i < s.sessions.length :=
  (List.getElem?_eq_some_iff.mp found).1

theorem Live.lt (live : s.Live i) : i < s.sessions.length := by
  obtain ⟨session, found, -⟩ := Option.map_eq_some_iff.mp live
  exact lt_of_session found

/-! ## What the parts of a change keep -/

@[simp]
theorem session?_withoutTask : (s.withoutTask id).session? i = s.session? i := rfl

@[simp]
theorem session?_withPhase {phase : Phase} : (s.withPhase id phase).session? i = s.session? i :=
  rfl

theorem session?_withProgress :
    (s.withProgress i p).session? j =
      if i = j then (s.session? j).map fun session => { session with progress := p }
      else s.session? j := by
  by_cases same : i = j
  · subst same
    simp [withProgress, modifySession, session?]
  · simp [withProgress, modifySession, session?, same]

theorem session?_withProgress_ne (other : i ≠ j) :
    (s.withProgress i p).session? j = s.session? j := by
  rw [session?_withProgress, if_neg other]

theorem session?_withProgress_self {session : Session} (found : s.session? i = some session) :
    (s.withProgress i p).session? i = some { session with progress := p } := by
  rw [session?_withProgress, if_pos rfl, found, Option.map_some]

@[simp]
theorem cancelled?_withoutTask : (s.withoutTask id).cancelled? i = s.cancelled? i := rfl

@[simp]
theorem cancelled?_withPhase {phase : Phase} :
    (s.withPhase id phase).cancelled? i = s.cancelled? i := rfl

@[simp]
theorem cancelled?_withProgress : (s.withProgress i p).cancelled? j = s.cancelled? j := by
  rw [cancelled?, cancelled?, session?_withProgress]
  split
  · rw [Option.map_map]
    rfl
  · rfl

theorem withProgress_of_none (missing : s.session? i = none) : s.withProgress i p = s := by
  have out : s.sessions.length ≤ i := List.getElem?_eq_none_iff.mp missing
  rw [withProgress, modifySession, List.modify_eq_self out]

theorem publish_of_session {session : Session} (found : s.session? i = some session) :
    s.publish i p = if session.cancelled || p.isShownBy s.view then s.withProgress i p
      else (s.withProgress i p).replaceView p.view := by
  simp only [publish, found]
  rfl

/-- Apart from the view, publishing keeps the progress and does nothing else. -/
theorem publish_shape : s.publish i p =
    { s.withProgress i p with
      view := (s.publish i p).view
      published := (s.publish i p).published } := by
  cases found : s.session? i with
  | none =>
    have same : s.publish i p = s := by simp [publish, found]
    rw [same, withProgress_of_none found]
  | some session =>
    rw [publish_of_session found]
    split <;> rfl

@[simp]
theorem publish_tasks : (s.publish i p).tasks = s.tasks := by
  rw [publish_shape]
  rfl

@[simp]
theorem publish_nextTask : (s.publish i p).nextTask = s.nextTask := by
  rw [publish_shape]
  rfl

@[simp]
theorem publish_installed : (s.publish i p).installed = s.installed := by
  rw [publish_shape]
  rfl

@[simp]
theorem publish_stops : (s.publish i p).stops = s.stops := by
  rw [publish_shape]
  rfl

@[simp]
theorem session?_publish : (s.publish i p).session? j = (s.withProgress i p).session? j := by
  rw [publish_shape]
  rfl

@[simp]
theorem cancelled?_publish : (s.publish i p).cancelled? j = s.cancelled? j := by
  rw [cancelled?, session?_publish]
  exact cancelled?_withProgress

@[simp]
theorem sessions_length_publish : (s.publish i p).sessions.length = s.sessions.length := by
  rw [publish_shape]
  exact List.length_modify _ _ _

/-- A session that is not live publishes nothing. -/
theorem publish_view_of_not_live (dead : ¬ s.Live i) :
    (s.publish i p).view = s.view ∧ (s.publish i p).published = s.published := by
  cases found : s.session? i with
  | none => simp [publish, found]
  | some session =>
    have cancelled : session.cancelled = true := by
      simpa [Live, cancelled?_of_session found] using dead
    rw [publish_of_session found, cancelled, Bool.true_or, if_pos rfl]
    exact ⟨rfl, rfl⟩

/-- A live session's view is replaced unless it shows the progress already. -/
theorem publish_view_of_live (live : s.Live i) :
    (s.publish i p).view = if p.isShownBy s.view then s.view else p.view := by
  obtain ⟨session, found, cancelled⟩ := Option.map_eq_some_iff.mp live
  rw [publish_of_session found, cancelled, Bool.false_or]
  split <;> rfl

end State

/-! ## The list of changes -/

theorem taskIn_eq_some {s : State} {id : Nat} {phase : Phase} {t : Task} {session : Session} :
    taskIn s id phase = some (t, session) ↔
      s.task? id = some t ∧ t.phase = phase ∧ s.session? t.session = some session := by
  simp only [taskIn, bind, Option.bind_eq_some_iff]
  constructor
  · rintro ⟨u, found, h⟩
    split at h
    · rename_i inPhase
      obtain ⟨session', known, same⟩ := Option.bind_eq_some_iff.mp h
      obtain ⟨rfl, rfl⟩ := Prod.mk.inj (Option.some.inj same)
      exact ⟨found, inPhase, known⟩
    · cases h
  · rintro ⟨found, inPhase, known⟩
    exact ⟨t, found, by simp [inPhase, known]⟩

theorem State.mem_of_task? {s : State} {id : Nat} {t : Task} (found : s.task? id = some t) :
    t ∈ s.tasks ∧ t.id = id := by
  have same := List.find?_some found
  exact ⟨List.mem_of_find?_eq_some found, by simpa using same⟩

/-- The kinds of change, each with what guards it, the state after it and the call it ends. -/
inductive Transition (s : State) : Step → State → Option (Task × Answer) → Prop
  | start {name : String} (vacant : s.installed = none) :
      Transition s (.start name)
        { s.replaceView .cleared with
          sessions := s.sessions ++ [⟨name, false, .initial⟩]
          installed := some s.sessions.length } none
  | begin {i : Nat} {call : Call} (known : i < s.sessions.length)
      (permitted : call = .poll ∨ s.installed = some i) :
      Transition s (.begin i call)
        { s with
          tasks := s.tasks ++ [⟨s.nextTask, i, call, .waiting⟩]
          nextTask := s.nextTask + 1 } none
  /-- The session is cancelled; its call ends at the gate. -/
  | refuse {id : Nat} {t : Task} {session : Session} {answer : Answer}
      (found : taskIn s id .waiting = some (t, session)) (turn : s.isTurnOf t = true)
      (cancelled : session.cancelled = true) :
      Transition s (.enter id) (s.withoutTask t.id) (some (t, answer))
  | accept {id : Nat} {t : Task} {session : Session}
      (found : taskIn s id .waiting = some (t, session)) (turn : s.isTurnOf t = true)
      (live : session.cancelled = false) :
      Transition s (.enter id) (s.withPhase t.id t.call.firstPhase) none
  /-- The engine is running; its status is kept and the fetch begins. -/
  | proceed {id : Nat} {t : Task} {session : Session} {answer : EngineStatus}
      (found : taskIn s id .asking = some (t, session)) (running : answer.running = true) :
      Transition s (.status id answer)
        ((s.withProgress t.session { session.progress with status := answer }).withPhase t.id
          .fetching) none
  | halt {id : Nat} {t : Task} {session : Session} {answer : EngineStatus}
      (found : taskIn s id .asking = some (t, session)) (stopped : answer.running = false) :
      Transition s (.status id answer)
        ((s.publish t.session { session.progress with status := answer }).withoutTask t.id)
        (some (t, .cycle (.error .notRunning)))
  | deliver {id : Nat} {t : Task} {session : Session} {answer : Option String}
      (found : taskIn s id .fetching = some (t, session)) (raw : t.call = .rawSnapshot) :
      Transition s (.fetched id answer) (s.withoutTask t.id) (some (t, .raw answer))
  | finish {id : Nat} {t : Task} {session : Session} {answer : Option String}
      (found : taskIn s id .fetching = some (t, session)) (cycle : t.call ≠ .rawSnapshot) :
      Transition s (.fetched id answer)
        ((s.publish t.session (session.progress.afterFetch session.name answer)).withoutTask t.id)
        (some (t, .cycle (session.progress.fetchResult session.name answer)))
  | abandon {id : Nat} {t : Task} (found : s.task? id = some t) :
      Transition s (.abandon id) (s.withoutTask t.id) none
  | take {i : Nat} (found : s.installed = some i) :
      Transition s .stopTake { s with installed := none, stops := s.stops ++ [(i, .taken)] } none
  | cancel {i : Nat} (pending : (i, StopStage.taken) ∈ s.stops) :
      Transition s (.stopCancel i)
        { s.modifySession i fun session => { session with cancelled := true } with
          stops := s.stops.map fun stop => if stop = (i, .taken) then (i, .cancelled) else stop }
        none
  | clear {i : Nat} (pending : (i, StopStage.cancelled) ∈ s.stops) :
      Transition s (.stopClear i)
        { s.replaceView .cleared with stops := s.stops.filter fun stop => stop ≠ (i, .cancelled) }
        none

/-- The end of a fetch, by what was called. -/
theorem Transition.of_onFetched {s : State} {id : Nat} {t : Task} {session : Session}
    {answer : Option String} (found : taskIn s id .fetching = some (t, session)) :
    Transition s (.fetched id answer) (onFetched s t session answer).state
      (onFetched s t session answer).answer := by
  by_cases raw : t.call = .rawSnapshot
  · simpa only [onFetched, raw] using Transition.deliver found raw
  · have change : Transition s (.fetched id answer) _ _ := .finish found raw
    cases answer with
    | none =>
      simpa only [onFetched, Progress.afterFetch, Progress.fetchResult, endCycle] using change
    | some text =>
      simp only [onFetched, onSnapshot]
      cases decoded : Snapshot.decode text session.name with
      | error e =>
        simpa only [Progress.afterFetch, Progress.fetchResult, decoded, endCycle] using change
      | ok snapshot =>
        simpa only [Progress.afterFetch, Progress.fetchResult, decoded, endCycle] using change

/-- Every step is one of the changes of the list. -/
theorem Transition.of_step {s : State} {x : Step} {o : Outcome} (taken : step s x = some o) :
    Transition s x o.state o.answer := by
  cases x with
  | start name =>
    simp only [step] at taken
    split at taken
    · cases taken
    · obtain rfl := Option.some.inj taken
      exact .start ‹_›
  | begin i call =>
    simp only [step] at taken
    split at taken
    · rename_i guard
      obtain rfl := Option.some.inj taken
      exact .begin guard.1 guard.2
    · cases taken
  | enter id =>
    obtain ⟨⟨t, session⟩, found, entered⟩ := Option.bind_eq_some_iff.mp taken
    dsimp only at entered
    split at entered
    · rename_i turn
      obtain rfl := Option.some.inj entered
      cases gate : session.cancelled with
      | true =>
        have change : ∀ answer, Transition s (.enter id) _ (some (t, answer)) := fun _ =>
          .refuse found turn gate
        cases call : t.call <;> simpa only [enter, gate, call] using change _
      | false =>
        have change := Transition.accept found turn gate
        cases call : t.call <;> simpa only [enter, gate, call, Call.firstPhase] using change
    · cases entered
  | status id answer =>
    obtain ⟨⟨t, session⟩, found, asked⟩ := Option.bind_eq_some_iff.mp taken
    obtain rfl := Option.some.inj asked
    cases running : answer.running with
    | true =>
      have change : Transition s (.status id answer) _ _ := .proceed found running
      rw [onStatus, if_pos running]
      exact change
    | false =>
      have change : Transition s (.status id answer) _ _ := .halt found running
      rw [onStatus, if_neg (Bool.eq_false_iff.mp running)]
      exact change
  | fetched id answer =>
    obtain ⟨⟨t, session⟩, found, ended⟩ := Option.bind_eq_some_iff.mp taken
    obtain rfl := Option.some.inj ended
    exact .of_onFetched found
  | abandon id =>
    obtain ⟨t, found, rfl⟩ := Option.map_eq_some_iff.mp taken
    exact .abandon found
  | stopTake =>
    obtain ⟨i, found, rfl⟩ := Option.map_eq_some_iff.mp taken
    exact .take found
  | stopCancel i =>
    simp only [step] at taken
    split at taken
    · obtain rfl := Option.some.inj taken
      exact .cancel ‹_›
    · cases taken
  | stopClear i =>
    simp only [step] at taken
    split at taken
    · obtain rfl := Option.some.inj taken
      exact .clear ‹_›
    · cases taken

/-! ## Runs -/

/-- A step can be taken in a state and leads to another. -/
def Moves (s : State) (x : Step) (s' : State) : Prop := (step s x).map (·.state) = some s'

theorem Moves.transition {s s' : State} {x : Step} (move : Moves s x s') :
    ∃ a, Transition s x s' a := by
  obtain ⟨o, taken, rfl⟩ := Option.map_eq_some_iff.mp move
  exact ⟨o.answer, .of_step taken⟩

/-- Some steps, all of the allowed kind, lead from one state to another. -/
def Runs (allowed : Step → Prop) : State → State → Prop :=
  Relation.ReflTransGen fun s s' => ∃ x, allowed x ∧ Moves s x s'

/-- A state that some run of the monitor comes to. -/
def Reachable (s : State) : Prop := Runs (fun _ => True) .initial s

/-- The state after a list of steps, if each can be taken. -/
def State.after? (s : State) : List Step → Option State
  | [] => some s
  | x :: rest => ((step s x).map (·.state)).bind fun s' => s'.after? rest

/-- The state that a list of steps leads to from the beginning. -/
def State.replay (steps : List Step) : State := (State.initial.after? steps).getD .initial

namespace Runs
variable {allowed : Step → Prop} {s s' s'' : State}

theorem refl : Runs allowed s s := Relation.ReflTransGen.refl

theorem trans (first : Runs allowed s s') (second : Runs allowed s' s'') : Runs allowed s s'' :=
  Relation.ReflTransGen.trans first second

theorem tail {x : Step} (run : Runs allowed s s') (kind : allowed x) (move : Moves s' x s'') :
    Runs allowed s s'' :=
  Relation.ReflTransGen.tail run ⟨x, kind, move⟩

theorem mono {wider : Step → Prop} (weaken : ∀ x, allowed x → wider x)
    (run : Runs allowed s s') : Runs wider s s' := by
  induction run with
  | refl => exact refl
  | tail _ last ih =>
    obtain ⟨x, kind, move⟩ := last
    exact ih.tail (weaken x kind) move

/-- What every allowed change keeps holds at the end of a run. -/
theorem invariant (P : State → Prop) (run : Runs allowed s s') (start : P s)
    (keep : ∀ {s x s' a}, allowed x → Transition s x s' a → P s → P s') : P s' := by
  induction run with
  | refl => exact start
  | tail _ last ih =>
    obtain ⟨x, kind, move⟩ := last
    obtain ⟨a, change⟩ := move.transition
    exact keep kind change ih

theorem of_after? (steps : List Step) (kinds : ∀ x ∈ steps, allowed x)
    (after : s.after? steps = some s') : Runs allowed s s' := by
  induction steps generalizing s with
  | nil =>
    obtain rfl := Option.some.inj after
    exact refl
  | cons x rest ih =>
    obtain ⟨middle, move, after⟩ := Option.bind_eq_some_iff.mp after
    have first : Runs allowed s middle := refl.tail (kinds x List.mem_cons_self) move
    exact first.trans (ih (fun y member => kinds y (List.mem_cons_of_mem x member)) after)

end Runs

namespace Reachable
variable {s s' : State}

theorem runs {allowed : Step → Prop} (reached : Reachable s) (run : Runs allowed s s') :
    Reachable s' :=
  Runs.trans reached (run.mono fun _ _ => trivial)

theorem move {x : Step} (reached : Reachable s) (move : Moves s x s') : Reachable s' :=
  Runs.tail reached trivial move

theorem replay {steps : List Step} (possible : State.initial.after? steps = some (.replay steps)) :
    Reachable (.replay steps) :=
  Runs.of_after? steps (fun _ _ => trivial) possible

end Reachable

end MeshWatch.Monitor
