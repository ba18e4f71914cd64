import MeshWatch.Monitor.View

/-!
# The monitor as a machine

Sessions, the calls that are under way in them and the published view, as one state that moves by
single steps. A step is what happens without another one in between; where a call has to wait,
for its turn, for the engine's status or for a fetch, its next part is a step of its own. The
calls of one session take turns in the order in which they came: one call at a time is past
waiting.

Stopping is three steps: the session is taken out of its place, marked as cancelled, and the view
is cleared. Other steps may come between them.
-/
namespace MeshWatch.Monitor

structure Report where
  absorption : Absorption
  peers : Nat
  historyLength : Nat
deriving DecidableEq

inductive CycleError
  | notRunning
  | noData
  | malformed (e : Snapshot.SnapshotError)

inductive StartError
  | alreadyRunning
deriving DecidableEq

def StartError.message : StartError → String
  | .alreadyRunning => "Monitor already running"

def CycleError.message : CycleError → String
  | .notRunning => "Engine not running"
  | .noData => "Engine returned no snapshot"
  | .malformed e => "Malformed snapshot: " ++ e.message

inductive Call
  /-- A cycle of the session's own polling. -/
  | poll
  | refresh
  /-- A fetch that leaves the session as it is. -/
  | rawSnapshot
deriving DecidableEq

inductive Phase
  | waiting
  | asking
  | fetching
deriving DecidableEq

structure Task where
  id : Nat
  session : Nat
  call : Call
  phase : Phase
deriving DecidableEq

structure Session where
  name : String
  cancelled : Bool
  progress : Progress

inductive StopStage
  | taken
  | cancelled
deriving DecidableEq

structure State where
  /-- Every session that was ever started, in order; a session is named by its place. -/
  sessions : List Session
  installed : Option Nat
  view : View
  /-- How often a view was published. -/
  published : Nat
  /-- The calls under way, in the order in which they came. -/
  tasks : List Task
  nextTask : Nat
  /-- Sessions whose stop is not complete. -/
  stops : List (Nat × StopStage)

inductive Step
  | start (name : String)
  /-- A call begins: a poll in any session, another call in the installed one. -/
  | begin (session : Nat) (call : Call)
  /-- A call gets its turn. -/
  | enter (task : Nat)
  | status (task : Nat) (answer : EngineStatus)
  | fetched (task : Nat) (answer : Option String)
  /-- A call is dropped wherever it is. -/
  | abandon (task : Nat)
  | stopTake
  | stopCancel (session : Nat)
  | stopClear (session : Nat)

/-- What a call comes to. -/
inductive Answer
  | cycle (result : Except CycleError Report)
  | raw (text : Option String)

structure Outcome where
  state : State
  /-- The call that ended in this step, with its answer. -/
  answer : Option (Task × Answer)
  notes : List Note

namespace State

def initial : State := ⟨[], none, .cleared, 0, [], 0, []⟩

def session? (s : State) (i : Nat) : Option Session := s.sessions[i]?

def task? (s : State) (id : Nat) : Option Task := s.tasks.find? (·.id == id)

def modifySession (s : State) (i : Nat) (f : Session → Session) : State :=
  { s with sessions := s.sessions.modify i f }

def withoutTask (s : State) (id : Nat) : State :=
  { s with tasks := s.tasks.filter (·.id != id) }

def withPhase (s : State) (id : Nat) (phase : Phase) : State :=
  { s with tasks := s.tasks.map fun t => if t.id = id then { t with phase := phase } else t }

/-- How many fetches are under way. -/
def fetches (s : State) : Nat := s.tasks.countP (·.phase = .fetching)

/-- Whether it is the turn of a waiting call: no call of its session is past waiting, and none
came before it. -/
def isTurnOf (s : State) (t : Task) : Bool :=
  t.phase = .waiting &&
    !s.tasks.any (fun u => u.session == t.session && u.phase ≠ .waiting) &&
    (s.tasks.find? fun u => u.session == t.session) == some t

def replaceView (s : State) (v : View) : State :=
  { s with view := v, published := s.published + 1 }

/-- Publishes a session's progress, unless the session is cancelled or nothing has changed. -/
def publish (s : State) (i : Nat) (p : Progress) : State :=
  match s.session? i with
  | none => s
  | some session =>
    let s := s.modifySession i fun session => { session with progress := p }
    if session.cancelled || p.isShownBy s.view then s else s.replaceView p.view

end State

def origin : String := "meshlens_monitor::session"

/-- A note of a session, which tells the name of its instance among other values. -/
def note (severity : Severity) (message : String) (values : List String) : Note :=
  ⟨severity, origin, message, "instance" :: values, none⟩

/-- What polling notes about the end of a cycle. -/
def pollNotes (call : Call) : Except CycleError Report → List Note
  | .ok _ => []
  | .error e =>
    match call, e with
    | .poll, .malformed _ =>
      [⟨.warn, "meshlens_monitor::poll_task", "Poll cycle failed", ["cycle", "error"], none⟩]
    | .poll, _ =>
      [⟨.debug, "meshlens_monitor::poll_task", "No update this cycle", ["cycle"], none⟩]
    | _, _ => []

/-- A cycle ends with a progress that is published first. -/
def endCycle (s : State) (t : Task) (p : Progress) (result : Except CycleError Report)
    (notes : List Note) : Outcome :=
  ⟨(s.publish t.session p).withoutTask t.id, some (t, .cycle result),
    notes ++ pollNotes t.call result⟩

/-- What a call finds when it gets its turn. -/
def enter (s : State) (t : Task) (session : Session) : Outcome :=
  match session.cancelled, t.call with
  | true, .rawSnapshot => ⟨s.withoutTask t.id, some (t, .raw none), []⟩
  | true, call =>
    ⟨s.withoutTask t.id, some (t, .cycle (.error .notRunning)),
      pollNotes call (.error .notRunning)⟩
  | false, .rawSnapshot => ⟨s.withPhase t.id .fetching, none, []⟩
  | false, _ => ⟨s.withPhase t.id .asking, none, []⟩

def onStatus (s : State) (t : Task) (session : Session) (answer : EngineStatus) : Outcome :=
  let p := { session.progress with status := answer }
  if answer.running then
    ⟨(s.modifySession t.session fun session => { session with progress := p }).withPhase t.id
      .fetching, none, []⟩
  else
    endCycle s t p (.error .notRunning) [note .debug "Engine not running, skipping fetch" []]

/-- What a cycle does with the text it fetched. -/
def onSnapshot (s : State) (t : Task) (session : Session) (text : String) : Outcome :=
  let p := session.progress
  let decodeNotes := Snapshot.decodeNotes text session.name
  match Snapshot.decode text session.name with
  | .error e =>
    endCycle s t p (.error (.malformed e))
      (decodeNotes ++ [note .warn "Malformed snapshot, keeping previous state" ["error"]])
  | .ok snapshot =>
    let (absorption, p') := p.afterSnapshot snapshot
    endCycle s t p' (.ok ⟨absorption, snapshot.peers.length, p'.history.length⟩)
      (decodeNotes ++ p.history.absorbNotes snapshot.records ++
        p.withLatestNotes snapshot.records ++
          [note .debug "Poll cycle complete" ["peers", "appended", "history"]])

def onFetched (s : State) (t : Task) (session : Session) (answer : Option String) : Outcome :=
  match t.call, answer with
  | .rawSnapshot, answer => ⟨s.withoutTask t.id, some (t, .raw answer), []⟩
  | _, none =>
    endCycle s t session.progress (.error .noData) [note .debug "Engine returned no snapshot" []]
  | _, some text => onSnapshot s t session text

/-- A call in the given phase, with its session. -/
def taskIn (s : State) (id : Nat) (phase : Phase) : Option (Task × Session) := do
  let t ← s.task? id
  if t.phase = phase then return (t, ← s.session? t.session) else none

def silent (s : State) : Outcome := ⟨s, none, []⟩

/-- One step of the machine; `none` if it cannot happen in this state. -/
def step (s : State) : Step → Option Outcome
  | .start name =>
    match s.installed with
    | some _ => none
    | none =>
      some ⟨{ s.replaceView .cleared with
        sessions := s.sessions ++ [⟨name, false, .initial⟩]
        installed := some s.sessions.length }, none,
        [⟨.info, "meshlens_monitor", "Monitor started", ["instance"], some "start"⟩]⟩
  | .begin i call =>
    if i < s.sessions.length ∧ (call = .poll ∨ s.installed = some i) then
      some (silent { s with
        tasks := s.tasks ++ [⟨s.nextTask, i, call, .waiting⟩]
        nextTask := s.nextTask + 1 })
    else none
  | .enter id => do
    let (t, session) ← taskIn s id .waiting
    if s.isTurnOf t then some (enter s t session) else none
  | .status id answer => do
    let (t, session) ← taskIn s id .asking
    return onStatus s t session answer
  | .fetched id answer => do
    let (t, session) ← taskIn s id .fetching
    return onFetched s t session answer
  | .abandon id => (s.task? id).map fun t => silent (s.withoutTask t.id)
  | .stopTake => s.installed.map fun i =>
    silent { s with installed := none, stops := s.stops ++ [(i, .taken)] }
  | .stopCancel i =>
    if (i, StopStage.taken) ∈ s.stops then
      some (silent { s.modifySession i fun session => { session with cancelled := true } with
        stops := s.stops.map fun stop => if stop = (i, .taken) then (i, .cancelled) else stop })
    else none
  | .stopClear i =>
    if (i, StopStage.cancelled) ∈ s.stops then
      some (silent { s.replaceView .cleared with
        stops := s.stops.filter fun stop => stop ≠ (i, .cancelled) })
    else none

end MeshWatch.Monitor
