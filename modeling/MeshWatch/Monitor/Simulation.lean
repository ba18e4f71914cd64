import MeshWatch.Monitor.Config
import MeshWatch.Monitor.Engine
import MeshWatch.Monitor.Machine

/-!
# The monitor in time

One schedule of the machine. Whatever can be done is done at once; time, in milliseconds, moves
on only when everything waits, to the next tick of a session's polling or the end of a fetch.

A tick is taken when the poll before it has ended. One that is taken late puts off the ticks
after it. Periods, fetches and the time that is let pass have an upper limit; longer ones are cut
down to it.
-/
namespace MeshWatch.Monitor

/-- The polling of one session. -/
structure Loop where
  session : Nat
  /-- When the next tick is due. -/
  due : Nat
  /-- The poll that is under way. -/
  poll : Option Nat
deriving DecidableEq

inductive Caller
  | task (id : Nat)
  /-- A fetch that no session asked for. -/
  | outside
deriving DecidableEq

structure Fetch where
  caller : Caller
  ends : Nat
deriving DecidableEq

/-- What the engine was asked so far. -/
structure Tally where
  statusCalls : Nat
  fetchCalls : Nat
  /-- The most fetches that were under way at once. -/
  mostFetches : Nat

structure Simulation where
  period : Nat
  engine : Engine
  now : Nat
  state : State
  loops : List Loop
  fetches : List Fetch
  /-- What the calls that have ended came to. -/
  answers : List (Caller × Answer)
  tally : Tally
  notes : List Note

namespace Simulation

def new (period : Nat) (engine : Engine) : Simulation where
  period := period
  engine := engine
  now := 0
  state := .initial
  loops := []
  fetches := []
  answers := []
  tally := ⟨0, 0, 0⟩
  notes := []

def withNotes (s : Simulation) (notes : List Note) : Simulation :=
  { s with notes := s.notes ++ notes }

/-- Keeps what a call came to; a poll is only taken note of by its loop. -/
def keepAnswer (s : Simulation) : Task × Answer → Simulation
  | (⟨id, _, .poll, _⟩, _) =>
    { s with loops := s.loops.map fun l => if l.poll = some id then { l with poll := none } else l }
  | (⟨id, _, _, _⟩, answer) => { s with answers := s.answers ++ [(.task id, answer)] }

/-- Takes a step of the machine, if it can be taken. -/
def take (s : Simulation) (step : Step) : Simulation :=
  match Monitor.step s.state step with
  | none => s
  | some outcome =>
    let s := { s with state := outcome.state }.withNotes outcome.notes
    match outcome.answer with
    | none => s
    | some answer => s.keepAnswer answer

/-- The longest wait, in milliseconds: thirty years of 365 days. -/
def longestWait : Nat := 30 * 365 * 24 * 60 * 60 * 1000

/-- How long a wait for some milliseconds lasts. -/
def waitFor (ms : Nat) : Nat := min ms longestWait

/-- A tick that is taken more than this late puts off the ticks after it, in milliseconds. -/
def tolerance : Nat := 5

def nextDue (s : Simulation) (l : Loop) : Nat :=
  (if l.due + tolerance < s.now then s.now else l.due) + waitFor s.period

/-- What can be done without time passing. -/
inductive Action
  | endFetch (f : Fetch)
  | enter (task : Nat)
  | ask (task : Nat)
  | startFetch (caller : Caller)
  | tick (l : Loop)

def Task.action? (s : Simulation) (t : Task) : Option Action :=
  match t.phase with
  | .waiting => if s.state.isTurnOf t then some (.enter t.id) else none
  | .asking => some (.ask t.id)
  | .fetching =>
    if s.fetches.any (·.caller = .task t.id) then none else some (.startFetch (.task t.id))

def Loop.action? (s : Simulation) (l : Loop) : Option Action :=
  if l.poll.isNone ∧ l.due ≤ s.now then some (.tick l) else none

/-- The first thing to do now. -/
def action? (s : Simulation) : Option Action :=
  (((s.fetches.find? (·.ends ≤ s.now)).map .endFetch).or
    (s.state.tasks.findSome? (Task.action? s))).or (s.loops.findSome? (Loop.action? s))

def startFetch (s : Simulation) (caller : Caller) : Simulation :=
  let fetches := s.fetches ++ [⟨caller, s.now + waitFor s.engine.delay⟩]
  { s with
    fetches := fetches
    tally := { s.tally with
      fetchCalls := s.tally.fetchCalls + 1
      mostFetches := max s.tally.mostFetches fetches.length } }

def endFetch (s : Simulation) (f : Fetch) : Simulation :=
  let s := { s with fetches := s.fetches.erase f }.withNotes s.engine.fetchNotes
  match f.caller with
  | .task id => s.take (.fetched id s.engine.fetch)
  | .outside => { s with answers := s.answers ++ [(.outside, .raw s.engine.fetch)] }

def tick (s : Simulation) (l : Loop) : Simulation :=
  let loops := s.loops.map fun l' =>
    if l' = l then { l with due := s.nextDue l, poll := some s.state.nextTask } else l'
  { s with loops := loops }.take (.begin l.session .poll)

def perform (s : Simulation) : Action → Simulation
  | .endFetch f => s.endFetch f
  | .enter task => s.take (.enter task)
  | .ask task =>
    { s with tally := { s.tally with statusCalls := s.tally.statusCalls + 1 } }.take
      (.status task s.engine.status)
  | .startFetch caller => s.startFetch caller
  | .tick l => s.tick l

def settleWith : Nat → Simulation → Simulation
  | 0, s => s
  | fuel + 1, s =>
    match s.action? with
    | none => s
    | some action => settleWith fuel (s.perform action)

/-- More than can be done at one moment: a call needs four actions, a session catches up on at
most six ticks. -/
def actionBound (s : Simulation) : Nat :=
  4 * s.state.tasks.length + 36 * s.loops.length + s.fetches.length + 1

/-- Does everything that can be done now. -/
def settle (s : Simulation) : Simulation := settleWith s.actionBound s

/-- When there is something to do next. -/
def next? (s : Simulation) : Option Nat :=
  ((s.loops.filter (·.poll.isNone)).map (·.due) ++ s.fetches.map (·.ends)).min?

/-- Moves on to the given time. -/
def moveTo (s : Simulation) (time : Nat) : Simulation := { s with now := max time s.now }.settle

def advanceTo : Nat → Nat → Simulation → Simulation
  | 0, _, s => s
  | fuel + 1, time, s =>
    match s.next? with
    | none => s.moveTo time
    | some t => if t ≤ time then advanceTo fuel time (s.moveTo t) else s.moveTo time

/-- Lets some time pass. Every stop on the way is at least a millisecond after the one before. -/
def advance (s : Simulation) (ms : Nat) : Simulation :=
  advanceTo (waitFor ms + 1) (s.now + waitFor ms) s

def answer? (s : Simulation) (caller : Caller) : Option Answer := s.answers.lookup caller

def awaitWith : Nat → Caller → Simulation → Simulation
  | 0, _, s => s
  | fuel + 1, caller, s =>
    match s.answer? caller, s.next? with
    | none, some t => awaitWith fuel caller (s.moveTo t)
    | _, _ => s

/-- Lets time pass until a call has ended. Every call before it takes one fetch at most. -/
def await (s : Simulation) (caller : Caller) : Simulation :=
  awaitWith ((s.state.tasks.length + 2) * (s.engine.delay + 1)) caller s

/-! ## What a user does -/

def pollOrigin : String := "meshlens_monitor::poll_task"

/-- Starts a session. Its first tick is due at once. -/
def start (s : Simulation) (name : String) : Except StartError Simulation :=
  match s.state.installed with
  | some _ => .error .alreadyRunning
  | none =>
    let loop : Loop := ⟨s.state.sessions.length, s.now, none⟩
    let s := s.take (.start name)
    .ok ({ s with loops := s.loops ++ [loop] }.withNotes
      [⟨.info, pollOrigin, "Poll task started", ["instance", "interval_ms"], none⟩])

/-- Ends the polling of a session, dropping the poll that is under way. -/
def endLoop (s : Simulation) (session : Nat) : Simulation :=
  let polls := (s.loops.filter (·.session = session)).filterMap (·.poll)
  let s := polls.foldl (fun s id => s.take (.abandon id)) s
  { s with
    loops := s.loops.filter (·.session ≠ session)
    fetches := s.fetches.filter fun f => f.caller ∉ polls.map Caller.task }.withNotes
      [⟨.info, pollOrigin, "Poll task shutting down", ["instance", "cycles"], none⟩]

/-- Stops the session that is installed, if there is one. -/
def stop (s : Simulation) : Simulation :=
  match s.state.installed with
  | none => s
  | some i =>
    let s := ((s.take .stopTake).take (.stopCancel i)).take (.stopClear i)
    (s.endLoop i).withNotes
      [⟨.info, "meshlens_monitor", "Monitor stopped", ["instance"], some "stop"⟩]

/-- What a call comes to that finds no session. -/
def refusal : Call → Answer
  | .rawSnapshot => .raw none
  | _ => .cycle (.error .notRunning)

/-- Begins a call and gives it a number. -/
def begin (s : Simulation) (call : Call) : Nat × Simulation :=
  let id := s.state.nextTask
  match s.state.installed with
  | some i => (id, s.take (.begin i call))
  | none =>
    (id, { s with
      state := { s.state with nextTask := id + 1 }
      answers := s.answers ++ [(.task id, refusal call)] })

/-- A refresh or a fetch through the installed session, up to its end. -/
def call (s : Simulation) (call : Call) : Option Answer × Simulation :=
  let (id, s) := s.begin call
  let s := s.settle.await (.task id)
  (s.answer? (.task id), s)

/-- A fetch that no session asked for, up to its end. -/
def fetchOutside (s : Simulation) : Option String × Simulation :=
  let s := (s.startFetch .outside).settle.await .outside
  let text := match s.answer? .outside with
    | some (.raw text) => text
    | _ => none
  (text, { s with answers := s.answers.filter (·.1 ≠ .outside) })

end Simulation

end MeshWatch.Monitor
