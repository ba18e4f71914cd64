import MeshWatch.Monitor.Simulation
import MeshWatch.Watch.Follow

/-!
# Watching a session

A session is started, watched until the shutdown and then stopped. The engine may change at given
times. If a change and something that the monitor waits for come at one moment, the one that was
waited for first goes first; the shutdown goes before both.
-/
namespace MeshWatch.Watch

open Monitor (Engine Simulation StartError)

/-- A change of the engine. -/
structure Change where
  time : Nat
  snapshot : Option (Option String)
  running : Option Bool

def Change.apply (c : Change) (e : Engine) : Engine :=
  let e := match c.snapshot with
    | some snapshot => { e with snapshot := snapshot }
    | none => e
  match c.running with
  | some running => e.withRunning running
  | none => e

/-- The changes that are still to come. -/
structure Agenda where
  changes : List Change
  /-- Whether the next change has been waited for longer than what the monitor waits for. -/
  goesFirst : Bool

namespace Agenda

def next? (a : Agenda) : Option Nat := a.changes.head?.map (·.time)

def isDue (a : Agenda) (now : Nat) : Bool := a.next?.any (· ≤ now)

end Agenda

inductive WatchError
  | start (e : StartError)
  | shutdown
deriving DecidableEq

def WatchError.message : WatchError → String
  | .start e => e.message
  | .shutdown => "waiting for shutdown"

structure Run where
  monitor : Simulation
  watcher : Watcher

namespace Run

def signal (r : Run) (s : Signal) : Run :=
  ⟨r.monitor.withNotes (r.watcher.stepNotes s), r.watcher.step s⟩

/-- Lets the monitor do what it can do now; the watcher looks at a view that this publishes. -/
def settle (r : Run) : Run :=
  let monitor := r.monitor.settle
  let r' : Run := { r with monitor := monitor }
  if monitor.state.published = r.monitor.state.published then r'
  else (r'.signal (.publish monitor.state.view)).signal .look

def moveTo (r : Run) (time : Nat) : Run :=
  { r with monitor := { r.monitor with now := max time r.monitor.now } }

def change (r : Run) (c : Change) : Run :=
  { r with monitor := { r.monitor with engine := c.apply r.monitor.engine } }

/-- Applies the changes whose time has come, up to the first one whose time has not. -/
def applyDue (r : Run) : List Change → List Change × Run
  | [] => ([], r)
  | c :: rest =>
    if c.time ≤ r.monitor.now then (r.change c).applyDue rest else (c :: rest, r)

/-- The monitor and the changes take turns in the order in which they began to wait. The one that
is not due goes on waiting and is first the next time. -/
def turn (r : Run) (a : Agenda) : Agenda × Run :=
  let isMonitorDue := r.monitor.action?.isSome
  if !a.isDue r.monitor.now then (⟨a.changes, a.goesFirst || isMonitorDue⟩, r.settle)
  else if isMonitorDue && !a.goesFirst then
    let (changes, r) := r.settle.applyDue a.changes
    (⟨changes, false⟩, r)
  else
    let (changes, r) := r.applyDue a.changes
    (⟨changes, isMonitorDue⟩, r.settle)

def watchWith : Nat → Agenda → Nat → Run → Run
  | 0, _, _, r => r
  | fuel + 1, a, stopTime, r =>
    if stopTime ≤ r.monitor.now then r
    else
      let (a, r) := r.turn a
      let limit := (a.next?.map (min · stopTime)).getD stopTime
      let time := (r.monitor.next?.map (min · limit)).getD limit
      watchWith fuel a stopTime (r.moveTo time)

/-- Watches until the given time, applying the changes that come before it. Each round takes a
millisecond at least. -/
def watch (r : Run) (changes : List Change) (stopTime : Nat) : Run :=
  watchWith (stopTime - r.monitor.now + 1) ⟨changes, true⟩ stopTime r

end Run

/-- Starts a session, watches it until the shutdown and stops it. If waiting for the shutdown
fails, the session is left as it is. -/
def run (s : Simulation) (name : String) (changes : List Change) (stopTime : Nat)
    (shutdownSucceeds : Bool) : Except WatchError History × String × Simulation :=
  match s.start name with
  | .error e => (.error (.start e), "", s)
  | .ok started =>
    let r : Run := ⟨started, .new started.state.view⟩
    let r := (r.watch changes stopTime).signal (.shutDown shutdownSucceeds)
    if shutdownSucceeds then (.ok r.watcher.history, r.watcher.text, r.monitor.stop)
    else (.error .shutdown, r.watcher.text, r.monitor)

inductive Format
  | json
  | text
deriving DecidableEq

/-- What a file of the exported history holds, if there is anything to export. -/
def exported? (h : History) : Format → Option String
  | .json => h.exportJson
  | .text => h.exportText

def exportNotes (h : History) : Format → List Note
  | .json => []
  | .text => Event.translateNotes h.records

end MeshWatch.Watch
