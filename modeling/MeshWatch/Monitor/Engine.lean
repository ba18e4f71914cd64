import MeshWatch.Disk
import MeshWatch.Monitor.View

/-!
# Engines

What a monitor asks: a status, and a snapshot that takes a while to fetch. An engine is described
by what it would say now; one that is not running has nothing to fetch.
-/
namespace MeshWatch.Monitor

structure Engine where
  status : EngineStatus
  snapshot : Option String
  /-- How long a fetch takes, in milliseconds. -/
  delay : Nat
  /-- What is noted when a fetch comes to nothing. -/
  failure : List Note

namespace Engine

/-- What a fetch that ends now brings. -/
def fetch (e : Engine) : Option String := if e.status.running then e.snapshot else none

def fetchNotes (e : Engine) : List Note := if e.fetch.isNone then e.failure else []

/-- An engine under the control of its user. -/
def scripted (status : EngineStatus) (snapshot : Option String) (delay : Nat) : Engine :=
  ⟨status, snapshot, delay, []⟩

def withRunning (e : Engine) (running : Bool) : Engine :=
  { e with status := { e.status with running := running } }

/-- A file that stands for an engine: it runs as long as something is at the path. -/
def ofFile (d : Disk) (p : Path) (name : String) : Engine where
  status := { EngineStatus.started name with running := (d.item? p).isSome }
  snapshot := d.readText? p
  delay := 0
  failure := [⟨.debug, "meshlens_monitor::file_bridge", "Failed to read snapshot file",
    ["path", "error"], none⟩]

end Engine

end MeshWatch.Monitor
