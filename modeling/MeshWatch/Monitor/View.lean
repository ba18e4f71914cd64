import MeshWatch.Event.History
import MeshWatch.Snapshot.Decode

/-!
# Views and the progress of a session

A session keeps what it has learnt from the engine; a view is the part of it that is published.
The history only grows within a session, so a view is compared by the length and the last record
of its history and not by all of it.
-/
namespace MeshWatch.Monitor

structure View where
  status : EngineStatus
  topology : Option Topology
  history : History
  /-- The translatable events of the latest snapshot. -/
  latest : List LogEntry
deriving DecidableEq

namespace View

def cleared : View := ⟨.stopped, none, .empty, []⟩

def isEmpty (v : View) : Bool := v.topology.isNone && v.history.records.isEmpty && v.latest.isEmpty

def node? (v : View) : Option Node := v.topology.map (·.node)

def peers (v : View) : List Peer := (v.topology.map (·.peers)).getD []

end View

structure Progress where
  status : EngineStatus
  topology : Option Topology
  history : History
  latest : List LogEntry
  /-- The records that `latest` was translated from. -/
  latestRecords : List RawRecord
deriving DecidableEq

namespace Progress

def initial : Progress := ⟨.stopped, none, .empty, [], []⟩

def view (p : Progress) : View := ⟨p.status, p.topology, p.history, p.latest⟩

/-- Whether a view already shows this progress, as far as it is compared. -/
def isShownBy (p : Progress) (v : View) : Bool :=
  p.status = v.status && p.history.length == v.history.length &&
    p.history.last? == v.history.last? && p.topology = v.topology && p.latest = v.latest

/-- Takes over the events of a snapshot. Records that did not change are not translated again. -/
def withLatest (p : Progress) (records : List RawRecord) : Progress :=
  if records = p.latestRecords then p
  else { p with latest := Event.translateAll records, latestRecords := records }

def withLatestNotes (p : Progress) (records : List RawRecord) : List Note :=
  if records = p.latestRecords then [] else Event.translateNotes records

def afterSnapshot (p : Progress) (s : Snapshot) : Absorption × Progress :=
  let (absorption, history) := p.history.absorb s.records
  (absorption, { p with history := history, topology := some s.topology }.withLatest s.records)

end Progress

end MeshWatch.Monitor
