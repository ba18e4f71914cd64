import MeshWatch.Monitor.View

/-!
# Printing views

A printer is shown one view after another and prints what each adds: the log entries that are new
and the number of peers if it changed. A history that has become shorter belongs to a new session
and is printed from its beginning.
-/
namespace MeshWatch.Watch

open Monitor (View)

structure Printer where
  /-- How many records of the history are done. -/
  printed : Nat
  peerCount : Option Nat
deriving DecidableEq

/-- What is printed for one view. -/
structure Addition where
  entries : List LogEntry
  peerCount : Option Nat
deriving DecidableEq

def peersLine (n : Nat) : String := "-- " ++ toString n ++ " peer(s) --"

/-- The lines of an addition that are log entries, and the one that tells the peers. -/
def Addition.entryLines (a : Addition) : List String := a.entries.map LogEntry.displayText

def Addition.countLines (a : Addition) : List String := (a.peerCount.map peersLine).toList

def Addition.lines (a : Addition) : List String := a.entryLines ++ a.countLines

def Addition.text (a : Addition) : String := String.join (a.lines.map (· ++ "\n"))

namespace Printer

def new : Printer := ⟨0, none⟩

/-- Where the records of a view begin that are still to be printed. -/
def offset (p : Printer) (v : View) : Nat := if v.history.length < p.printed then 0 else p.printed

def print (p : Printer) (v : View) : Addition × Printer :=
  let count := v.topology.map (·.peers.length)
  let changed := count.isSome ∧ count ≠ p.peerCount
  (⟨v.history.entriesSince (p.offset v), if changed then count else none⟩,
    ⟨v.history.length, if changed then count else p.peerCount⟩)

def printNotes (p : Printer) (v : View) : List Note :=
  Event.translateNotes (v.history.records.drop (p.offset v)) ++
    if (p.print v).1.peerCount.isSome then
      [⟨.debug, "meshlens::watch", "Peer count changed", ["peers"], none⟩]
    else []

end Printer

end MeshWatch.Watch
