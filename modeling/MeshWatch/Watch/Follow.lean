import MeshWatch.Watch.Printer

/-!
# Following the published views

A watcher is told that views are published, looks at the latest one from time to time and prints
what it adds, until it is shut down. It keeps the view that it saw last.
-/
namespace MeshWatch.Watch

open Monitor (View)

inductive Signal
  | publish (v : View)
  /-- The watcher looks at the latest view. -/
  | look
  | shutDown (succeeds : Bool)

inductive Phase
  | watching
  | interrupted
  /-- Waiting for the end has failed. -/
  | failed
deriving DecidableEq

structure Watcher where
  /-- The published view. -/
  latest : View
  /-- Whether the published view is one that was not looked at. -/
  unseen : Bool
  /-- The view that was looked at last. -/
  last : View
  printer : Printer
  /-- What was printed, one addition for each look. -/
  printed : List Addition
  phase : Phase

namespace Watcher

def see (w : Watcher) (v : View) : Watcher :=
  let (addition, printer) := w.printer.print v
  { w with unseen := false, last := v, printer := printer, printed := w.printed ++ [addition] }

/-- A watcher begins by looking at the published view. -/
def new (v : View) : Watcher := (mk v true v .new [] .watching).see v

def step (w : Watcher) : Signal → Watcher
  | .publish v => { w with latest := v, unseen := true }
  | .look => if w.phase = .watching ∧ w.unseen then w.see w.latest else w
  | .shutDown succeeds =>
    if w.phase = .watching then { w with phase := if succeeds then .interrupted else .failed }
    else w

def origin : String := "meshlens::watch"

def stepNotes (w : Watcher) : Signal → List Note
  | .publish _ => []
  | .look => if w.phase = .watching ∧ w.unseen then w.printer.printNotes w.latest else []
  | .shutDown succeeds =>
    if w.phase = .watching ∧ succeeds then [⟨.info, origin, "Interrupted", [], none⟩] else []

def follow (w : Watcher) (signals : List Signal) : Watcher := signals.foldl step w

def text (w : Watcher) : String := String.join (w.printed.map Addition.text)

/-- The history that a watcher brings back: that of the view it saw last. -/
def history (w : Watcher) : History := w.last.history

end Watcher

end MeshWatch.Watch
