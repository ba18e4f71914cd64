import MeshWatch.Event.Clock
import MeshWatch.Event.Kind
import MeshWatch.Json.Parser
import MeshWatch.Snapshot.Decode

/-!
# Translating records

A record is a JSON text that holds a time and an event: a record of one tag with its payload. Of
several tags the first in the order of texts counts. Records that cannot be translated are left
out of a batch.
-/
namespace MeshWatch.Event

open Data (Reader)
open Data.Fields (required)

/-- A record's members, as plain values. The record itself is one level of nesting. -/
def readTagged : Reader (List (String × Data)) := fun d =>
  match d.value? (Json.depthLimit - 1) with
  | some (.record members) => .ok members
  | _ => .error (.wrongType d "a map")

def readWritten : Reader (String × List (String × Data)) :=
  .record "struct WireEvent" ((fun time event => (time, event)) <$>
    required "time" Reader.text <*> required "event" readTagged)

def entry (clock time : String) (e : Event) : LogEntry := ⟨clock, e.message, e.level, time⟩

/-- The time is looked at before the event. -/
def ofWritten (time : String) (event : List (String × Data)) : Except EventError LogEntry :=
  match clock? time, event with
  | none, _ => .error (.invalidTime time)
  | some _, [] => .error .noEvent
  | some clock, (tag, payload) :: _ => (ofTagged tag payload).map (entry clock time)

def translate (raw : RawRecord) : Except EventError LogEntry :=
  match (Json.tree? raw).map readWritten with
  | some (.ok (time, event)) => ofWritten time event
  | _ => .error .notJson

def translateAll (raws : List RawRecord) : List LogEntry :=
  raws.filterMap fun raw => (translate raw).toOption

def skipped : Note :=
  ⟨.warn, "meshlens_events::translator", "Skipping untranslatable event record",
    ["error", "raw"], none⟩

/-- One note for each record that is left out. -/
def translateNotes (raws : List RawRecord) : List Note :=
  raws.filterMap fun raw =>
    match translate raw with
    | .ok _ => none
    | .error _ => some skipped

end MeshWatch.Event
