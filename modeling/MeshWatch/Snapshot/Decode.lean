import MeshWatch.Json.Parser
import MeshWatch.Note
import MeshWatch.Snapshot.Section
import MeshWatch.Topology.Resolve

/-!
# Snapshots

One instance's part of the document in which the engine reports all its instances. Nothing comes
out of a document that has a fault anywhere in that part.
-/
namespace MeshWatch

/-- An event as the engine wrote it. Two records are the same event if their texts are equal. -/
abbrev RawRecord := String

structure Snapshot where
  node : Node
  routes : RouteTable
  links : LinkTable
  /-- Oldest first. -/
  records : List RawRecord

namespace Snapshot

def peers (s : Snapshot) : List Peer := Topology.resolve s.routes s.links

def topology (s : Snapshot) : Topology := ⟨s.node, s.peers⟩

/-- The report of an instance in a text. -/
def report (text name : String) : Except SnapshotError (List (String × Data)) :=
  match Json.value? text with
  | none => .error .notJson
  | some document => instance? document name

def ofSections (s : Sections) : Except SnapshotError Snapshot :=
  match firstLinks s.peers with
  | .ok links => .ok ⟨s.node, .ofList s.routes, .ofList links, s.records.reverse⟩
  | .error cause => .error (.malformed .peers cause)

/-- One instance's snapshot. Faults of the peers' first connections come after all others. -/
def decode (text name : String) : Except SnapshotError Snapshot :=
  (report text name).bind fun members => (sections members).bind ofSections

/-- The records alone, oldest first. The other sections are not looked into. -/
def extractRecords (text name : String) : Except SnapshotError (List RawRecord) := do
  let members ← report text name
  return (← readRecords members).reverse

def repeatedRoute : Note :=
  ⟨.warn, "meshlens_topology::table", "Duplicate route in snapshot, keeping first", ["peer_id"],
    none⟩

def decoded : Note :=
  ⟨.debug, "meshlens_topology::decoder", "Decoded snapshot",
    ["instance", "routes", "direct", "events"], none⟩

/-- One note for each route that is not the first of its peer. -/
def routeNotes (routes : List Route) : List Note :=
  ((Table.empty : RouteTable).refused routes).map fun _ => repeatedRoute

/-- What decoding notes. Routes are noted also when a connection stops the snapshot. -/
def decodeNotes (text name : String) : List Note :=
  match (report text name).bind sections with
  | .error _ => []
  | .ok s =>
    match ofSections s with
    | .ok _ => routeNotes s.routes ++ [decoded]
    | .error _ => routeNotes s.routes

end Snapshot

end MeshWatch
