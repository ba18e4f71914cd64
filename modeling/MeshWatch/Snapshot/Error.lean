import MeshWatch.Data.Reader

/-!
# What can be wrong with a snapshot
-/
namespace MeshWatch.Snapshot

/-- The parts of an instance's report that are read. -/
inductive Section
  | node
  | routes
  | peers
  | records
deriving DecidableEq

def Section.name : Section → String
  | .node => "my_node_info"
  | .routes => "routes"
  | .peers => "peers"
  | .records => "events"

inductive SnapshotError
  | notJson
  | missingMap
  /-- What stands under the instance's name is not a record. -/
  | instanceNotRecord
  | missingSection (s : Section)
  | noInstance (name : String)
  | malformed (s : Section) (cause : Data.Mismatch)

def SnapshotError.message : SnapshotError → String
  | .notJson => "Snapshot is not valid JSON"
  | .missingMap => "Snapshot is missing required field `map`"
  | .instanceNotRecord => "Snapshot is missing required field `map.<instance>`"
  | .missingSection s => "Snapshot is missing required field `" ++ s.name ++ "`"
  | .noInstance name => "Instance `" ++ name ++ "` not present in snapshot"
  | .malformed s cause => "Malformed `" ++ s.name ++ "` section: " ++ cause.message

end MeshWatch.Snapshot
