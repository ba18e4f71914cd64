import MeshWatch.Topology.Basic
import MeshWatch.Snapshot.Error

/-!
# Sections of an instance's report

The typed parts of one instance's report. Members that are not named here are skipped, and of a
peer's connections only the first is looked into.
-/
namespace MeshWatch.Snapshot

open Data (Reader)
open Data.Fields (required defaulted)

def readAddress : Reader Ipv4 :=
  .record "struct WireAddr" (Ipv4.ofPacked <$> required "addr" Reader.i64)

def readNetwork : Reader VirtualAddress :=
  .record "struct WireInet" (VirtualAddress.mk <$> required "address" readAddress <*>
    required "network_length" Reader.u8)

def readUrl : Reader String := .record "struct WireUrl" (id <$> required "url" Reader.text)

/-- How a node looks from outside. -/
structure Outside where
  publicAddresses : List String
  natCode : Int64

def readOutside : Reader Outside :=
  .record "struct WireStunInfo" (Outside.mk <$>
    defaulted "public_ip" (Reader.list Reader.text) [] <*>
    defaulted "udp_nat_type" Reader.i64 0)

def readInterfaces : Reader (List Ipv4) :=
  .record "struct WireIps" (id <$> defaulted "interface_ipv4s" (Reader.list readAddress) [])

def nodeOf (hostname version : String) (address : Option VirtualAddress)
    (interfaces : List Ipv4) (outside : Outside) (listeners : List String) : Node :=
  ⟨hostname, version, address, outside.publicAddresses, .ofCode outside.natCode, listeners,
    interfaces⟩

def readNode : Reader Node :=
  .record "struct WireNodeInfo" (nodeOf <$> required "hostname" Reader.text <*>
    required "version" Reader.text <*>
    defaulted "virtual_ipv4" (Reader.option readNetwork) none <*>
    required "ips" readInterfaces <*> required "stun_info" readOutside <*>
    defaulted "listeners" (Reader.list readUrl) [])

def routeOf (peerId : UInt64) (hostname : String) (address : Option VirtualAddress)
    (nextHop : UInt64) (pathLatency : UInt32) (cost : Int32) (version : String)
    (outside : Option Outside) (instanceId : String) : Route :=
  ⟨peerId, hostname, address.map (·.address), nextHop, pathLatency, cost, version,
    .ofCode ((outside.map (·.natCode)).getD 0), instanceId⟩

def readRoute : Reader Route :=
  .record "struct WireRoute" (routeOf <$> required "peer_id" Reader.u64 <*>
    required "hostname" Reader.text <*>
    defaulted "ipv4_addr" (Reader.option readNetwork) none <*>
    required "next_hop_peer_id" Reader.u64 <*> required "path_latency" Reader.u32 <*>
    required "cost" Reader.i32 <*> required "version" Reader.text <*>
    defaulted "stun_info" (Reader.option readOutside) none <*>
    required "inst_id" Reader.text)

/-- A peer's connections, not looked into. -/
def readPeer : Reader (List Data) :=
  .record "struct WirePeer" (id <$> defaulted "conns" (Reader.list .ok) [])

def readTunnel : Reader String :=
  .record "struct WireTunnel" (id <$> required "remote_addr" readUrl)

/-- Latency, bytes received and bytes sent. -/
def readStatistics : Reader (UInt64 × UInt64 × UInt64) :=
  .record "struct WireStats" ((fun latency received sent => (latency, received, sent)) <$>
    required "latency_us" Reader.u64 <*> required "rx_bytes" Reader.u64 <*>
    required "tx_bytes" Reader.u64)

def linkOf (peerId : UInt64) (remote : String) (statistics : UInt64 × UInt64 × UInt64) : Link :=
  ⟨peerId, remote, statistics.1, statistics.2.1, statistics.2.2⟩

def readConnection : Reader Link :=
  .record "struct WireConn" (linkOf <$> required "peer_id" Reader.u64 <*>
    required "tunnel" readTunnel <*> required "stats" readStatistics)

/-- The links of the peers that have a connection. -/
def firstLinks : List (List Data) → Except Data.Mismatch (List Link)
  | [] => .ok []
  | [] :: rest => firstLinks rest
  | (first :: _) :: rest => do
    let link ← readConnection first
    let others ← firstLinks rest
    return link :: others

/-- One instance's report, section by section. Records come newest first. -/
structure Sections where
  node : Node
  routes : List Route
  peers : List (List Data)
  records : List String

/-- The members of one instance in a document of several. -/
def instance? (document : Data) (name : String) :
    Except SnapshotError (List (String × Data)) :=
  match document with
  | .record members =>
    match Data.member? "map" members with
    | some (.record instances) =>
      match Data.member? name instances with
      | some (.record report) => .ok report
      | some _ => .error .instanceNotRecord
      | none => .error (.noInstance name)
    | _ => .error .missingMap
  | _ => .error .missingMap

def readSection (report : List (String × Data)) (s : Section) (read : Reader α) :
    Except SnapshotError α :=
  match Data.member? s.name report with
  | none => .error (.missingSection s)
  | some d =>
    match read d with
    | .ok a => .ok a
    | .error cause => .error (.malformed s cause)

def readRecords (report : List (String × Data)) : Except SnapshotError (List String) :=
  readSection report .records (Reader.list Reader.text)

def sections (report : List (String × Data)) : Except SnapshotError Sections := do
  let node ← readSection report .node readNode
  let routes ← readSection report .routes (Reader.list readRoute)
  let peers ← readSection report .peers (Reader.list readPeer)
  let records ← readRecords report
  return ⟨node, routes, peers, records⟩

end MeshWatch.Snapshot
