import MeshWatch.Saved
import MeshWatch.Snapshot.Decode

/-!
# Drafts of snapshots

Writes snapshots the way an engine does, from a few words about the mesh. A draft describes one
instance; the members of every record stand in the order of their names.
-/
namespace MeshWatch.Snapshot

open Saved (write)

structure RouteDraft where
  peerId : UInt64
  hostname : String
  nextHop : UInt64
  /-- A packed address. -/
  address : Option Int64
  pathLatency : UInt32
  cost : Int32
  natCode : Option Int64

structure ConnectionDraft where
  peerId : UInt64
  url : String
  latency : UInt64

structure Draft where
  instanceName : String
  hostname : String
  address : Option (Int64 × UInt8)
  publicAddresses : List String
  natCode : Int64
  listeners : List String
  interfaces : List Int64
  routes : List RouteDraft
  peers : List (List ConnectionDraft)
  /-- Newest first. -/
  records : List RawRecord

def engineVersion : String := "2.3.0"

namespace RouteDraft

/-- A route whose address ends in the low byte of the peer's id. -/
def new (peerId : UInt64) (hostname : String) (nextHop : UInt64) : RouteDraft where
  peerId := peerId
  hostname := hostname
  nextHop := nextHop
  address := some (0x0A909000 ||| (peerId &&& 0xFF).toInt64)
  pathLatency := 10
  cost := if peerId = nextHop then 1 else 2
  natCode := some 0

def data (r : RouteDraft) : Data :=
  .present [("cost", some (write r.cost)), ("hostname", some (write r.hostname)),
    ("inst_id", some (.text ("inst-" ++ toString r.peerId.toNat))),
    ("ipv4_addr", r.address.map fun a =>
      .record [("address", .record [("addr", write a)]), ("network_length", .int 24)]),
    ("next_hop_peer_id", some (write r.nextHop)), ("path_latency", some (write r.pathLatency)),
    ("peer_id", some (write r.peerId)),
    ("stun_info", r.natCode.map fun code =>
      .record [("public_ip", .list []), ("udp_nat_type", write code)]),
    ("version", some (.text engineVersion))]

end RouteDraft

/-- What stands before the first `://`, or the whole text. -/
def schemeChars : List Char → List Char
  | [] => []
  | ':' :: '/' :: '/' :: _ => []
  | c :: rest => c :: schemeChars rest

namespace ConnectionDraft

def received : UInt64 := 2048

def sent : UInt64 := 1024

def data (c : ConnectionDraft) : Data :=
  .record [("peer_id", write c.peerId),
    ("stats", .record [("latency_us", write c.latency), ("rx_bytes", write received),
      ("tx_bytes", write sent)]),
    ("tunnel", .record [("remote_addr", .record [("url", .text c.url)]),
      ("tunnel_type", .text (String.ofList (schemeChars c.url.toList)))])]

end ConnectionDraft

/-- A record of an event, as the engine writes it. -/
def recordOf (time tag : String) (payload : Data) : RawRecord :=
  Json.compact (.record [("event", .record [(tag, payload)]), ("time", .text time)])

namespace Draft

def new (instanceName : String) : Draft :=
  ⟨instanceName, "self-node", none, [], 0, [], [], [], [], []⟩

def packed (a : Int64) : Data := .record [("addr", write a)]

def nodeData (d : Draft) : Data :=
  .present [("hostname", some (.text d.hostname)),
    ("ips", some (.record [("interface_ipv4s", .list (d.interfaces.map packed))])),
    ("listeners", some (.list (d.listeners.map fun url => .record [("url", .text url)]))),
    ("stun_info", some (.record [("public_ip", Data.texts d.publicAddresses),
      ("udp_nat_type", write d.natCode)])),
    ("version", some (.text engineVersion)),
    ("virtual_ipv4", d.address.map fun (a, length) =>
      .record [("address", packed a), ("network_length", write length)])]

def data (d : Draft) : Data :=
  .record [("map", .record [(d.instanceName, .record [
    ("events", Data.texts d.records),
    ("my_node_info", d.nodeData),
    ("peers", .list (d.peers.map fun connections =>
      .record [("conns", .list (connections.map ConnectionDraft.data))])),
    ("routes", .list (d.routes.map RouteDraft.data))])])]

/-- The text of the document. -/
def text (d : Draft) : String := Json.compact d.data

end Draft

end MeshWatch.Snapshot
