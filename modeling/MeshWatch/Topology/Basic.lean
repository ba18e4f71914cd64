import MeshWatch.Address
import MeshWatch.NatClass

/-!
# Nodes, routes, links and peers

What one snapshot says about the mesh. Routes name every node known anywhere, links only those
with a connection of their own; a peer is a route joined with its link, as texts to be shown.
-/
namespace MeshWatch

/-- The local node. -/
structure Node where
  hostname : String
  version : String
  virtualAddress : Option VirtualAddress
  publicAddresses : List String
  natClass : NatClass
  listeners : List String
  interfaceAddresses : List Ipv4
deriving DecidableEq

structure Route where
  peerId : UInt64
  hostname : String
  virtualIp : Option Ipv4
  nextHop : UInt64
  pathLatency : UInt32
  cost : Int32
  version : String
  natClass : NatClass
  instanceId : String
deriving DecidableEq

/-- A connection to a peer without a node in between. -/
structure Link where
  peerId : UInt64
  remoteAddress : String
  latency : UInt64
  received : UInt64
  sent : UInt64
deriving DecidableEq

structure Peer where
  hostname : String
  virtualIp : String
  isDirect : Bool
  /-- The remote address of a direct peer, `via` a host for the others. -/
  connection : String
  latency : String
  traffic : String
  version : String
  natClass : NatClass
  cost : Int32
  nextHop : UInt64
  peerId : UInt64
  instanceId : String
deriving DecidableEq

structure Topology where
  node : Node
  peers : List Peer
deriving DecidableEq

structure EngineStatus where
  running : Bool
  instanceName : String
  virtualIpv4 : Option String
  proxyCidrs : List String
deriving DecidableEq

def Node.virtualAddressLabel (n : Node) : String :=
  match n.virtualAddress with
  | some a => a.text
  | none => "unassigned"

def Node.publicAddressesLabel (n : Node) : String :=
  if n.publicAddresses = [] then "N/A" else Text.joinWith ", " n.publicAddresses

def Route.virtualIpLabel (r : Route) : String :=
  match r.virtualIp with
  | some a => a.text
  | none => "no virtual IP"

namespace EngineStatus

def stopped : EngineStatus := ⟨false, "", none, []⟩

def started (name : String) : EngineStatus := ⟨true, name, none, []⟩

end EngineStatus

end MeshWatch
