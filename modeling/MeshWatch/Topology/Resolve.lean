import MeshWatch.Topology.Table
import MeshWatch.Measure

/-!
# Peers of a snapshot

Each route becomes one peer. A route with a link of its own is direct, every other one goes
through its next hop. Peers are ordered by hostname; those of one hostname keep the order of
their routes.
-/
namespace MeshWatch.Topology

def peerOf (r : Route) (isDirect : Bool) (connection latency traffic : String) : Peer :=
  ⟨r.hostname, r.virtualIpLabel, isDirect, connection, latency, traffic, r.version, r.natClass,
    r.cost, r.nextHop, r.peerId, r.instanceId⟩

def directPeer (r : Route) (l : Link) : Peer :=
  peerOf r true l.remoteAddress (Measure.latency l.latency) (Measure.traffic l.received l.sent)

/-- `hop` is the hostname of the next hop, if it is known. -/
def relayedPeer (r : Route) (hop : Option String) : Peer :=
  peerOf r false ("via " ++ hop.getD "unknown") (Measure.pathLatency r.pathLatency)
    "not applicable"

def peer (routes : RouteTable) (links : LinkTable) (r : Route) : Peer :=
  match links.get? r.peerId with
  | some l => directPeer r l
  | none => relayedPeer r (routes.hostname? r.nextHop)

/-- Texts are ordered by code point, which is also the order of their UTF-8 bytes. -/
def notAfter (p q : Peer) : Bool := !decide (q.hostname < p.hostname)

def resolve (routes : RouteTable) (links : LinkTable) : List Peer :=
  (routes.toList.map (peer routes links)).mergeSort notAfter

end MeshWatch.Topology
