import MeshWatch.Topology.Basic

/-!
# Records of nodes, routes, links and peers

How the values of a topology are saved, with their fields in the order of declaration.
-/
namespace MeshWatch

open Saved (field field? write)

instance : Saved Node where
  write n := .record [("hostname", write n.hostname), ("version", write n.version),
    ("virtual_addr", write n.virtualAddress), ("public_addrs", write n.publicAddresses),
    ("nat_type", write n.natClass), ("listeners", write n.listeners),
    ("interface_addrs", write n.interfaceAddresses)]
  read := .record "a node" (Node.mk <$> field "hostname" <*> field "version" <*>
    field? "virtual_addr" <*> field "public_addrs" <*> field "nat_type" <*> field "listeners" <*>
    field "interface_addrs")

instance : Saved Route where
  write r := .record [("peer_id", write r.peerId), ("hostname", write r.hostname),
    ("virtual_ip", write r.virtualIp), ("next_hop_peer_id", write r.nextHop),
    ("path_latency_ms", write r.pathLatency), ("cost", write r.cost),
    ("version", write r.version), ("nat_type", write r.natClass),
    ("instance_id", write r.instanceId)]
  read := .record "a route" (Route.mk <$> field "peer_id" <*> field "hostname" <*>
    field? "virtual_ip" <*> field "next_hop_peer_id" <*> field "path_latency_ms" <*>
    field "cost" <*> field "version" <*> field "nat_type" <*> field "instance_id")

instance : Saved Link where
  write l := .record [("peer_id", write l.peerId), ("remote_addr", write l.remoteAddress),
    ("latency_us", write l.latency), ("rx_bytes", write l.received), ("tx_bytes", write l.sent)]
  read := .record "a link" (Link.mk <$> field "peer_id" <*> field "remote_addr" <*>
    field "latency_us" <*> field "rx_bytes" <*> field "tx_bytes")

instance : Saved Peer where
  write p := .record [("hostname", write p.hostname), ("virtual_ip", write p.virtualIp),
    ("is_direct", write p.isDirect), ("connection_details", write p.connection),
    ("latency", write p.latency), ("traffic", write p.traffic), ("version", write p.version),
    ("nat_type", write p.natClass), ("cost", write p.cost),
    ("next_hop_peer_id", write p.nextHop), ("peer_id", write p.peerId),
    ("instance_id", write p.instanceId)]
  read := .record "a peer" (Peer.mk <$> field "hostname" <*> field "virtual_ip" <*>
    field "is_direct" <*> field "connection_details" <*> field "latency" <*> field "traffic" <*>
    field "version" <*> field "nat_type" <*> field "cost" <*> field "next_hop_peer_id" <*>
    field "peer_id" <*> field "instance_id")

instance : Saved Topology where
  write t := .record [("node", write t.node), ("peers", write t.peers)]
  read := .record "a topology" (Topology.mk <$> field "node" <*> field "peers")

instance : Saved EngineStatus where
  write s := .record [("running", write s.running), ("instance_name", write s.instanceName),
    ("virtual_ipv4", write s.virtualIpv4), ("proxy_cidrs", write s.proxyCidrs)]
  read := .record "an engine status" (EngineStatus.mk <$> field "running" <*>
    field "instance_name" <*> field? "virtual_ipv4" <*> field "proxy_cidrs")

end MeshWatch
