import MeshWatch.Engine.Switches
import MeshWatch.Toml.Document
import MeshWatch.Toml.Printer

/-!
# Engine configuration

The document that an engine is started with. Settings that are off or blank are left out of it.
Plain values come first and tables last, which is also their order in the text.
-/
namespace MeshWatch

structure VpnPortal where
  clientCidr : String
  listen : String
deriving DecidableEq

structure ForwardRule where
  bindAddress : String
  targetAddress : String
  protocol : String
deriving DecidableEq

structure EngineFlags where
  deviceName : Option String
  mtu : Option UInt32
  relayWhitelist : Option String
  switches : Switches
deriving DecidableEq

structure EngineConfig where
  hostname : Option String
  instanceName : String
  instanceId : String
  dhcp : Bool
  ipv4 : Option String
  listeners : List String
  mappedListeners : List String
  exitNodes : List String
  rpcPortal : Option String
  rpcPortalWhitelist : List String
  routes : List String
  socks5Proxy : Option String
  networkName : String
  networkSecret : String
  /-- Addresses of the peers to connect to. -/
  peers : List String
  /-- Networks that are made reachable through this node. -/
  proxyNetworks : List String
  vpnPortal : Option VpnPortal
  forwards : List ForwardRule
  flags : EngineFlags
deriving DecidableEq

namespace EngineConfig

open Data (Fields Reader Surplus)
open Saved (field fieldOr)

/-- A list that is left out if it is empty. -/
def unlessEmpty (write : α → Data) : List α → Option Data
  | [] => none
  | as => some (.list (as.map write))

def flagsData (f : EngineFlags) : Data :=
  .present ([("dev_name", f.deviceName.map Saved.write), ("mtu", f.mtu.map Saved.write),
    ("relay_network_whitelist", f.relayWhitelist.map Saved.write)] ++
    f.switches.members.map fun (name, value) => (name, some value))

def portalData (p : VpnPortal) : Data :=
  .record [("client_cidr", .text p.clientCidr), ("wireguard_listen", .text p.listen)]

def forwardData (r : ForwardRule) : Data :=
  .record [("bind_addr", .text r.bindAddress), ("dst_addr", .text r.targetAddress),
    ("proto", .text r.protocol)]

def write (c : EngineConfig) : Data :=
  .present [("hostname", c.hostname.map .text), ("instance_name", some (.text c.instanceName)),
    ("instance_id", some (.text c.instanceId)), ("dhcp", some (.bool c.dhcp)),
    ("ipv4", c.ipv4.map .text), ("listeners", unlessEmpty .text c.listeners),
    ("mapped_listeners", unlessEmpty .text c.mappedListeners),
    ("exit_nodes", unlessEmpty .text c.exitNodes), ("rpc_portal", c.rpcPortal.map .text),
    ("rpc_portal_whitelist", unlessEmpty .text c.rpcPortalWhitelist),
    ("routes", unlessEmpty .text c.routes), ("socks5_proxy", c.socks5Proxy.map .text),
    ("network_identity", some (.record [("network_name", .text c.networkName),
      ("network_secret", .text c.networkSecret)])),
    ("peer", unlessEmpty (fun uri => .record [("uri", .text uri)]) c.peers),
    ("proxy_network", unlessEmpty (fun cidr => .record [("cidr", .text cidr)]) c.proxyNetworks),
    ("vpn_portal_config", c.vpnPortal.map portalData),
    ("port_forward", unlessEmpty forwardData c.forwards),
    ("flags", some (flagsData c.flags))]

def readIdentity (surplus : Surplus) : Reader (String × String) :=
  .record "a network identity" ((fun name secret => (name, secret)) <$> field "network_name" <*>
    field "network_secret") surplus

def readPeer (surplus : Surplus) : Reader String := .record "a peer" (field "uri") surplus

def readNetwork (surplus : Surplus) : Reader String := .record "a network" (field "cidr") surplus

def readPortal (surplus : Surplus) : Reader VpnPortal :=
  .record "a portal" (VpnPortal.mk <$> field "client_cidr" <*> field "wireguard_listen") surplus

def readForward (surplus : Surplus) : Reader ForwardRule :=
  .record "a forward" (ForwardRule.mk <$> field "bind_addr" <*> field "dst_addr" <*>
    field "proto") surplus

def noFlags : EngineFlags := ⟨none, none, none, .standard⟩

def readFlags (surplus : Surplus) : Reader EngineFlags :=
  .record "flags" (EngineFlags.mk <$> fieldOr "dev_name" none <*> fieldOr "mtu" none <*>
    fieldOr "relay_network_whitelist" none <*> Switches.fields) surplus

def ofParts (hostname : Option String) (instanceName instanceId : String) (dhcp : Bool)
    (ipv4 : Option String) (listeners mappedListeners exitNodes : List String)
    (rpcPortal : Option String) (rpcPortalWhitelist routes : List String)
    (socks5Proxy : Option String) (identity : String × String)
    (peers proxyNetworks : List String) (vpnPortal : Option VpnPortal)
    (forwards : List ForwardRule) (flags : EngineFlags) : EngineConfig :=
  ⟨hostname, instanceName, instanceId, dhcp, ipv4, listeners, mappedListeners, exitNodes,
    rpcPortal, rpcPortalWhitelist, routes, socks5Proxy, identity.1, identity.2, peers,
    proxyNetworks, vpnPortal, forwards, flags⟩

/-- A configuration. Everything in it has a value to fall back on. -/
def read (surplus : Surplus) : Reader EngineConfig :=
  .record "an engine configuration" (ofParts <$> fieldOr "hostname" none <*>
    fieldOr "instance_name" "" <*> fieldOr "instance_id" "" <*> fieldOr "dhcp" false <*>
    fieldOr "ipv4" none <*> fieldOr "listeners" [] <*> fieldOr "mapped_listeners" [] <*>
    fieldOr "exit_nodes" [] <*> fieldOr "rpc_portal" none <*>
    fieldOr "rpc_portal_whitelist" [] <*> fieldOr "routes" [] <*>
    fieldOr "socks5_proxy" none <*>
    Fields.defaulted "network_identity" (readIdentity surplus) ("", "") <*>
    Fields.defaulted "peer" (Reader.list (readPeer surplus)) [] <*>
    Fields.defaulted "proxy_network" (Reader.list (readNetwork surplus)) [] <*>
    Fields.defaulted "vpn_portal_config" (Reader.option (readPortal surplus)) none <*>
    Fields.defaulted "port_forward" (Reader.list (readForward surplus)) [] <*>
    Fields.defaulted "flags" (readFlags surplus) noFlags) surplus

instance : Saved EngineConfig := ⟨write, read .refused⟩

/-- The configuration as a TOML document. -/
def toToml (c : EngineConfig) : String := Toml.document c.write

/-- The configuration of a TOML document. -/
def ofToml? (s : String) : Option EngineConfig := do
  let document ← Toml.document? s
  (read .ignored document).toOption

end EngineConfig

end MeshWatch
