import MeshWatch.Profile.Basic

/-!
# Records of profiles

How profiles are saved. Every field may be left out of a record and then has its usual value, so
that profiles saved with fewer or with other fields can still be read.
-/
namespace MeshWatch

open Data (Fields Reader)
open Saved (fieldOr)

/-- An id; one that is left out is still to be given. -/
def idField : Fields (Option String) := .defaulted "id" (fun d => (Reader.text d).map some) none

namespace PortForwardOf

def write (f : PortForward) : Data :=
  .record [("id", Saved.write f.id), ("proto", Saved.write f.protocol),
    ("bind_ip", Saved.write f.bindIp), ("bind_port", Saved.write f.bindPort),
    ("dst_ip", Saved.write f.targetIp), ("dst_port", Saved.write f.targetPort)]

def read : Reader (PortForwardOf (Option String)) :=
  .record "a port forward" (mk <$> idField <*> fieldOr "proto" standard.protocol <*>
    fieldOr "bind_ip" standard.bindIp <*> fieldOr "bind_port" standard.bindPort <*>
    fieldOr "dst_ip" standard.targetIp <*> fieldOr "dst_port" standard.targetPort)

end PortForwardOf

namespace ProfileOf

def write (p : Profile) : Data :=
  .record ([("id", Saved.write p.id), ("instance_name", Saved.write p.instanceName),
    ("virtual_ipv4", Saved.write p.virtualIpv4),
    ("network_length", Saved.write p.networkLength), ("dhcp", Saved.write p.dhcp),
    ("network_name", Saved.write p.networkName),
    ("network_secret", Saved.write p.networkSecret), ("peers", Saved.write p.peers),
    ("hostname", Saved.write p.hostname), ("proxy_networks", Saved.write p.proxyNetworks),
    ("enable_vpn_portal", Saved.write p.vpnPortalOn),
    ("vpn_portal_client_network_addr", Saved.write p.vpnClientAddress),
    ("vpn_portal_client_network_len", Saved.write p.vpnClientLength),
    ("vpn_portal_listen_port", Saved.write p.vpnListenPort),
    ("listener_urls", Saved.write p.listeners), ("dev_name", Saved.write p.deviceName),
    ("mtu", Saved.write p.mtu),
    ("enable_relay_network_whitelist", Saved.write p.relayWhitelistOn),
    ("relay_network_whitelist", Saved.write p.relayWhitelist),
    ("enable_manual_routes", Saved.write p.manualRoutesOn),
    ("routes", Saved.write p.manualRoutes), ("enable_socks5", Saved.write p.socks5On),
    ("socks5_port", Saved.write p.socks5Port), ("exit_nodes", Saved.write p.exitNodes),
    ("mapped_listeners", Saved.write p.mappedListeners),
    ("rpc_portal", Saved.write p.rpcPortal),
    ("rpc_portal_whitelist", Saved.write p.rpcPortalWhitelist),
    ("port_forwards", .list (p.portForwards.map PortForwardOf.write))] ++ p.switches.members)

def read : Reader UnnamedProfile :=
  .record "a profile" (mk <$> idField <*> fieldOr "instance_name" standard.instanceName <*>
    fieldOr "virtual_ipv4" standard.virtualIpv4 <*>
    fieldOr "network_length" standard.networkLength <*> fieldOr "dhcp" standard.dhcp <*>
    fieldOr "network_name" standard.networkName <*>
    fieldOr "network_secret" standard.networkSecret <*> fieldOr "peers" standard.peers <*>
    fieldOr "hostname" standard.hostname <*> fieldOr "proxy_networks" standard.proxyNetworks <*>
    fieldOr "enable_vpn_portal" standard.vpnPortalOn <*>
    fieldOr "vpn_portal_client_network_addr" standard.vpnClientAddress <*>
    fieldOr "vpn_portal_client_network_len" standard.vpnClientLength <*>
    fieldOr "vpn_portal_listen_port" standard.vpnListenPort <*>
    fieldOr "listener_urls" standard.listeners <*> fieldOr "dev_name" standard.deviceName <*>
    fieldOr "mtu" standard.mtu <*>
    fieldOr "enable_relay_network_whitelist" standard.relayWhitelistOn <*>
    fieldOr "relay_network_whitelist" standard.relayWhitelist <*>
    fieldOr "enable_manual_routes" standard.manualRoutesOn <*>
    fieldOr "routes" standard.manualRoutes <*> fieldOr "enable_socks5" standard.socks5On <*>
    fieldOr "socks5_port" standard.socks5Port <*> fieldOr "exit_nodes" standard.exitNodes <*>
    fieldOr "mapped_listeners" standard.mappedListeners <*>
    fieldOr "rpc_portal" standard.rpcPortal <*>
    fieldOr "rpc_portal_whitelist" standard.rpcPortalWhitelist <*>
    Fields.defaulted "port_forwards" (Reader.list PortForwardOf.read) standard.portForwards <*>
    Switches.fields)

/-- A profile in JSON. -/
def ofText? (s : String) : Option UnnamedProfile := do
  let tree ← Json.tree? s
  (read tree).toOption

end ProfileOf

end MeshWatch
