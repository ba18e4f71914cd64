import MeshWatch.Saved

/-!
# Switches

The settings that are on or off, which a profile and the engine's configuration have in common.
-/
namespace MeshWatch

structure Switches where
  latencyFirst : Bool
  useSmoltcp : Bool
  disableIpv6 : Bool
  enableKcpProxy : Bool
  disableKcpInput : Bool
  enableQuicProxy : Bool
  disableQuicInput : Bool
  disableP2p : Bool
  bindDevice : Bool
  noTun : Bool
  enableExitNode : Bool
  relayAllPeerRpc : Bool
  multiThread : Bool
  proxyForwardBySystem : Bool
  disableEncryption : Bool
  disableUdpHolePunching : Bool
  disableSymHolePunching : Bool
  acceptDns : Bool
  privateMode : Bool
deriving DecidableEq

namespace Switches

/-- Everything is off but the use of several threads. -/
def standard : Switches where
  latencyFirst := false
  useSmoltcp := false
  disableIpv6 := false
  enableKcpProxy := false
  disableKcpInput := false
  enableQuicProxy := false
  disableQuicInput := false
  disableP2p := false
  bindDevice := false
  noTun := false
  enableExitNode := false
  relayAllPeerRpc := false
  multiThread := true
  proxyForwardBySystem := false
  disableEncryption := false
  disableUdpHolePunching := false
  disableSymHolePunching := false
  acceptDns := false
  privateMode := false

open Saved (fieldOr)

def members (s : Switches) : List (String × Data) :=
  [("latency_first", .bool s.latencyFirst), ("use_smoltcp", .bool s.useSmoltcp),
    ("disable_ipv6", .bool s.disableIpv6), ("enable_kcp_proxy", .bool s.enableKcpProxy),
    ("disable_kcp_input", .bool s.disableKcpInput),
    ("enable_quic_proxy", .bool s.enableQuicProxy),
    ("disable_quic_input", .bool s.disableQuicInput), ("disable_p2p", .bool s.disableP2p),
    ("bind_device", .bool s.bindDevice), ("no_tun", .bool s.noTun),
    ("enable_exit_node", .bool s.enableExitNode),
    ("relay_all_peer_rpc", .bool s.relayAllPeerRpc), ("multi_thread", .bool s.multiThread),
    ("proxy_forward_by_system", .bool s.proxyForwardBySystem),
    ("disable_encryption", .bool s.disableEncryption),
    ("disable_udp_hole_punching", .bool s.disableUdpHolePunching),
    ("disable_sym_hole_punching", .bool s.disableSymHolePunching),
    ("accept_dns", .bool s.acceptDns), ("private_mode", .bool s.privateMode)]

def fields : Data.Fields Switches :=
  mk <$> fieldOr "latency_first" standard.latencyFirst <*>
    fieldOr "use_smoltcp" standard.useSmoltcp <*>
    fieldOr "disable_ipv6" standard.disableIpv6 <*>
    fieldOr "enable_kcp_proxy" standard.enableKcpProxy <*>
    fieldOr "disable_kcp_input" standard.disableKcpInput <*>
    fieldOr "enable_quic_proxy" standard.enableQuicProxy <*>
    fieldOr "disable_quic_input" standard.disableQuicInput <*>
    fieldOr "disable_p2p" standard.disableP2p <*>
    fieldOr "bind_device" standard.bindDevice <*>
    fieldOr "no_tun" standard.noTun <*>
    fieldOr "enable_exit_node" standard.enableExitNode <*>
    fieldOr "relay_all_peer_rpc" standard.relayAllPeerRpc <*>
    fieldOr "multi_thread" standard.multiThread <*>
    fieldOr "proxy_forward_by_system" standard.proxyForwardBySystem <*>
    fieldOr "disable_encryption" standard.disableEncryption <*>
    fieldOr "disable_udp_hole_punching" standard.disableUdpHolePunching <*>
    fieldOr "disable_sym_hole_punching" standard.disableSymHolePunching <*>
    fieldOr "accept_dns" standard.acceptDns <*>
    fieldOr "private_mode" standard.privateMode

end Switches

end MeshWatch
