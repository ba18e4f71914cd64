import MeshWatch.Engine.Config
import MeshWatch.Profile.Basic

/-!
# Profiles and configurations

A profile is turned into the configuration of an engine, and a configuration back into a profile.
On the way out what is off or blank is dropped; on the way back what cannot be taken apart gets
its usual value.
-/
namespace MeshWatch

/-- An address and a port with a colon in between. -/
def withPort (host : String) (port : UInt16) : String := host ++ ":" ++ toString port.toNat

def withLength (address : String) (length : UInt8) : String :=
  address ++ "/" ++ toString length.toNat

def PortForwardOf.rule? (f : PortForwardOf ι) : Option ForwardRule :=
  if f.isComplete then
    match f.bindPort, f.targetPort with
    | some bindPort, some targetPort =>
      some ⟨withPort f.bindIp bindPort, withPort f.targetIp targetPort, f.protocol⟩
    | _, _ => none
  else none

def readPort? (s : List Char) : Option UInt16 :=
  (Text.readBounded? 65535 (Text.trim s)).map .ofNat

def readLength? (s : List Char) : Option UInt8 :=
  (Text.readBounded? 255 (Text.trim s)).map .ofNat

def readMtu? (s : String) : Option UInt32 :=
  (Text.readBounded? 4294967295 (Text.trim s.toList)).map .ofNat

namespace ProfileOf

def flags (p : ProfileOf ι) : EngineFlags where
  deviceName := Text.nonBlank p.deviceName
  mtu := readMtu? p.mtu
  relayWhitelist := if p.relayWhitelistOn then Text.nonBlank p.relayWhitelist else none
  switches := p.switches

/-- The configuration of a profile. -/
def toConfig (p : Profile) : EngineConfig where
  hostname := Text.nonBlank p.hostname
  instanceName := p.instanceName
  instanceId := p.id
  dhcp := p.dhcp
  ipv4 := if p.dhcp then none
    else (Text.nonBlank p.virtualIpv4).map (withLength · p.networkLength)
  listeners := Text.items p.listeners
  mappedListeners := Text.items p.mappedListeners
  exitNodes := Text.items p.exitNodes
  rpcPortal := Text.nonBlank p.rpcPortal
  rpcPortalWhitelist := Text.items p.rpcPortalWhitelist
  routes := if p.manualRoutesOn then Text.items p.manualRoutes else []
  socks5Proxy := if p.socks5On then some (withPort "socks5://0.0.0.0" p.socks5Port) else none
  networkName := p.networkName
  networkSecret := p.networkSecret
  peers := Text.items p.peers
  proxyNetworks := Text.items p.proxyNetworks
  vpnPortal := if p.vpnPortalOn then
      some ⟨withLength p.vpnClientAddress p.vpnClientLength, withPort "0.0.0.0" p.vpnListenPort⟩
    else none
  forwards := p.portForwards.filterMap PortForwardOf.rule?
  flags := p.flags

end ProfileOf

/-- The address and the length of a network, at the first slash. -/
def splitCidr (cidr : String) (address : String) (length : UInt8) : String × UInt8 :=
  let (front, back) := match Text.cutFirst '/' cidr.toList with
    | some (front, back) => (front, some back)
    | none => (cidr.toList, none)
  let front := Text.trim front
  (if front = [] then address else String.ofList front, (back.bind readLength?).getD length)

/-- The port after the last colon, or of the whole text if there is no colon. -/
def lastPort? (address : String) : Option UInt16 :=
  match Text.cutLast ':' address.toList with
  | some (_, port) => readPort? port
  | none => readPort? address.toList

/-- The host before the last colon and the port after it. -/
def splitHostPort (address : String) : String × Option UInt16 :=
  match Text.cutLast ':' address.toList with
  | some (host, port) => (String.ofList (Text.trim host), readPort? port)
  | none => (Text.trimmed address, none)

/-- The port forward of a rule, if it is complete. -/
def ForwardRule.portForward? (r : ForwardRule) : Option (PortForwardOf (Option String)) :=
  let (bindIp, bindPort) := splitHostPort r.bindAddress
  let (targetIp, targetPort) := splitHostPort r.targetAddress
  let f : PortForwardOf (Option String) :=
    ⟨none, r.protocol, if bindIp = "" then PortForwardOf.standard.bindIp else bindIp, bindPort,
      targetIp, targetPort⟩
  if f.isComplete then some f else none

/-- The profile of a configuration. A blank id is still to be given, and so are those of the
port forwards. -/
def EngineConfig.toProfile (c : EngineConfig) : UnnamedProfile :=
  let standard := ProfileOf.standard
  let (virtualIpv4, networkLength) := match c.ipv4 with
    | some cidr => splitCidr cidr "" 24
    | none => ("", 24)
  let (vpnClientAddress, vpnClientLength) := match c.vpnPortal with
    | some portal => splitCidr portal.clientCidr standard.vpnClientAddress 24
    | none => (standard.vpnClientAddress, 24)
  { id := if Text.allBlank c.instanceId then none else some c.instanceId
    instanceName := c.instanceName
    virtualIpv4 := virtualIpv4
    networkLength := networkLength
    dhcp := c.dhcp
    networkName := c.networkName
    networkSecret := c.networkSecret
    peers := Text.joinLines c.peers
    hostname := c.hostname.getD ""
    proxyNetworks := Text.joinLines c.proxyNetworks
    vpnPortalOn := c.vpnPortal.isSome
    vpnClientAddress := vpnClientAddress
    vpnClientLength := vpnClientLength
    vpnListenPort :=
      (c.vpnPortal.bind fun portal => lastPort? portal.listen).getD standard.vpnListenPort
    listeners := Text.joinLines c.listeners
    deviceName := c.flags.deviceName.getD ""
    mtu := (c.flags.mtu.map fun mtu => toString mtu.toNat).getD ""
    relayWhitelistOn := c.flags.relayWhitelist.any fun w => !Text.allBlank w
    relayWhitelist := c.flags.relayWhitelist.getD ""
    manualRoutesOn := !c.routes.isEmpty
    manualRoutes := Text.joinLines c.routes
    socks5On := c.socks5Proxy.isSome
    socks5Port := (c.socks5Proxy.bind lastPort?).getD standard.socks5Port
    exitNodes := Text.joinLines c.exitNodes
    mappedListeners := Text.joinLines c.mappedListeners
    rpcPortal := c.rpcPortal.getD standard.rpcPortal
    rpcPortalWhitelist := Text.joinLines c.rpcPortalWhitelist
    portForwards := c.forwards.filterMap ForwardRule.portForward?
    switches := c.flags.switches }

/-- The configuration of a profile as a TOML document. -/
def ProfileOf.toToml (p : Profile) : String := p.toConfig.toToml

end MeshWatch
