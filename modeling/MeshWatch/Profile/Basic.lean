import MeshWatch.Engine.Switches
import MeshWatch.Supply
import MeshWatch.Text.Lines

/-!
# Profiles

The settings of one network as an operator edits them: flat, with lists written one item to a
line. A profile that was read from a text may still lack ids; it is completed from a supply.
-/
namespace MeshWatch

structure PortForwardOf (ι : Type) where
  id : ι
  protocol : String
  bindIp : String
  bindPort : Option UInt16
  targetIp : String
  targetPort : Option UInt16
deriving DecidableEq

structure ProfileOf (ι : Type) where
  id : ι
  instanceName : String
  virtualIpv4 : String
  networkLength : UInt8
  dhcp : Bool
  networkName : String
  networkSecret : String
  peers : String
  hostname : String
  proxyNetworks : String
  vpnPortalOn : Bool
  vpnClientAddress : String
  vpnClientLength : UInt8
  vpnListenPort : UInt16
  listeners : String
  deviceName : String
  mtu : String
  relayWhitelistOn : Bool
  relayWhitelist : String
  manualRoutesOn : Bool
  manualRoutes : String
  socks5On : Bool
  socks5Port : UInt16
  exitNodes : String
  mappedListeners : String
  rpcPortal : String
  rpcPortalWhitelist : String
  portForwards : List (PortForwardOf ι)
  switches : Switches
deriving DecidableEq

abbrev PortForward := PortForwardOf String

abbrev Profile := ProfileOf String

/-- A profile some of whose ids are still to be given. -/
abbrev UnnamedProfile := ProfileOf (Option String)

/-- Whether a rule has everything that the engine needs. -/
def PortForwardOf.isComplete (f : PortForwardOf ι) : Bool :=
  f.bindPort.isSome && f.targetPort.isSome && !Text.allBlank f.targetIp

def PortForwardOf.standard : PortForwardOf (Option String) :=
  ⟨none, "tcp", "0.0.0.0", none, "", none⟩

namespace ProfileOf

def standardName : String := "meshlens"

def standard : UnnamedProfile where
  id := none
  instanceName := standardName
  virtualIpv4 := ""
  networkLength := 24
  dhcp := true
  networkName := standardName
  networkSecret := ""
  peers := ""
  hostname := ""
  proxyNetworks := ""
  vpnPortalOn := false
  vpnClientAddress := "10.14.14.0"
  vpnClientLength := 24
  vpnListenPort := 11011
  listeners := "tcp://0.0.0.0:11010\nudp://0.0.0.0:11010\nwg://0.0.0.0:11011"
  deviceName := ""
  mtu := ""
  relayWhitelistOn := false
  relayWhitelist := ""
  manualRoutesOn := false
  manualRoutes := ""
  socks5On := false
  socks5Port := 1080
  exitNodes := ""
  mappedListeners := ""
  rpcPortal := "0.0.0.0:0"
  rpcPortalWhitelist := ""
  portForwards := []
  switches := .standard

end ProfileOf

/-- Gives ids to the rules that lack one, in order. -/
def nameForwards (supply : Supply) :
    List (PortForwardOf (Option String)) → List PortForward × Supply
  | [] => ([], supply)
  | f :: rest =>
    let (id, supply) := supply.idOr f.id
    let (rest, supply) := nameForwards supply rest
    ({ f with id := id } :: rest, supply)

/-- Gives ids where they are lacking: to the profile first, then to its port forwards. -/
def UnnamedProfile.name (p : UnnamedProfile) (supply : Supply) : Profile × Supply :=
  let (id, supply) := supply.idOr p.id
  let (portForwards, supply) := nameForwards supply p.portForwards
  ({ p with id := id, portForwards := portForwards }, supply)

def nameAll (supply : Supply) : List UnnamedProfile → List Profile × Supply
  | [] => ([], supply)
  | p :: rest =>
    let (p, supply) := p.name supply
    let (rest, supply) := nameAll supply rest
    (p :: rest, supply)

end MeshWatch
